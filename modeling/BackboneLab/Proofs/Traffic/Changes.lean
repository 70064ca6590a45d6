import BackboneLab.Proofs.Ordered.Set
import BackboneLab.Proofs.Traffic.Matrix
import Mathlib.Data.List.Induction
import Mathlib.Data.Set.Card
import Mathlib.Logic.Function.Iterate

/-!
# Changes of a traffic matrix

A matrix is changed by setting the bandwidths of two hosts, by doubling it, and by replacing it with a
list of demands. What it has for two hosts is what the latest change wrote for them, doubled as often as
the matrix was doubled since (`DemandMatrix.find?_after`), and it lists its demands by the octets of their
addresses (`DemandMatrix.isListed`). The list that a document gives is read and written again in one order
(`DemandMatrix.recode?_of_perm`), but its numbers are those of the document only if they are read back
exactly: `matrix_latest_writes` puts this together, and `recoding_inexact` is a document that is written
anew each time.
-/

namespace BackboneLab

/-! ## The order of addresses -/

namespace Ipv4

/-- The octets of an address, the first one first. -/
def octets (a : Ipv4) : List Nat :=
  [a.first.toNat, a.second.toNat, a.third.toNat, a.fourth.toNat]

/-- Addresses are ordered octet by octet. -/
theorem compare_eq_lt_iff {a b : Ipv4} : compare a b = .lt ↔ a.octets < b.octets := by
  have := a.second.toNat_lt; have := a.third.toNat_lt; have := a.fourth.toNat_lt
  have := b.second.toNat_lt; have := b.third.toNat_lt; have := b.fourth.toNat_lt
  rw [compare_def, Nat.compare_eq_lt]
  simp only [octets, toNat, List.cons_lt_cons_iff, List.lt_irrefl, and_false, or_false]
  omega

theorem octets_injective {a b : Ipv4} (h : a.octets = b.octets) : a = b := by
  simp only [octets, List.cons.injEq, UInt8.toNat_inj, and_true] at h
  obtain ⟨h1, h2, h3, h4⟩ := h
  cases a
  cases b
  simp_all

/-- The octets behind those of an address decide only between equal addresses. -/
theorem octets_append_lt_iff {a b : Ipv4} {xs ys : List Nat} :
    a.octets ++ xs < b.octets ++ ys ↔ a.octets < b.octets ∨ a.octets = b.octets ∧ xs < ys := by
  simp only [octets, List.cons_append, List.nil_append, List.cons_lt_cons_iff, List.cons.injEq,
    List.lt_irrefl]
  tauto

end Ipv4

namespace HostPair

/-- The octets of the source and then those of the destination. -/
def octets (p : HostPair) : List Nat := p.source.octets ++ p.destination.octets

/-- Pairs of hosts are ordered octet by octet, those of the source first. -/
theorem compare_eq_lt_iff {p q : HostPair} : compare p q = .lt ↔ p.octets < q.octets := by
  have hthen : compare p q =
      (compare p.source q.source).then (compare p.destination q.destination) := rfl
  rw [hthen, Ordering.then_eq_lt, octets, octets, Ipv4.octets_append_lt_iff, Ipv4.compare_eq_lt_iff,
    Ipv4.compare_eq_lt_iff, Std.LawfulEqCmp.compare_eq_iff_eq]
  exact or_congr_right (and_congr_left fun _ => ⟨congrArg Ipv4.octets, Ipv4.octets_injective⟩)

end HostPair

/-! ## Changes -/

/-- A way to change a matrix. -/
inductive MatrixChange
  /-- Sets the bandwidths of two hosts. -/
  | insert (demand : Demand)
  /-- Plays every demand twice in a row. -/
  | double
  /-- Replaces everything by a list of demands. -/
  | load (demands : List Demand)

namespace MatrixChange

/-- The matrix after a change. -/
def apply (m : DemandMatrix) : MatrixChange → DemandMatrix
  | insert d => m.insert d
  | double => m.doubled
  | load ds => .ofList ds

/-- The bandwidths that a change sets for two hosts. Of a list the last demand between them counts. -/
def written? (p : HostPair) : MatrixChange → Option (List Bandwidth)
  | insert d => if d.hosts = p then some d.bandwidths else none
  | double => none
  | load ds => (ds.filter (·.hosts = p)).getLast?.map Demand.bandwidths

/-- Whether a change leaves the bandwidths of two hosts in the matrix, once or twice. -/
def Spares (p : HostPair) : MatrixChange → Prop
  | insert d => d.hosts ≠ p
  | double => True
  | load _ => False

/-- Whether a change doubles the matrix. -/
def isDouble : MatrixChange → Bool
  | double => true
  | insert _ | load _ => false

end MatrixChange

/-- What the latest change to two hosts wrote for them, concatenated with itself for every doubling since. -/
def LatestSeries (p : HostPair) (cs : List MatrixChange) (bs : List Bandwidth) : Prop :=
  ∃ earlier c later written, cs = earlier ++ c :: later ∧ c.written? p = some written ∧
    (∀ x ∈ later, x.Spares p) ∧ bs = (fun xs => xs ++ xs)^[later.countP (·.isDouble)] written

theorem iterate_countP_concat (later : List MatrixChange) (c : MatrixChange) (xs : List Bandwidth) :
    (fun xs => xs ++ xs)^[(later ++ [c]).countP (·.isDouble)] xs =
      if c.isDouble then (fun xs => xs ++ xs)^[later.countP (·.isDouble)] xs ++
          (fun xs => xs ++ xs)^[later.countP (·.isDouble)] xs
        else (fun xs => xs ++ xs)^[later.countP (·.isDouble)] xs := by
  rw [List.countP_append, List.countP_singleton]
  split
  · rw [Function.iterate_succ_apply']
  · rfl

/-- One change more: it writes the bandwidths itself, or it spares those that are there. -/
theorem latestSeries_concat {p : HostPair} {cs : List MatrixChange} {c : MatrixChange}
    {bs : List Bandwidth} : LatestSeries p (cs ++ [c]) bs ↔
      c.written? p = some bs ∨
        c.Spares p ∧ ∃ xs, LatestSeries p cs xs ∧ bs = if c.isDouble then xs ++ xs else xs := by
  constructor
  · rintro ⟨earlier, c', later, written, hcs, hwritten, hspares, rfl⟩
    rcases List.eq_nil_or_concat later with rfl | ⟨later, last, rfl⟩
    · obtain ⟨rfl, hc⟩ := List.append_inj' hcs rfl
      cases hc
      exact .inl hwritten
    · rw [List.concat_eq_append, ← List.cons_append, ← List.append_assoc] at hcs
      obtain ⟨rfl, hc⟩ := List.append_inj' hcs rfl
      cases hc
      rw [List.concat_eq_append, List.forall_mem_append] at hspares
      refine .inr ⟨hspares.2 c List.mem_cons_self, _,
        ⟨earlier, c', later, written, rfl, hwritten, hspares.1, rfl⟩, ?_⟩
      rw [List.concat_eq_append, iterate_countP_concat]
  · rintro (hwritten | ⟨hspares, xs, ⟨earlier, c', later, written, rfl, hwritten, hlater, rfl⟩, rfl⟩)
    · exact ⟨cs, c, [], bs, rfl, hwritten, nofun, rfl⟩
    · refine ⟨earlier, c', later ++ [c], written, List.append_assoc .., hwritten, ?_, ?_⟩
      · exact List.forall_mem_append.2 ⟨hlater, List.forall_mem_singleton.2 hspares⟩
      · rw [iterate_countP_concat]

namespace DemandMatrix

/-- The matrix after changes, one after the other, of the empty one. -/
def after (cs : List MatrixChange) : DemandMatrix := cs.foldl MatrixChange.apply empty

theorem after_concat (cs : List MatrixChange) (c : MatrixChange) : after (cs ++ [c]) = c.apply (after cs) := by
  rw [after, List.foldl_append]
  rfl

theorem find?_insert (m : DemandMatrix) (d : Demand) (p : HostPair) :
    (m.insert d).find? p = if d.hosts = p then some d.bandwidths else m.find? p := by
  split
  next h => exact h ▸ m.series.find?_insert_self d.hosts d.bandwidths
  next h => exact m.series.find?_insert_of_ne d.bandwidths (Ne.symm h)

theorem find?_doubled (m : DemandMatrix) (p : HostPair) :
    m.doubled.find? p = (m.find? p).map fun bs => bs ++ bs :=
  m.series.find?_mapValues _ p

theorem find?_ofList (ds : List Demand) (p : HostPair) :
    (ofList ds).find? p = (ds.filter (·.hosts = p)).getLast?.map Demand.bandwidths := by
  rw [find?, ofList, OrderedMap.find?_ofList, List.filter_map, List.getLast?_map, Option.map_map]
  rfl

/-- A matrix has for two hosts what the latest change to them wrote, and nothing if there is none. -/
theorem find?_after {p : HostPair} {cs : List MatrixChange} {bs : List Bandwidth} :
    (after cs).find? p = some bs ↔ LatestSeries p cs bs := by
  induction cs using List.reverseRecOn generalizing bs with
  | nil =>
    refine iff_of_false nofun ?_
    rintro ⟨earlier, c, later, written, hcs, -⟩
    exact List.append_ne_nil_of_right_ne_nil earlier (List.cons_ne_nil c later) hcs.symm
  | append_singleton cs c ih =>
    rw [after_concat, latestSeries_concat]
    simp only [← ih]
    cases c with
    | insert d =>
      rw [MatrixChange.apply, find?_insert]
      by_cases hd : d.hosts = p
      · simp [MatrixChange.written?, MatrixChange.Spares, hd]
      · simp [MatrixChange.written?, MatrixChange.Spares, MatrixChange.isDouble, hd]
    | double =>
      rw [MatrixChange.apply, find?_doubled, Option.map_eq_some_iff]
      simp [MatrixChange.written?, MatrixChange.Spares, MatrixChange.isDouble, eq_comm]
    | load ds =>
      rw [MatrixChange.apply, find?_ofList]
      simp [MatrixChange.written?, MatrixChange.Spares]

/-! ## What a matrix lists -/

/-- What the list of the demands, the number of demands and the list of the hosts say about a matrix. -/
structure IsListed (m : DemandMatrix) : Prop where
  /-- Demands are listed in strictly increasing order of the octets of their hosts. -/
  ordered : (m.toList.map Demand.hosts).Pairwise fun p q => p.octets < q.octets
  /-- This list is what a document holds. -/
  encode_eq : encode m = .list (m.toList.map encode)
  mem_iff : ∀ d, d ∈ m.toList ↔ m.find? d.hosts = some d.bandwidths
  size_eq : m.size = {p | (m.find? p).isSome}.ncard
  hosts_ordered : m.hosts.toList.Pairwise fun a b => a.octets < b.octets
  mem_hosts_iff : ∀ a, a ∈ m.hosts.toList ↔
    ∃ p, (m.find? p).isSome ∧ (a = p.source ∨ a = p.destination)

theorem mem_keys_iff {m : DemandMatrix} {p : HostPair} : p ∈ m.series.keys ↔ (m.find? p).isSome := by
  rw [OrderedMap.keys, List.mem_map, Option.isSome_iff_exists]
  constructor
  · rintro ⟨e, he, rfl⟩
    exact ⟨e.2, OrderedMap.find?_eq_some_iff.2 he⟩
  · rintro ⟨bs, hbs⟩
    exact ⟨(p, bs), OrderedMap.find?_eq_some_iff.1 hbs, rfl⟩

theorem isListed (m : DemandMatrix) : m.IsListed where
  ordered := by
    rw [map_hosts_toList]
    exact (List.pairwise_map.2 m.series.ordered).imp HostPair.compare_eq_lt_iff.1
  encode_eq := rfl
  mem_iff d := by
    rw [find?, OrderedMap.find?_eq_some_iff, toList, List.mem_map]
    constructor
    · rintro ⟨e, he, rfl⟩
      exact he
    · intro hd
      exact ⟨(d.hosts, d.bandwidths), hd, rfl⟩
  size_eq := by
    have hkeys : {p | (m.find? p).isSome} = (m.series.keys.toFinset : Set HostPair) := by
      ext p
      rw [Set.mem_ofPred_eq, Finset.mem_coe, List.mem_toFinset, mem_keys_iff]
    rw [hkeys, Set.ncard_coe_finset, List.toFinset_card_of_nodup m.series.keys_nodup,
      OrderedMap.keys, List.length_map]
    rfl
  hosts_ordered := m.hosts.pairwise_toList.imp Ipv4.compare_eq_lt_iff.1
  mem_hosts_iff a := by
    rw [← OrderedSet.mem_iff, hosts, OrderedSet.mem_ofList, List.mem_flatMap]
    simp only [mem_keys_iff, List.mem_cons, List.not_mem_nil, or_false]

/-! ## Lists in documents -/

/-- The document of the matrix whose demands a document lists. -/
def recode? (text : String) : Option String := (ofJson? text : Option DemandMatrix).map toJson

/-- Demands between different hosts make up one matrix, in whatever order they are listed. -/
theorem ofList_perm {ds ds' : List Demand} (h : ds.Perm ds') (hnodup : (ds.map Demand.hosts).Nodup) :
    ofList ds = ofList ds' := by
  refine congrArg mk (OrderedMap.ofList_perm (h.map _) ?_)
  rw [List.map_map]
  exact hnodup

theorem ofJson?_of_items {text : String} {items : List Datum} {ds : List Demand}
    (htext : Json.read? text.toList = some (.list items)) (hitems : decodeAll items = some ds) :
    ofJson? text = some (ofList ds) := by
  have hdecode : (decode (.list items) : Option DemandMatrix) = (decodeAll items).map ofList := rfl
  rw [ofJson?, htext]
  exact hdecode.trans (by rw [hitems, Option.map_some])

/-- Documents that list the same demands between different hosts, in whatever order, are encoded alike. -/
theorem recode?_of_perm {text text' : String} {items items' : List Datum} {ds : List Demand}
    (htext : Json.read? text.toList = some (.list items))
    (htext' : Json.read? text'.toList = some (.list items')) (hperm : items.Perm items')
    (hitems : decodeAll items = some ds) (hnodup : (ds.map Demand.hosts).Nodup) :
    recode? text = some (toJson (ofList ds)) ∧ recode? text' = some (toJson (ofList ds)) := by
  obtain ⟨ds', hds', hperm'⟩ := List.perm_comp_forall₂ hperm.symm (decodeAll_eq_some.1 hitems)
  have hmatrix : ofList ds = ofList ds' := ofList_perm hperm'.symm hnodup
  refine ⟨by rw [recode?, ofJson?_of_items htext hitems, Option.map_some], ?_⟩
  rw [recode?, ofJson?_of_items htext' (decodeAll_eq_some.2 hds'), Option.map_some, hmatrix]

/-- What is encoded is decoded as the same matrix if its numbers are read back exactly, and otherwise not. -/
theorem ofJson?_toJson_iff {m : DemandMatrix} :
    ofJson? (toJson m) = some m ↔ ∀ x ∈ m.bandwidths, ExactInJson x := by
  rw [ofJson?_toJson_eq]
  exact kept_iff

end DemandMatrix

open DemandMatrix

/-- A traffic matrix is a map in which the last write counts, listed by the octets of the addresses. After
any changes it has for two hosts what the latest write to them set, concatenated with itself for every
doubling since, and its demands, their number and its hosts are listed accordingly. The demands of a
matrix make up the matrix again. A matrix that was decoded and is encoded gives back the same matrix if
and only if its bandwidths are read back exactly, and then it is encoded by the same text again.
Documents that list the same demands between different hosts are encoded by one text, in whatever order
they list them. -/
theorem matrix_latest_writes :
    (∀ cs : List MatrixChange, (after cs).IsListed ∧
      ∀ p bs, (after cs).find? p = some bs ↔ LatestSeries p cs bs) ∧
    (∀ ds : List Demand, ofList (ofList ds).toList = ofList ds) ∧
    (∀ (text : String) (m : DemandMatrix), ofJson? text = some m → recode? text = some (toJson m) ∧
      (ofJson? (toJson m) = some m ↔ ∀ x ∈ m.bandwidths, ExactInJson x) ∧
      ((∀ x ∈ m.bandwidths, ExactInJson x) → recode? (toJson m) = some (toJson m))) ∧
    ∀ (text text' : String) (items items' : List Datum) (ds : List Demand),
      Json.read? text.toList = some (.list items) → Json.read? text'.toList = some (.list items') →
      items.Perm items' → decodeAll items = some ds → (ds.map Demand.hosts).Nodup →
        recode? text = some (toJson (ofList ds)) ∧ recode? text' = some (toJson (ofList ds)) := by
  refine ⟨fun cs => ⟨isListed _, fun p bs => find?_after⟩, fun ds => ofList_toList _, ?_, ?_⟩
  · intro text m hm
    refine ⟨by rw [recode?, hm, Option.map_some], ofJson?_toJson_iff, fun hexact => ?_⟩
    rw [recode?, ofJson?_toJson_iff.2 hexact, Option.map_some]
  · intro text text' items items' ds htext htext' hperm hitems hnodup
    exact recode?_of_perm htext htext' hperm hitems hnodup

/-- A matrix that was replaced and doubled, and two demands whose sources are not in the order of their
texts, listed in either order. -/
theorem matrix_latest_writes_reordered :
    let a : Demand := ⟨⟨192, 168, 10, 1⟩, ⟨192, 168, 2, 1⟩, [1, 2.5]⟩
    let b : Demand := ⟨⟨192, 168, 2, 1⟩, ⟨192, 168, 10, 1⟩, [0.1]⟩
    (after [.insert a, .load [b, ⟨b.source, b.destination, [3]⟩], .double]).find? b.hosts = some [3, 3] ∧
      recode? (toJson [a, b]) = some (toJson (ofList [a, b])) ∧
      recode? (toJson [b, a]) = some (toJson (ofList [a, b])) ∧
      recode? (toJson (ofList [a, b])) = some (toJson (ofList [a, b])) := by
  intro a b
  obtain ⟨hchanges, -, htext, hperm⟩ := matrix_latest_writes
  have hread : ∀ d d' : Demand, Json.read? (toJson [d, d']).toList =
      some (.list [(encode d).inJson, (encode d').inJson]) := fun d d' => by
    rw [toJson, String.toList_ofList, Json.read?_compact]
    rfl
  have hkept : Kept a ∧ Kept b := by
    rw [Demand.kept_iff, Demand.kept_iff]
    decide +kernel
  have hitems : decodeAll [(encode a).inJson, (encode b).inJson] = some [a, b] :=
    decodeAll_eq_some.2 (.cons hkept.1 (.cons hkept.2 .nil))
  obtain ⟨hab, hba⟩ := hperm _ _ _ _ _ (hread a b) (hread b a) (.swap ..) hitems (by decide)
  refine ⟨(hchanges _).2 b.hosts [3, 3] |>.2 ⟨[.insert a], _, [.double], [3], rfl, rfl, ?_, rfl⟩, hab, hba,
    ?_⟩
  · exact List.forall_mem_singleton.2 trivial
  · have hmatrix : ofJson? (toJson [a, b]) = some (ofList [a, b]) := ofJson?_of_items (hread a b) hitems
    exact (htext _ _ hmatrix).2.2 (by decide +kernel)

/-- A bandwidth of 9.0072696650190030 is encoded without the zero at its end, and is then read as another
double, so what was encoded is encoded by another text. -/
theorem recoding_inexact :
    let document (bandwidth : String) := "[\x7b\"src\":\"192.168.1.1\",\"dst\":\"192.168.2.1\"," ++
      "\"bandwidths\":[" ++ bandwidth ++ "]\x7d]"
    recode? (document "9.0072696650190030") = some (document "9.007269665019003") ∧
      recode? (document "9.007269665019003") = some (document "9.007269665019004") ∧
      document "9.007269665019004" ≠ document "9.007269665019003" := by
  decide +kernel

end BackboneLab
