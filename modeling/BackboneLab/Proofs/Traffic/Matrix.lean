import BackboneLab.Proofs.Document.Wire
import BackboneLab.Traffic.Matrix

/-!
# Traffic matrices are read back

A document lists the demands of a matrix in the order of their hosts, and reading it puts them together
again. Hence the hosts of a matrix are never lost, and a matrix is kept if and only if all of its
bandwidths are (`DemandMatrix.kept_iff`).
-/

namespace BackboneLab

namespace Demand

/-- The hosts of a demand are always read back, so only its bandwidths decide. -/
theorem decode_inJson (d : Demand) : (decode (encode d).inJson : Option Demand) =
    (decode (encode d.bandwidths).inJson).map (Demand.mk d.source d.destination) := by
  have hmembers := decode_inJson_object (x := d) rfl (fun _ => rfl)
    (List.Sublist.refl ["src", "dst", "bandwidths"]) (by decide)
  rw [Fields.required_eq (x := d.source) rfl (kept_ipv4 _),
    Fields.required_eq (x := d.destination) rfl (kept_ipv4 _)] at hmembers
  rw [hmembers, Option.map_eq_bind]
  rfl

/-- Read one by one, demands keep their hosts. -/
theorem map_hosts_of_forall₂ {ds ds' : List Demand}
    (h : List.Forall₂ (fun d d' : Demand => decode (encode d).inJson = some d') ds ds') :
    ds'.map Demand.hosts = ds.map Demand.hosts := by
  induction h with
  | nil => rfl
  | cons hd _ ih =>
    obtain ⟨bs, -, rfl⟩ := Option.map_eq_some_iff.1 ((decode_inJson _).symm.trans hd)
    rw [List.map_cons, List.map_cons, ih]
    rfl

theorem kept_iff {d : Demand} : Kept d ↔ ∀ x ∈ d.bandwidths, ExactInJson x := by
  have hbandwidths : Kept d ↔ Kept d.bandwidths := by
    rw [Kept, decode_inJson, Option.map_eq_some_iff]
    constructor
    · rintro ⟨bs, hkept, heq⟩
      have hbs : bs = d.bandwidths := congrArg Demand.bandwidths heq
      exact hbs ▸ hkept
    · intro hkept
      exact ⟨_, hkept, rfl⟩
  rw [hbandwidths, kept_list_iff]
  exact forall₂_congr fun _ _ => kept_float_iff

end Demand

namespace DemandMatrix

/-- The demands of a matrix are told apart by their hosts. -/
theorem map_hosts_toList (m : DemandMatrix) : m.toList.map Demand.hosts = m.series.keys :=
  List.map_map ..

/-- The demands of a matrix make up the matrix again. -/
theorem ofList_toList (m : DemandMatrix) : ofList m.toList = m := by
  have hentries : m.toList.map (fun d => (d.hosts, d.bandwidths)) = m.series.entries := by
    rw [toList, List.map_map]
    exact List.map_id _
  rw [ofList, hentries, OrderedMap.ofList_entries]

/-- Demands in the order of their hosts are those of the matrix made of them. -/
theorem toList_ofList {ds : List Demand}
    (h : (ds.map Demand.hosts).Pairwise fun p q => compare p q = .lt) : (ofList ds).toList = ds := by
  have hentries : (ds.map fun d => (d.hosts, d.bandwidths)).Pairwise fun x y =>
      compare x.1 y.1 = .lt := by
    rw [List.pairwise_map] at h ⊢
    exact h
  let m : DemandMatrix := ⟨⟨_, hentries⟩⟩
  have hlist : m.toList = ds := by
    rw [toList, List.map_map]
    exact List.map_id ds
  rw [← hlist, ofList_toList]

/-- The bandwidths of all demands. -/
def bandwidths (m : DemandMatrix) : List Bandwidth := m.toList.flatMap Demand.bandwidths

/-- A matrix is kept if and only if its demands are: since their hosts are read back, they are listed in
the same order when they are put together again. -/
theorem kept_iff_kept_toList {m : DemandMatrix} : Kept m ↔ Kept m.toList := by
  have hdecode : (decode (encode m).inJson : Option DemandMatrix) =
    (decode (encode m.toList).inJson).map ofList := rfl
  rw [Kept, hdecode, Option.map_eq_some_iff]
  constructor
  · rintro ⟨ds, hds, hm⟩
    have hhosts : ds.map Demand.hosts = m.series.keys := by
      rw [← map_hosts_toList]
      refine Demand.map_hosts_of_forall₂ (decode_inJson_list.1 hds)
    have hlist : ds = m.toList := by
      rw [← hm, toList_ofList]
      exact hhosts ▸ List.pairwise_map.2 m.series.ordered
    exact hlist ▸ hds
  · intro hkept
    exact ⟨_, hkept, ofList_toList m⟩

theorem kept_iff {m : DemandMatrix} : Kept m ↔ ∀ x ∈ m.bandwidths, ExactInJson x := by
  rw [kept_iff_kept_toList, kept_list_iff, bandwidths, List.forall_mem_flatMap]
  exact forall₂_congr fun _ _ => Demand.kept_iff

end DemandMatrix

end BackboneLab
