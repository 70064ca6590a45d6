import BackboneLab.Proofs.Backbone.Topology

/-!
# How a backbone is put together

A backbone is put together from names and links unless there is no name, or a link has an end that is not
among the names; the fault then tells the first such end (`Topology.ofNodes_end`). Whatever it was put
together from, its nodes are listed in strictly increasing order and numbered by their places
(`Topology.isNumbered`), and of a list of links only the last capacity of every link counts
(`Topology.find?_capacitiesOf`). The main statement is `Topology.built_or_first_missing`.
-/

namespace BackboneLab.Topology

variable {names : List String} {links : List DirectedLink} {edges : CapacityMap} {t : Topology}
  {x : String}

/-! ## Names and links -/

/-- The ends of links, in the order of the links and the source before the target. -/
def endsOf (links : List DirectedLink) : List String := links.flatMap fun l => [l.source, l.target]

theorem mem_endsOf_iff : x ∈ endsOf links ↔ ∃ l ∈ links, x = l.source ∨ x = l.target := by
  simp [endsOf]

/-- The first end of a link that is not among the names. -/
def IsFirstMissing (names : List String) (links : List DirectedLink) (x : String) : Prop :=
  ∃ before after, endsOf links = before ++ x :: after ∧ (∀ y ∈ before, y ∈ names) ∧ x ∉ names

theorem unknownEnd?_eq_some_iff :
    unknownEnd? (.ofList names) links = some x ↔ IsFirstMissing names links x := by
  rw [unknownEnd?, List.find?_eq_some_iff_append]
  simp only [OrderedSet.mem_ofList, decide_not, Bool.not_eq_true', decide_eq_false_iff_not,
    Bool.not_not, decide_eq_true_eq]
  constructor
  · rintro ⟨hmissing, before, after, hends, hbefore⟩
    exact ⟨before, after, hends, hbefore, hmissing⟩
  · rintro ⟨before, after, hends, hbefore, hmissing⟩
    exact ⟨hmissing, before, after, hends, hbefore⟩

theorem ofList_toList_eq_nil_iff : (OrderedSet.ofList names).toList = [] ↔ names = [] := by
  rw [List.eq_nil_iff_forall_not_mem, List.eq_nil_iff_forall_not_mem]
  exact forall_congr' fun x => not_congr (OrderedSet.mem_iff.symm.trans OrderedSet.mem_ofList)

/-! ## Numbered nodes -/

/-- The nodes are listed in strictly increasing order, the place of a node, counted from one, is its
index, and nothing else has an index. -/
structure IsNumbered (t : Topology) : Prop where
  increasing : t.names.Pairwise (· < ·)
  index_of_place : ∀ k x, t.names[k]? = some x → t.indexOf? x = some (k + 1)
  unnumbered : ∀ x, x ∉ t.names → t.indexOf? x = none

theorem isNumbered (t : Topology) : t.IsNumbered where
  increasing := t.nodes.pairwise_toList.imp fun h => compareOfLessAndEq_eq_lt.1 h
  index_of_place k x h := indexOf?_eq_some_iff.2 h
  unnumbered x h := by rw [indexOf?, OrderedSet.place?_eq_none_iff.2 h, Option.map_none]

/-! ## Names and links together -/

/-- What comes of putting together a backbone. -/
inductive ConstructionEnd (names : List String) (edges : CapacityMap) : Except Fault Topology → Prop
  | empty (unnamed : names = []) : ConstructionEnd names edges (.error .emptyTopology)
  | unknown {x : String} (named : names ≠ []) (first : IsFirstMissing names edges.keys x) :
      ConstructionEnd names edges (.error (.unknownNode x))
  | built {t : Topology} (named : names ≠ [])
      (known : ∀ l ∈ edges.keys, l.source ∈ names ∧ l.target ∈ names)
      (nodes : ∀ x, x ∈ t.names ↔ x ∈ names) (numbered : t.IsNumbered) (links : t.edges = edges) :
      ConstructionEnd names edges (.ok t)

theorem ofNodes_end (names : List String) (edges : CapacityMap) :
    ConstructionEnd names edges (ofNodes names edges) := by
  rw [ofNodes]
  split
  next hunnamed => exact .empty (ofList_toList_eq_nil_iff.1 hunnamed)
  next hnamed =>
    have hnames : names ≠ [] := fun h => hnamed (ofList_toList_eq_nil_iff.2 h)
    split
    next hunknown => exact .unknown hnames (unknownEnd?_eq_some_iff.1 hunknown)
    next hknown =>
      have hmem : ∀ x, x ∈ OrderedSet.ofList names ↔ x ∈ names := fun _ => OrderedSet.mem_ofList
      refine .built hnames (fun l hl => ?_) hmem (isNumbered _) rfl
      obtain ⟨hsource, htarget⟩ := unknownEnd?_eq_none_iff.1 hknown l hl
      exact ⟨(hmem _).1 hsource, (hmem _).1 htarget⟩

/-- An end that is missing belongs to a link. -/
theorem IsFirstMissing.not_known (h : IsFirstMissing names links x) :
    ¬ ∀ l ∈ links, l.source ∈ names ∧ l.target ∈ names := by
  obtain ⟨before, after, hends, -, hmissing⟩ := h
  intro hknown
  have hmem : x ∈ endsOf links := hends ▸ List.mem_append_right before List.mem_cons_self
  obtain ⟨l, hl, rfl | rfl⟩ := mem_endsOf_iff.1 hmem
  · exact hmissing (hknown l hl).1
  · exact hmissing (hknown l hl).2

/-- A backbone is built if and only if there is a name and all ends of links are among the names. -/
theorem ConstructionEnd.exists_iff {r : Except Fault Topology} (h : ConstructionEnd names edges r) :
    (∃ t, r = .ok t) ↔ names ≠ [] ∧ ∀ l ∈ edges.keys, l.source ∈ names ∧ l.target ∈ names := by
  cases h with
  | empty unnamed => exact iff_of_false nofun fun h => h.1 unnamed
  | unknown named first => exact iff_of_false nofun fun h => first.not_known h.2
  | built named known => exact iff_of_true ⟨_, rfl⟩ ⟨named, known⟩

/-! ## Links alone -/

theorem endsOf_keys_eq_nil_iff : endsOf edges.keys = [] ↔ edges = .empty := by
  constructor
  · intro h
    have hkeys : edges.keys = [] := List.eq_nil_iff_forall_not_mem.2 fun l hl =>
      List.eq_nil_iff_forall_not_mem.1 h l.source (mem_endsOf_iff.2 ⟨l, hl, .inl rfl⟩)
    exact OrderedMap.ext (List.map_eq_nil_iff.1 hkeys)
  · rintro rfl
    rfl

/-- No end of a link is missing among all of them. -/
theorem ofCapacities_eq_error_iff {f : Fault} :
    ofCapacities edges = .error f ↔ edges = .empty ∧ f = .emptyTopology := by
  have hend : ConstructionEnd (endsOf edges.keys) edges (ofCapacities edges) := ofNodes_end _ _
  generalize ofCapacities edges = r at hend
  cases hend with
  | empty unnamed =>
    rw [Except.error.injEq, eq_comm, and_iff_right (endsOf_keys_eq_nil_iff.1 unnamed)]
  | unknown named first =>
    refine absurd (fun l hl => ⟨?_, ?_⟩) first.not_known
    · exact mem_endsOf_iff.2 ⟨l, hl, .inl rfl⟩
    · exact mem_endsOf_iff.2 ⟨l, hl, .inr rfl⟩
  | built named => exact iff_of_false nofun fun h => named (endsOf_keys_eq_nil_iff.2 h.1)

/-! ## Lists of links -/

/-- The capacity that a list of links gives a link the last time, if it has the link. -/
def lastCapacity? (links : List ListedLink) (l : DirectedLink) : Option Float :=
  (links.filter (·.link = l)).getLast?.map ListedLink.capacity

theorem find?_capacitiesOf (links : List ListedLink) (l : DirectedLink) :
    (capacitiesOf links).find? l = lastCapacity? links l := by
  rw [capacitiesOf, OrderedMap.find?_ofList, List.filter_map, List.getLast?_map, Option.map_map]
  rfl

/-- The order of a list does not count, and neither does what is repeated later. -/
theorem capacitiesOf_eq_iff {links links' : List ListedLink} :
    capacitiesOf links = capacitiesOf links' ↔ ∀ l, lastCapacity? links l = lastCapacity? links' l := by
  simp only [← find?_capacitiesOf]
  exact ⟨fun h l => h ▸ rfl, OrderedMap.ext_find?⟩

theorem capacitiesOf_ne_empty {links : List ListedLink} (h : links ≠ []) : capacitiesOf links ≠ .empty := by
  intro hempty
  obtain ⟨first, rest, rfl⟩ := List.exists_cons_of_ne_nil h
  have hfind := find?_capacitiesOf (first :: rest) first.link
  rw [hempty, lastCapacity?, OrderedMap.find?_empty, eq_comm, Option.map_eq_none_iff,
    List.getLast?_eq_none_iff, List.filter_eq_nil_iff] at hfind
  exact hfind first List.mem_cons_self (decide_eq_true rfl)

theorem ofJson_eq {text : String} {links : List ListedLink} (h : ofJson? text = some links) :
    ofJson text = ofCapacities (capacitiesOf links) := by
  rw [ofJson, h]

/-- A list with at least one link makes up a backbone, whose links have the capacities that the list gives
them last. -/
theorem ofJson_links {text : String} {links : List ListedLink} (h : ofJson? text = some links)
    (hne : links ≠ []) :
    ∃ t, ofJson text = .ok t ∧ ∀ l, t.edges.find? l = lastCapacity? links l := by
  have hend : ConstructionEnd (endsOf (capacitiesOf links).keys) (capacitiesOf links)
      (ofCapacities (capacitiesOf links)) := ofNodes_end _ _
  rw [ofJson_eq h]
  cases hr : ofCapacities (capacitiesOf links) with
  | error f => exact absurd (ofCapacities_eq_error_iff.1 hr).1 (capacitiesOf_ne_empty hne)
  | ok t =>
    rw [hr] at hend
    cases hend with
    | built named known nodes numbered hlinks =>
      exact ⟨t, rfl, fun l => hlinks ▸ find?_capacitiesOf links l⟩

/-- A backbone is put together from names and links if and only if there is a name and all ends of the
links are among the names; otherwise it is told that there is none, or else the first end that is missing.
Its nodes are those names, in strictly increasing order, and numbered by their places. Put together from
links alone, it has their ends as nodes, and this fails only if there is no link. Two lists of links that
give every link the same capacity last, whatever their order is, make up the same backbone. -/
theorem built_or_first_missing :
    (∀ names edges, ConstructionEnd names edges (ofNodes names edges) ∧
      ((∃ t, ofNodes names edges = .ok t) ↔
        names ≠ [] ∧ ∀ l ∈ edges.keys, l.source ∈ names ∧ l.target ∈ names)) ∧
    (∀ edges, ConstructionEnd (endsOf edges.keys) edges (ofCapacities edges) ∧
      ∀ f, ofCapacities edges = .error f ↔ edges = .empty ∧ f = .emptyTopology) ∧
    ∀ text text' links links', ofJson? text = some links → ofJson? text' = some links' →
      (∀ l, lastCapacity? links l = lastCapacity? links' l) →
      ofJson text = ofJson text' ∧
        (links ≠ [] → ∃ t, ofJson text = .ok t ∧ ∀ l, t.edges.find? l = lastCapacity? links l) := by
  refine ⟨fun names edges => ⟨ofNodes_end names edges, (ofNodes_end names edges).exists_iff⟩,
    fun edges => ⟨ofNodes_end _ edges, fun f => ofCapacities_eq_error_iff⟩,
    fun text text' links links' h h' hlast => ⟨?_, ofJson_links h⟩⟩
  rw [ofJson_eq h, ofJson_eq h', capacitiesOf_eq_iff.2 hlast]

/-- Three entries of which the first one is repeated, and the last two of them in the other order. -/
theorem built_from_repeated_links :
    let text := "[[\"Denver\", \"Dallas\", 2], [\"Dallas\", \"Denver\", 1], [\"Denver\", \"Dallas\", 3]]"
    let text' := "[[\"Denver\", \"Dallas\", 3], [\"Dallas\", \"Denver\", 1]]"
    ∃ t, ofJson text = .ok t ∧ ofJson text' = .ok t ∧ t.edges.find? ⟨"Denver", "Dallas"⟩ = some 3 := by
  intro text text'
  let links : List ListedLink :=
    [⟨⟨"Denver", "Dallas"⟩, 2⟩, ⟨⟨"Dallas", "Denver"⟩, 1⟩, ⟨⟨"Denver", "Dallas"⟩, 3⟩]
  let links' : List ListedLink := [⟨⟨"Denver", "Dallas"⟩, 3⟩, ⟨⟨"Dallas", "Denver"⟩, 1⟩]
  have h : ofJson? text = some links := by decide +kernel
  have h' : ofJson? text' = some links' := by decide +kernel
  have hlast : ∀ l, lastCapacity? links l = lastCapacity? links' l := by
    intro l
    by_cases hwest : ⟨"Denver", "Dallas"⟩ = l
    · simp [lastCapacity?, links, links', ← hwest]
    · simp [lastCapacity?, links, links', hwest]
  obtain ⟨hsame, hbuilt⟩ := built_or_first_missing.2.2 text text' links links' h h' hlast
  obtain ⟨t, ht, hfind⟩ := hbuilt (List.cons_ne_nil _ _)
  exact ⟨t, ht, hsame ▸ ht, hfind _⟩

end BackboneLab.Topology
