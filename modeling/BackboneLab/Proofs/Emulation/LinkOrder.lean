import BackboneLab.Proofs.Emulation.Links

/-!
# The links of an emulated network in their order

The links of the network for a backbone come node by node, then that of the speaker, then those of the
cables. Both ends of a cable have an index, so that every cable has its link
(`EmulatedNetwork.forall₂_cableIndices`), and indices are ordered as the names of the nodes are, so that
the links come in the order of the indices of their ends (`EmulatedNetwork.pairwise_cableIndices`). The
main statement is `links_listed`.
-/

namespace BackboneLab

/-- If every item of a list has an image, the images are listed item by item. -/
theorem forall₂_filterMap {α β : Type} {f : α → Option β} {as : List α}
    (h : ∀ a ∈ as, ∃ b, f a = some b) : List.Forall₂ (fun a b => f a = some b) as (as.filterMap f) := by
  induction as with
  | nil => exact .nil
  | cons a as ih =>
    obtain ⟨b, hb⟩ := h a List.mem_cons_self
    rw [List.filterMap_cons_some hb]
    exact .cons hb (ih fun a ha => h a (List.mem_cons_of_mem _ ha))

/-- Links are compared by their sources, and then by their targets. -/
theorem DirectedLink.compare_eq_lt_iff {c c' : DirectedLink} :
    compare c c' = .lt ↔ compare c.source c'.source = .lt ∨
      compare c.source c'.source = .eq ∧ compare c.target c'.target = .lt :=
  Ordering.then_eq_lt

namespace EmulatedNetwork

/-! ## Cables and indices -/

/-- The indices of the ends of a cable. -/
def cableIndices? (t : Topology) (c : DirectedLink) : Option (Nat × Nat) := do
  return (← t.indexOf? c.source, ← t.indexOf? c.target)

section
variable {t : Topology} {c : DirectedLink} {i j : Nat}

theorem cableIndices?_eq_some_iff :
    cableIndices? t c = some (i, j) ↔ t.indexOf? c.source = some i ∧ t.indexOf? c.target = some j := by
  simp only [cableIndices?, bind, Option.bind_eq_some_iff, pure, Option.some.injEq, Prod.mk.injEq]
  constructor
  · rintro ⟨_, hi, _, hj, rfl, rfl⟩
    exact ⟨hi, hj⟩
  · rintro ⟨hi, hj⟩
    exact ⟨i, hi, j, hj, rfl, rfl⟩

theorem cableLink?_eq (t : Topology) (c : DirectedLink) :
    cableLink? t c = (cableIndices? t c).map fun p => switchLink p.1 p.2 := by
  rw [cableLink?, cableIndices?]
  cases t.indexOf? c.source with
  | none => rfl
  | some i => cases t.indexOf? c.target <;> rfl

/-- No cable is left out, because its ends are nodes. -/
theorem forall₂_cableIndices (t : Topology) :
    List.Forall₂ (fun c p => cableIndices? t c = some p) t.cables.toList
      (t.cables.toList.filterMap (cableIndices? t)) := by
  refine forall₂_filterMap fun c hc => ?_
  obtain ⟨hsource, htarget⟩ := (Topology.mem_cables_iff.1 (OrderedSet.mem_iff.2 hc)).2.mem_nodes
  obtain ⟨i, -, -, hi⟩ := Topology.exists_place hsource
  obtain ⟨j, -, -, hj⟩ := Topology.exists_place htarget
  exact ⟨_, cableIndices?_eq_some_iff.2 ⟨hi, hj⟩⟩

/-- Cables are in the order of the indices of their ends, since these are ordered as the names are. -/
theorem pairwise_cableIndices (t : Topology) :
    (t.cables.toList.filterMap (cableIndices? t)).Pairwise fun p q =>
      p.1 < q.1 ∨ p.1 = q.1 ∧ p.2 < q.2 := by
  refine t.cables.pairwise_toList.filterMap _ fun c c' hlt p hp q hq => ?_
  obtain ⟨hsource, htarget⟩ := cableIndices?_eq_some_iff.1 hp
  obtain ⟨hsource', htarget'⟩ := cableIndices?_eq_some_iff.1 hq
  rw [DirectedLink.compare_eq_lt_iff, Topology.compare_of_indexOf? hsource hsource',
    Topology.compare_of_indexOf? htarget htarget'] at hlt
  simpa only [Nat.compare_eq_lt, Nat.compare_eq_eq] using hlt

/-- Two indices belong to a cable if they are in order and the nodes with these indices are joined. -/
theorem mem_cableIndices_iff :
    (i, j) ∈ t.cables.toList.filterMap (cableIndices? t) ↔
      i ≤ j ∧ ∃ x y, t.indexOf? x = some i ∧ t.indexOf? y = some j ∧ t.IsJoined x y := by
  rw [List.mem_filterMap]
  constructor
  · rintro ⟨⟨x, y⟩, hcable, hindices⟩
    obtain ⟨hx, hy⟩ := cableIndices?_eq_some_iff.1 hindices
    obtain ⟨hle, hjoined⟩ := Topology.mem_cables_iff.1 (OrderedSet.mem_iff.2 hcable)
    exact ⟨(Topology.indexOf?_le_iff hx hy).2 hle, x, y, hx, hy, hjoined⟩
  · rintro ⟨hle, x, y, hx, hy, hjoined⟩
    have hcable : ⟨x, y⟩ ∈ t.cables :=
      Topology.mem_cables_iff.2 ⟨(Topology.indexOf?_le_iff hx hy).1 hle, hjoined⟩
    exact ⟨⟨x, y⟩, OrderedSet.mem_iff.1 hcable, cableIndices?_eq_some_iff.2 ⟨hx, hy⟩⟩

end

/-! ## All links -/

/-- Pairs of indices that are those of the cables of a backbone: one for each cable, in increasing order,
and no other. -/
structure IndexesCables (t : Topology) (pairs : List (Nat × Nat)) : Prop where
  increasing : pairs.Pairwise fun p q => p.1 < q.1 ∨ p.1 = q.1 ∧ p.2 < q.2
  cables : List.Forall₂ (fun c p => t.indexOf? c.source = some p.1 ∧ t.indexOf? c.target = some p.2)
    t.cables.toList pairs
  joined : ∀ i j, (i, j) ∈ pairs ↔ i ≤ j ∧ ∃ x y, t.indexOf? x = some i ∧ t.indexOf? y = some j ∧
    (⟨x, y⟩ ∈ t.edges.keys ∨ ⟨y, x⟩ ∈ t.edges.keys)

theorem indexesCables (t : Topology) : IndexesCables t (t.cables.toList.filterMap (cableIndices? t)) where
  increasing := pairwise_cableIndices t
  cables := (forall₂_cableIndices t).imp fun _ _ h => cableIndices?_eq_some_iff.1 h
  joined _ _ := mem_cableIndices_iff

/-- The links of the router with the given index: to its switch, and to its host. -/
def routerLinks (index : Nat) : List Link :=
  [⟨routerName index, switchName index⟩, ⟨routerName index, hostName index⟩]

/-- The links of the nodes are those of the routers in the order of their indices. -/
theorem flatMap_nodeLinks {reserved : List ReservedIndex} {names : List String}
    {nodes : List NodeAddresses} (h : AddressPlan.Lists reserved names nodes) :
    nodes.flatMap nodeLinks = (List.range' 1 names.length).flatMap routerLinks := by
  rw [← h.length_eq, ← h.map_index, List.flatMap_map]
  rfl

/-- The links of the network for a backbone are those of its routers, then that of the speaker, then one
for each cable, in increasing order of the indices of its ends. -/
theorem links_listed {t : Topology} {s : Settings} {confDir : Path} {n : EmulatedNetwork}
    (h : ofTopology t s confDir = .ok n) :
    ∃ pairs, IndexesCables t pairs ∧
      n.links = (List.range' 1 t.size).flatMap routerLinks ++
        ⟨speakerName, switchName s.speaker.switch.toNat⟩ ::
          pairs.map (fun p => ⟨switchName p.1, switchName p.2⟩) ∧
      n.links.length = 2 * t.size + 1 + t.cables.size := by
  obtain ⟨p, hp, rfl⟩ := ofTopology_eq_ok h
  have hcables : t.cables.toList.filterMap (cableLink? t) =
      (t.cables.toList.filterMap (cableIndices? t)).map fun p => switchLink p.1 p.2 := by
    rw [List.map_filterMap]
    exact List.filterMap_congr fun c _ => cableLink?_eq t c
  have hlinks : (ofPlan p t s confDir).links = (List.range' 1 t.size).flatMap routerLinks ++
      speakerLink s :: (t.cables.toList.filterMap (cableIndices? t)).map fun p => switchLink p.1 p.2 := by
    rw [ofPlan, flatMap_nodeLinks (AddressPlan.ofNames_lists hp), hcables]
    rfl
  refine ⟨_, indexesCables t, hlinks, ?_⟩
  rw [hlinks, List.length_append, List.length_cons, List.length_map,
    ← (forall₂_cableIndices t).length_eq, List.length_flatMap]
  simp [routerLinks, OrderedSet.size]
  omega

/-- Of three cables, one has links in both directions, one a link against the order of its ends, and one
leads from a node to itself. -/
theorem links_listed_three_nodes :
    let t : Topology := ⟨.ofList ["Dallas", "Denver", "Seattle"],
      .ofList [(⟨"Seattle", "Dallas"⟩, 1), (⟨"Dallas", "Denver"⟩, 1), (⟨"Denver", "Dallas"⟩, 1),
        (⟨"Denver", "Denver"⟩, 1)],
      by decide, by decide⟩
    ∃ n, ofTopology t .default ⟨"configs"⟩ = .ok n ∧ n.links.length = 10 ∧
      n.links.drop 7 = [⟨"s1", "s2"⟩, ⟨"s1", "s3"⟩, ⟨"s2", "s2"⟩] := by
  intro t
  have hcables : t.cables.toList =
      [⟨"Dallas", "Denver"⟩, ⟨"Dallas", "Seattle"⟩, ⟨"Denver", "Denver"⟩] := by decide
  obtain ⟨pairs, hpairs, hlinks, hlength⟩ := @links_listed t .default ⟨"configs"⟩ _ rfl
  refine ⟨_, rfl, hlength, ?_⟩
  have hdallas : t.indexOf? "Dallas" = some 1 := by decide
  have hdenver : t.indexOf? "Denver" = some 2 := by decide
  have hseattle : t.indexOf? "Seattle" = some 3 := by decide
  have hindices := hpairs.cables
  simp only [hcables, List.forall₂_cons_left_iff, List.forall₂_nil_left_iff, hdallas, hdenver, hseattle,
    Option.some.injEq] at hindices
  obtain ⟨⟨_, _⟩, _, ⟨rfl, rfl⟩, ⟨⟨_, _⟩, _, ⟨rfl, rfl⟩, ⟨⟨_, _⟩, _, ⟨rfl, rfl⟩, rfl, rfl⟩, rfl⟩, rfl⟩ :=
    hindices
  rw [hlinks]
  decide

end EmulatedNetwork

end BackboneLab
