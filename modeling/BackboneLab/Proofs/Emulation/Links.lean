import BackboneLab.Proofs.Backbone.Topology
import BackboneLab.Proofs.Emulation.Parts

/-!
# The links of an emulated network

A link of the network for a backbone belongs to a node, to the speaker or to a cable
(`EmulatedNetwork.mem_links_iff`); no cable is left out, because both of its ends have an index. Nothing
keeps a backbone from linking a node with itself, or the settings from attaching the speaker to a switch
that is not there (`links_illFormed`). `links_wellFormed` says that every other link joins two different
parts of the network.
-/

namespace BackboneLab.EmulatedNetwork

/-- The links of the network for a backbone. -/
inductive IsLinkFor (t : Topology) (s : Settings) : Link → Prop
  | router {k : Nat} (node : k < t.size) :
      IsLinkFor t s ⟨routerName (k + 1), switchName (k + 1)⟩
  | host {k : Nat} (node : k < t.size) : IsLinkFor t s ⟨routerName (k + 1), hostName (k + 1)⟩
  | speaker : IsLinkFor t s (speakerLink s)
  | cable {x y : String} {j k : Nat} (ordered : x ≤ y) (joined : t.IsJoined x y)
      (source : t.names[j]? = some x) (target : t.names[k]? = some y) :
      IsLinkFor t s (switchLink (j + 1) (k + 1))

/-- The link of a cable joins the switches of its ends. -/
theorem cableLink?_eq_some_iff {t : Topology} {x y : String} {l : Link} :
    cableLink? t ⟨x, y⟩ = some l ↔
      ∃ i j, t.indexOf? x = some i ∧ t.indexOf? y = some j ∧ l = switchLink i j := by
  simp only [cableLink?, bind, Option.bind_eq_some_iff, pure, Option.some.injEq]
  constructor
  · rintro ⟨i, hi, j, hj, rfl⟩
    exact ⟨i, j, hi, hj, rfl⟩
  · rintro ⟨i, j, hi, hj, rfl⟩
    exact ⟨i, hi, j, hj, rfl⟩

/-- The links between switches are those of the cables, of which none is left out. -/
theorem mem_cableLinks_iff {t : Topology} {l : Link} :
    l ∈ t.cables.toList.filterMap (cableLink? t) ↔
      ∃ x y j k, x ≤ y ∧ t.IsJoined x y ∧ t.names[j]? = some x ∧ t.names[k]? = some y ∧
        l = switchLink (j + 1) (k + 1) := by
  rw [List.mem_filterMap]
  constructor
  · rintro ⟨⟨x, y⟩, hcable, hlink⟩
    obtain ⟨hle, hjoined⟩ := Topology.mem_cables_iff.1 (OrderedSet.mem_iff.2 hcable)
    obtain ⟨hx, hy⟩ := hjoined.mem_nodes
    obtain ⟨j, -, hj, hindex⟩ := Topology.exists_place hx
    obtain ⟨k, -, hk, hindex'⟩ := Topology.exists_place hy
    obtain ⟨i, i', hi, hi', rfl⟩ := cableLink?_eq_some_iff.1 hlink
    obtain rfl : j + 1 = i := Option.some.inj (hindex.symm.trans hi)
    obtain rfl : k + 1 = i' := Option.some.inj (hindex'.symm.trans hi')
    exact ⟨x, y, j, k, hle, hjoined, hj, hk, rfl⟩
  · rintro ⟨x, y, j, k, hle, hjoined, hj, hk, rfl⟩
    refine ⟨⟨x, y⟩, OrderedSet.mem_iff.1 (Topology.mem_cables_iff.2 ⟨hle, hjoined⟩), ?_⟩
    exact cableLink?_eq_some_iff.2
      ⟨_, _, Topology.indexOf?_eq_some_iff.2 hj, Topology.indexOf?_eq_some_iff.2 hk, rfl⟩

/-- The speaker is attached to a switch of the backbone. -/
def HasSpeakerSwitch (t : Topology) (s : Settings) : Prop :=
  1 ≤ s.speaker.switch.toNat ∧ s.speaker.switch.toNat ≤ t.size

instance (t : Topology) (s : Settings) : Decidable (HasSpeakerSwitch t s) :=
  inferInstanceAs (Decidable (_ ∧ _))

section
variable {t : Topology} {s : Settings} {confDir : Path} {n : EmulatedNetwork} {l : Link}

theorem mem_links_iff (h : ofTopology t s confDir = .ok n) : l ∈ n.links ↔ IsLinkFor t s l := by
  obtain ⟨p, hp, rfl⟩ := ofTopology_eq_ok h
  have hlists := AddressPlan.ofNames_lists hp
  have hnodes : l ∈ p.nodes.flatMap nodeLinks ↔
      ∃ k, k < t.names.length ∧ (l = ⟨routerName (k + 1), switchName (k + 1)⟩ ∨
        l = ⟨routerName (k + 1), hostName (k + 1)⟩) := by
    rw [List.mem_flatMap, ← hlists.exists_index_iff
      (P := fun i => l = ⟨routerName i, switchName i⟩ ∨ l = ⟨routerName i, hostName i⟩)]
    simp only [nodeLinks, List.mem_cons, List.not_mem_nil, or_false]
    rfl
  rw [ofPlan, List.mem_append, List.mem_cons, hnodes, mem_cableLinks_iff]
  constructor
  · rintro (⟨k, hk, rfl | rfl⟩ | rfl | ⟨x, y, j, k, hle, hjoined, hj, hk, rfl⟩)
    · exact .router hk
    · exact .host hk
    · exact .speaker
    · exact .cable hle hjoined hj hk
  · intro hlink
    cases hlink with
    | router hk => exact .inl ⟨_, hk, .inl rfl⟩
    | host hk => exact .inl ⟨_, hk, .inr rfl⟩
    | speaker => exact .inr (.inl rfl)
    | cable hle hjoined hj hk => exact .inr (.inr ⟨_, _, _, _, hle, hjoined, hj, hk, rfl⟩)

/-- Only a cable from a node to itself has a link whose ends are the same. -/
theorem IsLinkFor.a_eq_b_iff (hl : IsLinkFor t s l) :
    l.a = l.b ↔ ∃ k x, t.names[k]? = some x ∧ ⟨x, x⟩ ∈ t.edges.keys ∧ l = switchLink (k + 1) (k + 1) := by
  constructor
  · intro heq
    cases hl with
    | router => exact absurd heq (ne_of_head?_ne (by simp))
    | host => exact absurd heq (ne_of_head?_ne (by simp))
    | speaker => exact absurd heq (ne_of_head?_ne (by simp [speakerLink]))
    | @cable x y j k hle hjoined hj hk =>
      obtain rfl : j = k := Nat.succ.inj (switchName_injective heq)
      obtain rfl : x = y := Option.some.inj (hj.symm.trans hk)
      exact ⟨j, x, hj, hjoined.elim id id, rfl⟩
  · rintro ⟨k, x, -, -, rfl⟩
    rfl

/-- Only the link of the speaker can lead to a switch that is not there. -/
theorem IsLinkFor.mem_partNames (h : ofTopology t s confDir = .ok n) (hl : IsLinkFor t s l) :
    l.a ∈ n.partNames ∧ (l.b ∈ n.partNames ∨ l = speakerLink s ∧ ¬ HasSpeakerSwitch t s) := by
  have hswitch : ∀ {k : Nat}, k < t.size → switchName (k + 1) ∈ n.partNames := fun hk =>
    (mem_partNames_iff h).2 (.inl ⟨_, hk, .inl rfl⟩)
  have hrouter : ∀ {k : Nat}, k < t.size → routerName (k + 1) ∈ n.partNames := fun hk =>
    (mem_partNames_iff h).2 (.inl ⟨_, hk, .inr (.inl rfl)⟩)
  cases hl with
  | router hk => exact ⟨hrouter hk, .inl (hswitch hk)⟩
  | host hk => exact ⟨hrouter hk, .inl ((mem_partNames_iff h).2 (.inl ⟨_, hk, .inr (.inr rfl)⟩))⟩
  | speaker =>
    refine ⟨(mem_partNames_iff h).2 (.inr rfl), ?_⟩
    by_cases hs : HasSpeakerSwitch t s
    · have hk : s.speaker.switch.toNat - 1 < t.size := Nat.sub_one_lt_of_le hs.1 hs.2
      have hattached := hswitch hk
      rw [Nat.sub_add_cancel hs.1] at hattached
      exact .inl hattached
    · exact .inr ⟨rfl, hs⟩
  | cable _ _ hj hk =>
    exact ⟨hswitch (List.getElem?_eq_some_iff.1 hj).1, .inl (hswitch (List.getElem?_eq_some_iff.1 hk).1)⟩

/-- A backbone with a single node can link it with itself, and does not have the switch to which the
speaker is attached unless the settings say otherwise. -/
theorem links_illFormed :
    let t : Topology := ⟨.ofList ["Denver"], .ofList [(⟨"Denver", "Denver"⟩, 1)], by decide, by decide⟩
    ∃ n, ofTopology t .default ⟨"configs"⟩ = .ok n ∧
      ⟨"s1", "s1"⟩ ∈ n.links ∧ ⟨"bgp", "s3"⟩ ∈ n.links ∧ "s3" ∉ n.partNames := by
  intro t
  refine ⟨_, rfl, ?_, ?_, ?_⟩
  · decide
  · decide
  · decide

/-- Links join different parts of a network, except for that of a node linked with itself, and for that
of the speaker if its switch is not one of the backbone. -/
theorem links_wellFormed (h : ofTopology t s confDir = .ok n) :
    ∀ l ∈ n.links,
      (l.a = l.b ↔
        ∃ k x, t.names[k]? = some x ∧ ⟨x, x⟩ ∈ t.edges.keys ∧ l = switchLink (k + 1) (k + 1)) ∧
      l.a ∈ n.partNames ∧ (l.b ∈ n.partNames ∨ l = speakerLink s ∧ ¬ HasSpeakerSwitch t s) := by
  intro l hl
  have hlink : IsLinkFor t s l := (mem_links_iff h).1 hl
  exact ⟨hlink.a_eq_b_iff, hlink.mem_partNames h⟩

/-- Both exceptions can be excluded at once. -/
theorem links_wellFormed_three_nodes :
    let t : Topology := ⟨.ofList ["Dallas", "Denver", "Seattle"],
      .ofList [(⟨"Seattle", "Dallas"⟩, 1), (⟨"Dallas", "Denver"⟩, 1), (⟨"Denver", "Dallas"⟩, 1)],
      by decide, by decide⟩
    ∃ n, ofTopology t .default ⟨"configs"⟩ = .ok n ∧ n.links.length = 9 ∧
      ∀ l ∈ n.links, l.a ≠ l.b ∧ l.a ∈ n.partNames ∧ l.b ∈ n.partNames := by
  intro t
  have hedges : ∀ x ∈ t.names, ⟨x, x⟩ ∉ t.edges.keys := by decide
  refine ⟨_, rfl, by decide, fun l hl => ?_⟩
  obtain ⟨hends, ha, hb⟩ := @links_wellFormed t .default ⟨"configs"⟩ _ rfl l hl
  refine ⟨fun heq => ?_, ha, hb.resolve_right fun hspeaker => hspeaker.2 (by decide)⟩
  obtain ⟨k, x, hx, hedge, -⟩ := hends.1 heq
  exact hedges x (List.mem_of_getElem? hx) hedge

end

end BackboneLab.EmulatedNetwork
