import BackboneLab.Proofs.Emulation.Links
import Mathlib.Combinatorics.SimpleGraph.Connectivity.Connected

/-!
# The connections of an emulated network

Two hosts can reach each other in the network for a backbone exactly if their nodes can reach each other
over the links of the backbone, whatever the direction of these is (`hosts_connected_iff`). Either graph
is mapped to the other one, a node to its switch and a part to its node, and a map carries paths over
once it does so with links (`reachable_map`). The speaker is mapped to the node of its switch: it hangs
on that switch alone, so no path leads through it to another one.
-/

namespace BackboneLab

/-! ## Paths over links -/

section
variable {α β : Type} {r : α → α → Prop} {x y : α}

/-- The ends of a link reach each other, also if they are the same. -/
theorem reachable_of_rel (h : r x y) : (SimpleGraph.fromRel r).Reachable x y := by
  by_cases heq : x = y
  · rw [heq]
  · exact SimpleGraph.Adj.reachable ⟨heq, .inl h⟩

/-- A map that sends the ends of every link to points that reach each other does so with the ends of
every path. -/
theorem reachable_map {G : SimpleGraph β} {f : α → β} (h : ∀ x y, r x y → G.Reachable (f x) (f y))
    (hpath : (SimpleGraph.fromRel r).Reachable x y) : G.Reachable (f x) (f y) := by
  obtain ⟨path⟩ := hpath
  induction path with
  | nil => rfl
  | cons hadj _ ih =>
    obtain ⟨-, hlink | hlink⟩ := hadj
    · exact (h _ _ hlink).trans ih
    · exact (h _ _ hlink).symm.trans ih

end

/-! ## The two graphs -/

/-- The nodes of a backbone, joined by its links in either direction. -/
def Topology.graph (t : Topology) : SimpleGraph String := .fromRel fun x y => ⟨x, y⟩ ∈ t.edges.keys

theorem Topology.IsJoined.reachable {t : Topology} {x y : String} (h : t.IsJoined x y) :
    t.graph.Reachable x y := by
  rw [graph]
  exact h.elim (fun h => reachable_of_rel h) fun h => (reachable_of_rel h).symm

namespace EmulatedNetwork

/-- The parts of a network, joined by its links. -/
def graph (n : EmulatedNetwork) : SimpleGraph String := .fromRel fun a b => ⟨a, b⟩ ∈ n.links

theorem reachable_of_mem_links {n : EmulatedNetwork} {l : Link} (h : l ∈ n.links) :
    n.graph.Reachable l.a l.b := reachable_of_rel h

/-! ## The switch of a node, and the node of a part -/

/-- The name of the switch of a node. -/
def switchOfNode (t : Topology) (node : String) : String := switchName ((t.indexOf? node).getD 0)

/-- The index in the name of a part, which for the speaker is that of its switch. -/
def partIndex (s : Settings) (part : String) : Nat :=
  if part = speakerName then s.speaker.switch.toNat else (readNat? part.toList.tail).getD 0

/-- The node to which a part belongs. -/
def nodeOf (t : Topology) (s : Settings) (part : String) : String :=
  t.names[partIndex s part - 1]?.getD ""

section
variable {t : Topology} {s : Settings} {x : String} {k : Nat}

theorem switchOfNode_eq (h : t.names[k]? = some x) : switchOfNode t x = switchName (k + 1) := by
  rw [switchOfNode, Topology.indexOf?_eq_some_iff.2 h, Option.getD_some]

/-- A name that is a letter and an index has this index. -/
theorem partIndex_eq {part : String} {c : Char} (h : part.toList = c :: natText k)
    (hc : c ∈ ['s', 'r', 'h']) : partIndex s part = k := by
  have hpart : part ≠ speakerName := by
    rintro rfl
    rw [toList_speakerName] at h
    rw [← (List.cons.inj h).1] at hc
    exact absurd hc (by decide)
  rw [partIndex, if_neg hpart, h, List.tail_cons, readNat?_eq_some_iff.2 rfl, Option.getD_some]

@[simp] theorem partIndex_switchName : partIndex s (switchName k) = k :=
  partIndex_eq (toList_switchName k) (by simp)

@[simp] theorem partIndex_routerName : partIndex s (routerName k) = k :=
  partIndex_eq (toList_routerName k) (by simp)

@[simp] theorem partIndex_hostName : partIndex s (hostName k) = k :=
  partIndex_eq (toList_hostName k) (by simp)

theorem partIndex_speakerName : partIndex s speakerName = s.speaker.switch.toNat := if_pos rfl

theorem nodeOf_eq {part : String} (h : t.names[k]? = some x) (hpart : partIndex s part = k + 1) :
    nodeOf t s part = x := by
  rw [nodeOf, hpart, Nat.add_sub_cancel, h, Option.getD_some]

/-! ## From one graph to the other -/

/-- The nodes of the ends of a link reach each other: a cable joins them, and any other link stays at
one node. -/
theorem IsLinkFor.reachable_nodeOf {l : Link} (h : IsLinkFor t s l) :
    t.graph.Reachable (nodeOf t s l.a) (nodeOf t s l.b) := by
  have hsame : ∀ {a b : String}, partIndex s a = partIndex s b →
      t.graph.Reachable (nodeOf t s a) (nodeOf t s b) := by
    intro a b hab
    rw [nodeOf, nodeOf, hab]
  cases h with
  | router => exact hsame (by simp)
  | host => exact hsame (by simp)
  | speaker => exact hsame (partIndex_speakerName.trans partIndex_switchName.symm)
  | cable _ hjoined hx hy =>
    have ha := nodeOf_eq (s := s) hx partIndex_switchName
    have hb := nodeOf_eq (s := s) hy partIndex_switchName
    rw [switchLink, ha, hb]
    exact hjoined.reachable

variable {confDir : Path} {n : EmulatedNetwork}

/-- The switches of joined nodes reach each other. -/
theorem reachable_switchOfNode (h : ofTopology t s confDir = .ok n) {y : String}
    (hjoined : t.IsJoined x y) : n.graph.Reachable (switchOfNode t x) (switchOfNode t y) := by
  obtain ⟨hx, hy⟩ := hjoined.mem_nodes
  obtain ⟨j, -, hj, -⟩ := Topology.exists_place hx
  obtain ⟨k, -, hk, -⟩ := Topology.exists_place hy
  rw [switchOfNode_eq hj, switchOfNode_eq hk]
  rcases String.le_total x y with hle | hle
  · exact reachable_of_mem_links ((mem_links_iff h).2 (.cable hle hjoined hj hk))
  · exact (reachable_of_mem_links ((mem_links_iff h).2 (.cable hle hjoined.symm hk hj))).symm

/-- A host reaches the switch of its node, by way of the router. -/
theorem reachable_host_switch (h : ofTopology t s confDir = .ok n) (hk : k < t.size) :
    n.graph.Reachable (hostName (k + 1)) (switchName (k + 1)) :=
  have hhost := reachable_of_mem_links ((mem_links_iff h).2 (.host hk))
  have hrouter := reachable_of_mem_links ((mem_links_iff h).2 (.router hk))
  hhost.symm.trans hrouter

/-- The hosts of two nodes are connected in the network exactly if the nodes are connected in the
backbone. -/
theorem hosts_connected_iff (h : ofTopology t s confDir = .ok n) (i j : Fin t.size) :
    n.graph.Reachable (hostName (i + 1)) (hostName (j + 1)) ↔
      t.graph.Reachable (t.names.get i) (t.names.get j) := by
  have hplace : ∀ i : Fin t.size, t.names[i.val]? = some (t.names.get i) := fun i =>
    List.getElem?_eq_getElem i.isLt
  constructor
  · intro hhosts
    have hnodes := reachable_map (f := nodeOf t s)
      (fun _ _ hlink => ((mem_links_iff h).1 hlink).reachable_nodeOf) hhosts
    rwa [nodeOf_eq (hplace i) partIndex_hostName, nodeOf_eq (hplace j) partIndex_hostName] at hnodes
  · intro hnodes
    have hswitches := reachable_map (f := switchOfNode t)
      (fun _ _ hedge => reachable_switchOfNode h (.inl hedge)) hnodes
    rw [switchOfNode_eq (hplace i), switchOfNode_eq (hplace j)] at hswitches
    exact (reachable_host_switch h i.isLt).trans
      (hswitches.trans (reachable_host_switch h j.isLt).symm)

end

/-- A link in one direction connects the first host with the last one, and no link leads to the host
between them. -/
theorem hosts_connected_three_nodes :
    let t : Topology := ⟨.ofList ["Dallas", "Denver", "Seattle"],
      .ofList [(⟨"Seattle", "Dallas"⟩, 1)], by decide, by decide⟩
    ∃ n, ofTopology t .default ⟨"configs"⟩ = .ok n ∧
      n.graph.Reachable (hostName 1) (hostName 3) ∧ ¬ n.graph.Reachable (hostName 1) (hostName 2) := by
  intro t
  have hkeys : t.edges.keys = [⟨"Seattle", "Dallas"⟩] := by decide
  have halone : ∀ y, ¬ t.graph.Adj "Denver" y := by
    rintro y ⟨-, hlink | hlink⟩
    · simp [hkeys] at hlink
    · simp [hkeys] at hlink
  have hconnected := @hosts_connected_iff t .default ⟨"configs"⟩ _ rfl
  refine ⟨_, rfl, ?_, fun hhosts => ?_⟩
  · refine (hconnected ⟨0, by decide⟩ ⟨2, by decide⟩).2 (Topology.IsJoined.reachable ?_)
    exact .inr (by decide)
  · obtain ⟨path⟩ := ((hconnected ⟨0, by decide⟩ ⟨1, by decide⟩).1 hhosts).symm
    obtain ⟨_, hadj, -⟩ := path.exists_eq_cons_of_ne (by decide)
    exact halone _ hadj

end EmulatedNetwork

end BackboneLab
