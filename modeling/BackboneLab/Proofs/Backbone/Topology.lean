import BackboneLab.Backbone.Topology
import BackboneLab.Proofs.Ordered.Map
import BackboneLab.Proofs.Ordered.Set

/-!
# Nodes and cables of a backbone

The nodes are listed in strictly increasing order, so a node has the index `k + 1` exactly if it stands at
the place `k` (`Topology.indexOf?_eq_some_iff`), and indices are ordered as the names are
(`Topology.indexOf?_lt_iff`). Both ends of a cable have an index. A cable joins two nodes exactly if a link
leads from one of them to the other (`Topology.mem_cables_iff`).
-/

namespace BackboneLab

/-! ## Links without a direction -/

namespace DirectedLink

theorem undirected_of_le {x y : String} (h : x ≤ y) : undirected ⟨x, y⟩ = ⟨x, y⟩ := if_pos h

/-- The two directions of a link belong to one cable. -/
theorem undirected_swap (x y : String) : undirected ⟨y, x⟩ = undirected ⟨x, y⟩ := by
  rcases String.le_total x y with hxy | hyx
  · rw [undirected_of_le hxy, undirected]
    split
    next hyx =>
      obtain rfl : x = y := String.le_antisymm hxy hyx
      rfl
    · rfl
  · rw [undirected_of_le hyx, undirected]
    split
    next hxy =>
      obtain rfl : x = y := String.le_antisymm hxy hyx
      rfl
    · rfl

/-- The ends of a cable are those of its links, in the order of their names. -/
theorem undirected_eq_iff {l : DirectedLink} {x y : String} :
    l.undirected = ⟨x, y⟩ ↔ x ≤ y ∧ (l = ⟨x, y⟩ ∨ l = ⟨y, x⟩) := by
  constructor
  · intro h
    rw [undirected] at h
    split at h
    next hle =>
      subst h
      exact ⟨hle, .inl rfl⟩
    next hnot =>
      obtain ⟨rfl, rfl⟩ := DirectedLink.mk.inj h
      exact ⟨(String.le_total _ _).resolve_left hnot, .inr rfl⟩
  · rintro ⟨hle, rfl | rfl⟩
    · exact undirected_of_le hle
    · rw [undirected_swap, undirected_of_le hle]

end DirectedLink

/-- A cable joins two names, in their order, exactly if a link leads from one of them to the other. -/
theorem mem_undirectedEdges_iff {links : List DirectedLink} {x y : String} :
    ⟨x, y⟩ ∈ undirectedEdges links ↔ x ≤ y ∧ (⟨x, y⟩ ∈ links ∨ ⟨y, x⟩ ∈ links) := by
  rw [undirectedEdges, OrderedSet.mem_ofList, List.mem_map]
  constructor
  · rintro ⟨l, hl, heq⟩
    obtain ⟨hle, rfl | rfl⟩ := DirectedLink.undirected_eq_iff.1 heq
    · exact ⟨hle, .inl hl⟩
    · exact ⟨hle, .inr hl⟩
  · rintro ⟨hle, hl | hl⟩
    · exact ⟨_, hl, DirectedLink.undirected_eq_iff.2 ⟨hle, .inl rfl⟩⟩
    · exact ⟨_, hl, DirectedLink.undirected_eq_iff.2 ⟨hle, .inr rfl⟩⟩

namespace Topology

variable {t : Topology} {x y : String} {i j k : Nat}

/-! ## Indices -/

/-- The index of a node is its place in the list of nodes, counted from one. -/
theorem indexOf?_eq_some_iff : t.indexOf? x = some (k + 1) ↔ t.names[k]? = some x := by
  rw [indexOf?, Option.map_eq_some_iff, names, ← OrderedSet.place?_eq_some_iff]
  constructor
  · rintro ⟨i, hi, heq⟩
    exact Nat.succ.inj heq ▸ hi
  · intro hk
    exact ⟨k, hk, rfl⟩

/-- Only a place gives an index. -/
theorem exists_place_of_indexOf? (h : t.indexOf? x = some i) : ∃ k, i = k + 1 ∧ t.names[k]? = some x := by
  obtain ⟨k, hk, rfl⟩ := Option.map_eq_some_iff.1 h
  exact ⟨k, rfl, OrderedSet.place?_eq_some_iff.1 hk⟩

/-- The indices of two nodes are ordered as their names are. -/
theorem compare_of_indexOf? (hx : t.indexOf? x = some i) (hy : t.indexOf? y = some j) :
    compare x y = compare i j := by
  obtain ⟨k, rfl, hk⟩ := exists_place_of_indexOf? hx
  obtain ⟨m, rfl, hm⟩ := exists_place_of_indexOf? hy
  rw [compare_getElem? t.nodes.pairwise_toList hk hm]
  simp [Nat.compare_eq_ite_lt]

theorem indexOf?_lt_iff (hx : t.indexOf? x = some i) (hy : t.indexOf? y = some j) : i < j ↔ x < y := by
  rw [← Nat.compare_eq_lt, ← compare_of_indexOf? hx hy]
  exact compareOfLessAndEq_eq_lt

theorem indexOf?_le_iff (hx : t.indexOf? x = some i) (hy : t.indexOf? y = some j) : i ≤ j ↔ x ≤ y := by
  rw [← Nat.not_lt, ← String.not_lt, indexOf?_lt_iff hy hx]

/-- Every node has a place, and so an index. -/
theorem exists_place (h : x ∈ t.nodes) :
    ∃ k, k < t.size ∧ t.names[k]? = some x ∧ t.indexOf? x = some (k + 1) := by
  obtain ⟨k, hlt, hk⟩ := List.mem_iff_getElem.1 (OrderedSet.mem_iff.1 h)
  have hplace : t.names[k]? = some x := List.getElem?_eq_some_iff.2 ⟨hlt, hk⟩
  exact ⟨k, hlt, hplace, indexOf?_eq_some_iff.2 hplace⟩

/-! ## Cables -/

/-- Two nodes are joined by a cable if a link leads from one of them to the other. -/
def IsJoined (t : Topology) (x y : String) : Prop := ⟨x, y⟩ ∈ t.edges.keys ∨ ⟨y, x⟩ ∈ t.edges.keys

theorem mem_cables_iff : ⟨x, y⟩ ∈ t.cables ↔ x ≤ y ∧ t.IsJoined x y := mem_undirectedEdges_iff

theorem IsJoined.symm (h : t.IsJoined x y) : t.IsJoined y x := Or.symm h

/-- Only nodes are joined. -/
theorem IsJoined.mem_nodes (h : t.IsJoined x y) : x ∈ t.nodes ∧ y ∈ t.nodes := by
  rcases h with h | h
  · exact t.joined _ h
  · exact (t.joined _ h).symm

end Topology

end BackboneLab
