import BackboneLab.Backbone.AddressPlan
import Mathlib.Data.List.Nodup

/-!
# The nodes of an address plan

A plan lists its nodes in the order of their indices, which count from one (`numbered`), and no two
nodes share an address index. `Lists` collects what a plan is known to satisfy once it has been made, and
`ofNames_lists` says that every plan satisfies it.
-/

namespace BackboneLab.AddressPlan

/-- The node with the given index and name among so many nodes. -/
def nodeFor (reserved : List ReservedIndex) (total index : Nat) (name : String) : NodeAddresses :=
  ⟨index, name, UInt8.ofNat index, UInt8.ofNat (addressIndex reserved total index)⟩

/-- The nodes with the given names, numbered from an index on. -/
def numbered (reserved : List ReservedIndex) (total : Nat) : Nat → List String → List NodeAddresses
  | _, [] => []
  | index, name :: names =>
    nodeFor reserved total index name :: numbered reserved total (index + 1) names

/-- What holds of the nodes of a plan for the given names. -/
structure Lists (reserved : List ReservedIndex) (names : List String) (nodes : List NodeAddresses) :
    Prop where
  eq_numbered : nodes = numbered reserved names.length 1 names
  addr_nodup : (nodes.map NodeAddresses.addr).Nodup
  /-- Indices are octets, and so are address indices, which are not zero either. -/
  octets : ∀ k, 1 ≤ k → k ≤ names.length →
    k ≤ 255 ∧ 0 < addressIndex reserved names.length k ∧ addressIndex reserved names.length k ≤ 255

section
variable {reserved : List ReservedIndex} {total : Nat}

@[simp] theorem length_numbered (index : Nat) (names : List String) :
    (numbered reserved total index names).length = names.length := by
  induction names generalizing index with
  | nil => rfl
  | cons name names ih => rw [numbered, List.length_cons, ih, List.length_cons]

/-- The indices of numbered nodes are consecutive. -/
@[simp] theorem map_index_numbered (index : Nat) (names : List String) :
    (numbered reserved total index names).map NodeAddresses.index = List.range' index names.length := by
  induction names generalizing index with
  | nil => rfl
  | cons name names ih =>
    rw [numbered, List.map_cons, ih, List.length_cons, List.range'_succ]
    rfl

/-- A numbered node is the one for its index and name. -/
theorem getElem?_numbered (index k : Nat) (names : List String) :
    (numbered reserved total index names)[k]? =
      names[k]?.map (nodeFor reserved total (index + k)) := by
  induction names generalizing index k with
  | nil => rfl
  | cons name names ih =>
    cases k with
    | zero => rfl
    | succ k =>
      rw [numbered, List.getElem?_cons_succ, List.getElem?_cons_succ, ih]
      congr 2
      omega

/-- Assigning addresses to nodes that can all have one numbers them, and gives no address index twice. -/
theorem assign_eq_ok {before nodes : List NodeAddresses} {index : Nat} {names : List String}
    (h : assign reserved total before index names = .ok nodes)
    (hb : (before.map NodeAddresses.addr).Nodup) :
    nodes = before ++ numbered reserved total index names ∧
      (nodes.map NodeAddresses.addr).Nodup ∧
      ∀ k, index ≤ k → k < index + names.length →
        k ≤ 255 ∧ 0 < addressIndex reserved total k ∧ addressIndex reserved total k ≤ 255 := by
  induction names generalizing before index with
  | nil =>
    rw [assign] at h
    cases h
    refine ⟨(List.append_nil _).symm, hb, fun k h1 h2 => ?_⟩
    simp only [List.length_nil] at h2
    omega
  | cons name names ih =>
    simp only [assign] at h
    split at h
    · cases h
    next hindex =>
    split at h
    · cases h
    next haddr =>
    split at h
    · cases h
    next hfind =>
    have hfresh : addressIndex reserved total index ∉ before.map NodeAddresses.addr := by
      intro hm
      obtain ⟨n, hn, ha⟩ := List.mem_map.1 hm
      have := List.find?_eq_none.1 hfind n hn
      simp [ha] at this
    have hoctet : (nodeFor reserved total index name).addr = addressIndex reserved total index :=
      UInt8.toNat_ofNat_of_lt' (by simp only [UInt8.size]; omega)
    have hb' : ((before ++ [nodeFor reserved total index name]).map NodeAddresses.addr).Nodup := by
      rw [List.map_append, List.map_singleton, hoctet]
      exact List.nodup_append.2 ⟨hb, List.nodup_singleton _, fun a ha b hb hab =>
        hfresh (List.mem_singleton.1 hb ▸ hab ▸ ha)⟩
    obtain ⟨heq, hnodup, hrest⟩ := ih h hb'
    refine ⟨?_, hnodup, fun k h1 h2 => ?_⟩
    · rw [heq, List.append_assoc, List.singleton_append]
      rfl
    · rw [List.length_cons] at h2
      rcases Nat.eq_or_lt_of_le h1 with rfl | h1
      · omega
      · exact hrest k h1 (by omega)

/-- A plan lists its nodes by their indices, with address indices that are pairwise distinct. -/
theorem ofNames_lists {names : List String} {p : AddressPlan} (h : ofNames names reserved = .ok p) :
    Lists reserved names p.nodes := by
  unfold ofNames at h
  split at h
  · cases h
  cases ha : assign reserved names.length [] 1 names with
  | error f => rw [ha] at h; cases h
  | ok nodes =>
    rw [ha] at h
    cases h
    obtain ⟨heq, hnodup, hoctets⟩ := assign_eq_ok ha List.nodup_nil
    exact ⟨heq, hnodup, fun k h1 h2 => hoctets k h1 (by omega)⟩

end

namespace Lists

variable {reserved : List ReservedIndex} {names : List String} {nodes : List NodeAddresses}

theorem length_eq (h : Lists reserved names nodes) : nodes.length = names.length := by
  rw [h.eq_numbered, length_numbered]

theorem map_index (h : Lists reserved names nodes) :
    nodes.map NodeAddresses.index = List.range' 1 nodes.length := by
  rw [h.length_eq, h.eq_numbered, map_index_numbered]

/-- No two nodes share an index. -/
theorem index_nodup (h : Lists reserved names nodes) : (nodes.map NodeAddresses.index).Nodup := by
  rw [h.map_index]
  exact List.nodup_range'

/-- The address index as an octet is shared by no two nodes either. -/
theorem peerOctet_nodup (h : Lists reserved names nodes) :
    (nodes.map NodeAddresses.peerOctet).Nodup := by
  have : nodes.map NodeAddresses.addr = (nodes.map NodeAddresses.peerOctet).map UInt8.toNat :=
    (List.map_map ..).symm
  exact .of_map _ (this ▸ h.addr_nodup)

/-- The nodes are counted from one. -/
theorem index_eq (h : Lists reserved names nodes) {i : Nat} {n : NodeAddresses}
    (hn : nodes[i]? = some n) : n.index = i + 1 := by
  rw [h.eq_numbered, getElem?_numbered, Option.map_eq_some_iff] at hn
  obtain ⟨name, -, rfl⟩ := hn
  exact Nat.add_comm 1 i

theorem index_bounds (h : Lists reserved names nodes) {n : NodeAddresses} (hn : n ∈ nodes) :
    1 ≤ n.index ∧ n.index ≤ names.length := by
  obtain ⟨i, hi⟩ := List.mem_iff_getElem?.1 hn
  have hlength := (List.getElem?_eq_some_iff.1 hi).1
  rw [h.index_eq hi]
  rw [h.length_eq] at hlength
  omega

/-- The indices count the names. -/
theorem exists_index_iff (h : Lists reserved names nodes) {P : Nat → Prop} :
    (∃ n ∈ nodes, P n.index) ↔ ∃ k, k < names.length ∧ P (k + 1) := by
  constructor
  · rintro ⟨n, hn, hP⟩
    obtain ⟨hlow, hhigh⟩ := h.index_bounds hn
    refine ⟨n.index - 1, by omega, ?_⟩
    rwa [Nat.sub_add_cancel hlow]
  · rintro ⟨k, hk, hP⟩
    have hlt : k < nodes.length := h.length_eq ▸ hk
    have hplace : nodes[k]? = some nodes[k] := List.getElem?_eq_getElem hlt
    exact ⟨nodes[k], List.getElem_mem hlt, by rwa [h.index_eq hplace]⟩

/-- The octet that is used behind a node is its index. -/
theorem hostOctet_toNat (h : Lists reserved names nodes) {n : NodeAddresses} (hn : n ∈ nodes) :
    n.hostOctet.toNat = n.index := by
  obtain ⟨hlow, hhigh⟩ := h.index_bounds hn
  have hoctet : n.hostOctet = UInt8.ofNat n.index := by
    obtain ⟨i, hi⟩ := List.mem_iff_getElem?.1 hn
    rw [h.eq_numbered, getElem?_numbered, Option.map_eq_some_iff] at hi
    obtain ⟨name, -, rfl⟩ := hi
    rfl
  have hlt : n.index < UInt8.size := by
    have := (h.octets n.index hlow hhigh).1
    simp only [UInt8.size]
    omega
  rw [hoctet, UInt8.toNat_ofNat_of_lt' hlt]

/-- No two nodes share this octet. -/
theorem hostOctet_nodup (h : Lists reserved names nodes) :
    (nodes.map NodeAddresses.hostOctet).Nodup := by
  have hindices : (nodes.map NodeAddresses.hostOctet).map UInt8.toNat =
      nodes.map NodeAddresses.index := by
    rw [List.map_map]
    exact List.map_congr_left fun n hn => h.hostOctet_toNat hn
  exact .of_map _ (hindices ▸ h.index_nodup)

/-- No two routers share the number of their autonomous systems. -/
theorem asNumber_nodup (h : Lists reserved names nodes) (base : Nat) :
    (nodes.map fun n => n.asNumber base).Nodup := by
  have hnumbers : (nodes.map fun n => n.asNumber base) =
      (nodes.map NodeAddresses.index).map (base + ·) := (List.map_map ..).symm
  rw [hnumbers]
  exact h.index_nodup.map fun i j heq => Nat.add_left_cancel heq

/-- Addresses that are told apart by the address index are pairwise distinct. -/
theorem address_nodup (h : Lists reserved names nodes) (last : UInt8) :
    (nodes.map fun n => (⟨10, 0, n.peerOctet, last⟩ : Ipv4)).Nodup := by
  have haddresses : (nodes.map fun n => (⟨10, 0, n.peerOctet, last⟩ : Ipv4)) =
      (nodes.map NodeAddresses.peerOctet).map fun o => ⟨10, 0, o, last⟩ := by
    rw [List.map_map]
    rfl
  rw [haddresses]
  exact h.peerOctet_nodup.map fun o o' heq => congrArg Ipv4.third heq

end Lists

end BackboneLab.AddressPlan
