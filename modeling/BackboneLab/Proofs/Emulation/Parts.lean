import BackboneLab.Proofs.Backbone.AddressPlan
import BackboneLab.Proofs.Emulation.Layout

/-!
# The parts of an emulated network

The parts of a network are its switches, routers and hosts, and the speaker. In the network for a
backbone they are named by a letter and the index of their node, or as the speaker
(`EmulatedNetwork.mem_partNames_iff`), so that no two parts share a name
(`EmulatedNetwork.partNames_nodup`).
-/

namespace BackboneLab.EmulatedNetwork

/-! ## Names -/

/-- The name of the router with the given index. -/
def routerName (index : Nat) : String := "r" ++ decimal index

@[simp] theorem toList_switchName (index : Nat) :
    (switchName index).toList = 's' :: natText index := by
  simp [switchName, decimal]

@[simp] theorem toList_routerName (index : Nat) :
    (routerName index).toList = 'r' :: natText index := by
  simp [routerName, decimal]

@[simp] theorem toList_hostName (index : Nat) : (hostName index).toList = 'h' :: natText index := by
  simp [hostName, decimal]

@[simp] theorem toList_speakerName : speakerName.toList = ['b', 'g', 'p'] := by
  simp [speakerName]

theorem switchName_injective {i j : Nat} (h : switchName i = switchName j) : i = j :=
  decimal_injective ((String.append_right_inj _).1 h)

theorem routerName_injective {i j : Nat} (h : routerName i = routerName j) : i = j :=
  decimal_injective ((String.append_right_inj _).1 h)

theorem hostName_injective {i j : Nat} (h : hostName i = hostName j) : i = j :=
  decimal_injective ((String.append_right_inj _).1 h)

/-- Names that begin with different letters are different. -/
theorem ne_of_head?_ne {x y : String} (h : x.toList.head? ≠ y.toList.head?) : x ≠ y := by
  rintro rfl
  exact h rfl

theorem nodup_append_of_head? {xs ys : List String} (c : Char) (hxs : xs.Nodup) (hys : ys.Nodup)
    (hother : ∀ x ∈ xs, x.toList.head? ≠ some c) (hletter : ∀ y ∈ ys, y.toList.head? = some c) :
    (xs ++ ys).Nodup :=
  List.nodup_append.2 ⟨hxs, hys, fun x hx y hy => ne_of_head?_ne (hletter y hy ▸ hother x hx)⟩

/-- The names of all parts of a network. -/
def partNames (n : EmulatedNetwork) : List String :=
  n.switches.map Switch.name ++ n.routers.map Router.name ++ n.hosts.map Host.name ++ [n.speaker.name]

/-! ## The network for a backbone -/

/-- The parts of a plan are named by the indices of its nodes. -/
theorem partNames_ofPlan (p : AddressPlan) (t : Topology) (s : Settings) (confDir : Path) :
    (ofPlan p t s confDir).partNames =
      (p.nodes.map NodeAddresses.index).map switchName ++
        (p.nodes.map NodeAddresses.index).map routerName ++
        (p.nodes.map NodeAddresses.index).map hostName ++ [speakerName] := by
  simp only [partNames, ofPlan, List.map_map]
  rfl

section
variable {t : Topology} {s : Settings} {confDir : Path} {n : EmulatedNetwork}

theorem mem_partNames_iff (h : ofTopology t s confDir = .ok n) {x : String} :
    x ∈ n.partNames ↔
      (∃ k, k < t.size ∧ (x = switchName (k + 1) ∨ x = routerName (k + 1) ∨ x = hostName (k + 1))) ∨
        x = speakerName := by
  obtain ⟨p, hp, rfl⟩ := ofTopology_eq_ok h
  have hlists := AddressPlan.ofNames_lists hp
  have hnode : (∃ m ∈ p.nodes, x = switchName m.index ∨ x = routerName m.index ∨ x = hostName m.index) ↔
      ∃ k, k < t.size ∧ (x = switchName (k + 1) ∨ x = routerName (k + 1) ∨ x = hostName (k + 1)) :=
    hlists.exists_index_iff (P := fun i => x = switchName i ∨ x = routerName i ∨ x = hostName i)
  rw [partNames_ofPlan, ← hnode]
  simp only [List.mem_append, List.mem_map, exists_exists_and_eq_and, List.mem_singleton]
  constructor
  · rintro (((⟨m, hm, rfl⟩ | ⟨m, hm, rfl⟩) | ⟨m, hm, rfl⟩) | rfl)
    · exact .inl ⟨m, hm, .inl rfl⟩
    · exact .inl ⟨m, hm, .inr (.inl rfl)⟩
    · exact .inl ⟨m, hm, .inr (.inr rfl)⟩
    · exact .inr rfl
  · rintro (⟨m, hm, rfl | rfl | rfl⟩ | rfl)
    · exact .inl (.inl (.inl ⟨m, hm, rfl⟩))
    · exact .inl (.inl (.inr ⟨m, hm, rfl⟩))
    · exact .inl (.inr ⟨m, hm, rfl⟩)
    · exact .inr rfl

/-- No two parts share a name: parts of one kind have different indices, and names of different kinds
begin with different letters. -/
theorem partNames_nodup (h : ofTopology t s confDir = .ok n) : n.partNames.Nodup := by
  obtain ⟨p, hp, rfl⟩ := ofTopology_eq_ok h
  have hindices := (AddressPlan.ofNames_lists hp).index_nodup
  rw [partNames_ofPlan]
  refine nodup_append_of_head? 'b' (nodup_append_of_head? 'h' (nodup_append_of_head? 'r' ?_ ?_ ?_ ?_)
    ?_ ?_ ?_) (List.nodup_singleton _) ?_ ?_
  · exact hindices.map fun _ _ => switchName_injective
  · exact hindices.map fun _ _ => routerName_injective
  · simp
  · simp
  · exact hindices.map fun _ _ => hostName_injective
  · simp [or_imp, forall_and]
  · simp
  · simp [or_imp, forall_and]
  · simp

end

end BackboneLab.EmulatedNetwork
