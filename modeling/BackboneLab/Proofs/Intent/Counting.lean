import BackboneLab.Intent.Expectation
import Mathlib.Algebra.BigOperators.Fin
import Mathlib.Algebra.Order.BigOperators.Group.List
import Mathlib.Tactic.Ring

/-!
# Counting intents

For every peer there are six intents, and one for every ordered pair of networks that two different peers
announce. The pairs are counted in one pass, every number of networks times that of all others
(`expectedIntents_eq_sum`), which comes to the sum over all pairs of different peers
(`networkPairs_eq_sum`). Peers that announce nothing and the order of the peers do not matter
(`expectedIntents_congr`). The main statement is `intents_count_pairs`.
-/

namespace BackboneLab

/-- The ordered pairs of networks that two different peers announce, where the peers are the places of a
list and the numbers at them count their networks. -/
def networkPairs (networks : List Nat) : Nat :=
  ∑ p ∈ (Finset.univ : Finset (Fin networks.length)).offDiag, networks[p.1] * networks[p.2]

/-! ## One pass over the peers -/

/-- Every number of networks is counted with that of all others. -/
theorem expectedIntents_eq_sum (peers : Nat) (networks : List Nat) :
    expectedIntents peers networks =
      6 * peers + (networks.map fun n => n * (networks.sum - n)).sum := by
  have hpeer : intentsPerPeer = 6 := rfl
  have hpairs : (networks.map fun n => n * (networks.sum - n)).sum =
      networks.foldr (fun n pairs => n * (networks.sum - n) + pairs) 0 := by
    rw [List.sum_eq_foldr (l := networks.map _), List.foldr_map]
  rw [expectedIntents, hpeer, Nat.mul_comm, ← List.sum_eq_foldr, hpairs]

/-- What all others announce is what is left of the sum. -/
theorem sum_erase_getElem (networks : List Nat) (i : Fin networks.length) :
    ∑ j ∈ Finset.univ.erase i, networks[j] = networks.sum - networks[i] := by
  have hall : ∑ j : Fin networks.length, networks[j] = networks.sum := Fin.sum_univ_getElem networks
  rw [← hall, ← Finset.sum_erase_add _ _ (Finset.mem_univ i), Nat.add_sub_cancel]

theorem networkPairs_eq_sum (networks : List Nat) :
    networkPairs networks = (networks.map fun n => n * (networks.sum - n)).sum := by
  have hothers : ∀ p : Fin networks.length × Fin networks.length,
      p ∈ Finset.univ.offDiag ↔ p.1 ∈ Finset.univ ∧ p.2 ∈ Finset.univ.erase p.1 := by
    simp [eq_comm]
  calc
    networkPairs networks = ∑ i, ∑ j ∈ Finset.univ.erase i, networks[i] * networks[j] :=
      Finset.sum_finset_product _ _ _ hothers
    _ = ∑ i : Fin networks.length, networks[i] * (networks.sum - networks[i]) :=
      Finset.sum_congr rfl fun i _ => by rw [← Finset.mul_sum, sum_erase_getElem]
    _ = (networks.map fun n => n * (networks.sum - n)).sum :=
      Fin.sum_univ_fun_getElem networks fun n => n * (networks.sum - n)

/-! ## What the count does not depend on -/

/-- Peers that announce nothing add nothing to a sum. -/
theorem sum_map_filter_pos {f : Nat → Nat} (h : f 0 = 0) (networks : List Nat) :
    ((networks.filter (0 < ·)).map f).sum = (networks.map f).sum := by
  induction networks with
  | nil => rfl
  | cons n networks ih =>
    rcases Nat.eq_zero_or_pos n with rfl | hpos
    · rw [List.filter_cons_of_neg (by simp), ih, List.map_cons, List.sum_cons, h, Nat.zero_add]
    · rw [List.filter_cons_of_pos (by simpa), List.map_cons, List.sum_cons, ih, List.map_cons, List.sum_cons]

theorem expectedIntents_filter_pos (peers : Nat) (networks : List Nat) :
    expectedIntents peers (networks.filter (0 < ·)) = expectedIntents peers networks := by
  have hsum : (networks.filter (0 < ·)).sum = networks.sum := by
    simpa using sum_map_filter_pos (f := id) rfl networks
  have hpairs := sum_map_filter_pos (f := fun n => n * (networks.sum - n)) (Nat.zero_mul _) networks
  rw [expectedIntents_eq_sum, expectedIntents_eq_sum, hsum, hpairs]

theorem expectedIntents_perm (peers : Nat) {networks networks' : List Nat} (h : networks.Perm networks') :
    expectedIntents peers networks = expectedIntents peers networks' := by
  rw [expectedIntents_eq_sum, expectedIntents_eq_sum, h.sum_eq, (h.map _).sum_eq]

/-- The order of the peers does not count, and neither do those that announce nothing. -/
theorem expectedIntents_congr (peers : Nat) {networks networks' : List Nat}
    (h : (networks.filter (0 < ·)).Perm (networks'.filter (0 < ·))) :
    expectedIntents peers networks = expectedIntents peers networks' := by
  rw [← expectedIntents_filter_pos, expectedIntents_perm peers h, expectedIntents_filter_pos]

/-! ## One peer more -/

/-- The networks of one peer more make pairs with those of all others, in both directions. -/
theorem expectedIntents_concat (peers : Nat) (networks : List Nat) (n : Nat) :
    expectedIntents peers (networks ++ [n]) = expectedIntents peers networks + 2 * n * networks.sum := by
  have hmore : ∀ m ∈ networks, m * (networks.sum + n - m) = m * (networks.sum - m) + m * n := by
    intro m hm
    rw [← Nat.mul_add, Nat.sub_add_comm (List.le_sum_of_mem hm)]
  have hsum : (networks ++ [n]).sum = networks.sum + n := by simp
  rw [expectedIntents_eq_sum, expectedIntents_eq_sum, hsum, List.map_append, List.sum_append,
    List.map_congr_left hmore, List.sum_map_add, List.sum_map_mul_right, List.map_id', List.map_singleton,
    List.sum_singleton, Nat.add_sub_cancel]
  ring

/-! ## Configurations -/

namespace IntentExpectation

/-- The same intents are expected if configurations that announce nothing are not left out. -/
theorem map_count_ofConfigs (c : NetworkConfig) (configs : List String) :
    (ofConfigs c configs).map count =
      (ofConfigs c configs).map fun e => expectedIntents e.peers (configs.map countNetworks) := by
  rw [ofConfigs]
  cases c.peers? with
  | some peers => exact congrArg Except.ok (expectedIntents_filter_pos _ _)
  | none => rfl

/-- The configurations that announce a network. -/
def announcing (configs : List String) : List String := configs.filter (0 < countNetworks ·)

theorem map_count_ofConfigs_congr (c : NetworkConfig) {configs configs' : List String}
    (h : (announcing configs).Perm (announcing configs')) :
    (ofConfigs c configs).map count = (ofConfigs c configs').map count := by
  have hcounts : ((configs.map countNetworks).filter (0 < ·)).Perm
      ((configs'.map countNetworks).filter (0 < ·)) := by
    rw [List.filter_map, List.filter_map]
    exact h.map countNetworks
  rw [ofConfigs, ofConfigs]
  cases c.peers? with
  | some peers =>
    refine congrArg Except.ok (expectedIntents_congr _ ?_)
    simpa only [List.filter_filter, Bool.and_self] using hcounts
  | none => rfl

end IntentExpectation

/-- The intents for so many peers and their networks: six for every peer, and one for every ordered pair of
networks of two different peers. To count them, no more is taken from the sum of all networks than there
is. The order of the peers does not matter, nor do peers that announce nothing; so it matters neither in
which order configurations are read nor whether those that announce nothing are. One peer more adds its
networks in pairs with all others, in both directions. -/
theorem intents_count_pairs :
    (∀ peers networks, expectedIntents peers networks = 6 * peers + networkPairs networks ∧
      ∀ n ∈ networks, n ≤ networks.foldr (· + ·) 0) ∧
    (∀ peers networks networks', (networks.filter (0 < ·)).Perm (networks'.filter (0 < ·)) →
      expectedIntents peers networks = expectedIntents peers networks') ∧
    (∀ c configs, (IntentExpectation.ofConfigs c configs).map IntentExpectation.count =
      (IntentExpectation.ofConfigs c configs).map fun e =>
        expectedIntents e.peers (configs.map countNetworks)) ∧
    (∀ c configs configs',
      (IntentExpectation.announcing configs).Perm (IntentExpectation.announcing configs') →
      (IntentExpectation.ofConfigs c configs).map IntentExpectation.count =
        (IntentExpectation.ofConfigs c configs').map IntentExpectation.count) ∧
    ∀ peers networks n, expectedIntents peers (networks ++ [n]) =
      expectedIntents peers networks + 2 * n * networks.sum := by
  refine ⟨fun peers networks => ⟨?_, fun n hn => ?_⟩, fun peers _ _ => expectedIntents_congr peers,
    IntentExpectation.map_count_ofConfigs, fun c _ _ => IntentExpectation.map_count_ofConfigs_congr c,
    expectedIntents_concat⟩
  · rw [expectedIntents_eq_sum, networkPairs_eq_sum]
  · rw [← List.sum_eq_foldr]
    exact List.le_sum_of_mem hn

/-- Two routers, of which one announces two networks and the other one, and a daemon that announces none. -/
theorem intents_count_pairs_two_routers :
    let west := "network 192.168.1.0/24\nnetwork 192.168.10.0/24"
    let east := "network 192.168.2.0/24\n!network 192.168.20.0/24"
    let silent := "log stdout"
    let c : NetworkConfig :=
      ⟨.empty, [⟨"speaker1", "of:00000000000000a1/2", [⟨10, 0, 1, 1⟩, ⟨10, 0, 2, 1⟩]⟩], none⟩
    expectedIntents 2 [2, 0, 1] = expectedIntents 2 [1, 2] ∧ networkPairs [1, 2] = 4 ∧
      (IntentExpectation.ofConfigs c [west, silent, east]).map IntentExpectation.count =
        (IntentExpectation.ofConfigs c [east, west]).map IntentExpectation.count ∧
      (IntentExpectation.ofConfigs c [east, west]).map IntentExpectation.count = .ok 16 := by
  intro west east silent c
  obtain ⟨hpairs, hcongr, hdropped, hconfigs, -⟩ := intents_count_pairs
  have hnetworks : ([2, 0, 1].filter (0 < ·)).Perm ([1, 2].filter (0 < ·)) := by decide
  have hannounce : (IntentExpectation.announcing [west, silent, east]).Perm
      (IntentExpectation.announcing [east, west]) := by decide +kernel
  have hcounts : [east, west].map countNetworks = [1, 2] := by decide +kernel
  have hcount : 16 = 6 * 2 + networkPairs [1, 2] := (hpairs 2 [1, 2]).1
  refine ⟨hcongr 2 _ _ hnetworks, by omega, hconfigs c _ _ hannounce, ?_⟩
  rw [hdropped, hcounts]
  rfl

end BackboneLab
