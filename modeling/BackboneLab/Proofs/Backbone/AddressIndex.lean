import BackboneLab.Proofs.Backbone.AddressPlan
import Mathlib.Data.Set.Function
import Mathlib.Order.Interval.Set.Defs
import Mathlib.Tactic.IntervalCases

/-!
# Which address indices nodes can have

Nodes get their addresses one after the other. A node fits if its index and its address index are octets,
the latter other than zero, and no node before it has the same address index (`Fits`). Each node before
the first one that does not fit is found again by its address index (`Assigned`), so the plan fails at
that node, and the fault tells which of the conditions it breaks (`PlanEnd`). The main statements are
`plan_or_first_misfit`, and `reserved_unused_iff` on the address indices that rules reserve.
-/

namespace BackboneLab.AddressPlan

/-- The node with the given index can have its address index. -/
structure Fits (a : Nat → Nat) (k : Nat) : Prop where
  index_le : k ≤ 255
  addr_pos : 1 ≤ a k
  addr_le : a k ≤ 255
  fresh : ∀ j, 1 ≤ j → j < k → a j ≠ a k

/-- Why a node cannot have its address index, although all nodes before it can have theirs. -/
inductive Misfits (a : Nat → Nat) (k : Nat) : Fault → Prop
  | index (high : 255 < k) : Misfits a k (.addressOverflow k k)
  | address (index : k ≤ 255) (outside : a k = 0 ∨ 255 < a k) : Misfits a k (.addressOverflow k (a k))
  /-- The address index is that of exactly one node before this one. -/
  | shared {j : Nat} (index : k ≤ 255) (pos : 1 ≤ a k) (le : a k ≤ 255)
      (other : ∀ i, (1 ≤ i ∧ i < k ∧ a i = a k) ↔ i = j) : Misfits a k (.addressCollision j k (a k))

/-- How the planning for nodes with the given names ends. -/
inductive PlanEnd (reserved : List ReservedIndex) (names : List String) :
    Except Fault AddressPlan → Prop
  | empty (unnamed : names = []) : PlanEnd reserved names (.error .emptyTopology)
  | planned {p : AddressPlan} (named : names ≠ [])
      (fits : ∀ k, 1 ≤ k → k ≤ names.length → Fits (addressIndex reserved names.length) k) :
      PlanEnd reserved names (.ok p)
  | misfit {k : Nat} {f : Fault} (low : 1 ≤ k) (high : k ≤ names.length)
      (before : ∀ i, 1 ≤ i → i < k → Fits (addressIndex reserved names.length) i)
      (misfits : Misfits (addressIndex reserved names.length) k f) : PlanEnd reserved names (.error f)

section
variable {a : Nat → Nat} {k : Nat}

theorem Misfits.not_fits {f : Fault} (h : Misfits a k f) : ¬ Fits a k := by
  intro hfits
  cases h with
  | index high => exact absurd hfits.index_le (Nat.not_le.2 high)
  | address index outside =>
    have := hfits.addr_pos
    have := hfits.addr_le
    omega
  | @shared j index pos le other =>
    obtain ⟨hj, hlt, haddr⟩ := (other j).2 rfl
    exact hfits.fresh j hj hlt haddr

/-- Nodes that fit have different address indices. -/
theorem eq_of_fits (h : ∀ i, 1 ≤ i → i < k → Fits a i) {i j : Nat} (hi : 1 ≤ i) (hik : i < k)
    (hj : 1 ≤ j) (hjk : j < k) (haddr : a i = a j) : i = j := by
  rcases Nat.lt_trichotomy i j with hlt | heq | hlt
  · exact absurd haddr ((h j hj hjk).fresh i hi hlt)
  · exact heq
  · exact absurd haddr.symm ((h i hi hik).fresh j hj hlt)

/-- All nodes fit if and only if all indices are octets, all address indices are octets other than zero,
and no two nodes share one. -/
theorem forall_fits_iff {n : Nat} (hn : 1 ≤ n) : (∀ k, 1 ≤ k → k ≤ n → Fits a k) ↔
    n ≤ 255 ∧ (∀ i, 1 ≤ i → i ≤ n → 1 ≤ a i ∧ a i ≤ 255) ∧ Set.InjOn a (Set.Icc 1 n) := by
  constructor
  · intro h
    refine ⟨(h n hn le_rfl).index_le, fun i hi hin => ⟨(h i hi hin).addr_pos, (h i hi hin).addr_le⟩, ?_⟩
    intro i hi j hj haddr
    have hbefore : ∀ i, 1 ≤ i → i < n + 1 → Fits a i := fun i hi hin => h i hi (Nat.le_of_lt_succ hin)
    exact eq_of_fits hbefore hi.1 (Nat.lt_succ_of_le hi.2) hj.1 (Nat.lt_succ_of_le hj.2) haddr
  · rintro ⟨hindex, haddr, hinj⟩ k hk hkn
    refine ⟨hkn.trans hindex, (haddr k hk hkn).1, (haddr k hk hkn).2, fun j hj hjk heq => ?_⟩
    have hjn : j ≤ n := hjk.le.trans hkn
    exact absurd (hinj ⟨hj, hjn⟩ ⟨hk, hkn⟩ heq) hjk.ne

end

/-! ## Assigning addresses -/

/-- The nodes before an index, each with its address index. -/
structure Assigned (a : Nat → Nat) (before : List NodeAddresses) (index : Nat) : Prop where
  addr : ∀ n ∈ before, 1 ≤ n.index ∧ n.index < index ∧ n.addr = a n.index
  all : ∀ j, 1 ≤ j → j < index → ∃ n ∈ before, n.index = j

section
variable {reserved : List ReservedIndex} {total index : Nat} {before : List NodeAddresses}

/-- An address index that is an octet is that of the node. -/
theorem addr_nodeFor (name : String) (h : addressIndex reserved total index ≤ 255) :
    (nodeFor reserved total index name).addr = addressIndex reserved total index :=
  UInt8.toNat_ofNat_of_lt' (by simp only [UInt8.size]; omega)

/-- One more node that fits. -/
theorem Assigned.concat (h : Assigned (addressIndex reserved total) before index)
    (hindex : 1 ≤ index) (name : String) (haddr : addressIndex reserved total index ≤ 255) :
    Assigned (addressIndex reserved total) (before ++ [nodeFor reserved total index name])
      (index + 1) where
  addr n hn := by
    rcases List.mem_append.1 hn with hn | hn
    · obtain ⟨hlow, hhigh, heq⟩ := h.addr n hn
      exact ⟨hlow, Nat.lt_succ_of_lt hhigh, heq⟩
    · obtain rfl := List.mem_singleton.1 hn
      exact ⟨hindex, Nat.lt_succ_self index, addr_nodeFor name haddr⟩
  all j hj hlt := by
    rcases Nat.lt_succ_iff_lt_or_eq.1 hlt with hlt | rfl
    · obtain ⟨n, hn, heq⟩ := h.all j hj hlt
      exact ⟨n, List.mem_append_left _ hn, heq⟩
    · exact ⟨_, List.mem_append_right _ List.mem_cons_self, rfl⟩

/-- Behind nodes that fit, assigning addresses ends, or stops at the first node that does not fit. -/
theorem assign_end (h : Assigned (addressIndex reserved total) before index) (hindex : 1 ≤ index)
    (hfits : ∀ i, 1 ≤ i → i < index → Fits (addressIndex reserved total) i) (names : List String) :
    (∃ nodes, assign reserved total before index names = .ok nodes ∧
      ∀ k, 1 ≤ k → k < index + names.length → Fits (addressIndex reserved total) k) ∨
    ∃ k f, assign reserved total before index names = .error f ∧ 1 ≤ k ∧ k < index + names.length ∧
      (∀ i, 1 ≤ i → i < k → Fits (addressIndex reserved total) i) ∧
      Misfits (addressIndex reserved total) k f := by
  induction names generalizing before index with
  | nil => exact .inl ⟨before, rfl, hfits⟩
  | cons name names ih =>
    have hhere : index < index + (name :: names).length := by simp
    simp only [assign]
    split
    next hhigh => exact .inr ⟨index, _, rfl, hindex, hhere, hfits, .index hhigh⟩
    next hlow =>
    have hlow : index ≤ 255 := Nat.not_lt.1 hlow
    split
    next houtside => exact .inr ⟨index, _, rfl, hindex, hhere, hfits, .address hlow houtside⟩
    next hinside =>
    have hpos : 1 ≤ addressIndex reserved total index := by omega
    have hle : addressIndex reserved total index ≤ 255 := by omega
    split
    next other hother =>
      obtain ⟨hmem, haddr⟩ : other ∈ before ∧ other.addr = addressIndex reserved total index :=
        ⟨List.mem_of_find?_eq_some hother, by simpa using List.find?_some hother⟩
      obtain ⟨hj, hlt, heq⟩ := h.addr other hmem
      refine .inr ⟨index, _, rfl, hindex, hhere, hfits, .shared hlow hpos hle fun i => ?_⟩
      constructor
      · rintro ⟨hi, hik, hsame⟩
        exact eq_of_fits hfits hi hik hj hlt (by rw [hsame, ← haddr, heq])
      · rintro rfl
        exact ⟨hj, hlt, by rw [← heq, haddr]⟩
    next hnone =>
      have hfit : Fits (addressIndex reserved total) index := by
        refine ⟨hlow, hpos, hle, fun j hj hlt hsame => ?_⟩
        obtain ⟨n, hn, rfl⟩ := h.all j hj hlt
        have := List.find?_eq_none.1 hnone n hn
        simp [(h.addr n hn).2.2, hsame] at this
      have hrest : ∀ i, 1 ≤ i → i < index + 1 → Fits (addressIndex reserved total) i := by
        intro i hi hlt
        rcases Nat.lt_succ_iff_lt_or_eq.1 hlt with hlt | rfl
        · exact hfits i hi hlt
        · exact hfit
      have hlength : index + (name :: names).length = index + 1 + names.length := by
        rw [List.length_cons]
        omega
      rw [hlength]
      exact ih (h.concat hindex name hle) (Nat.succ_pos index) hrest

end

variable {reserved : List ReservedIndex} {names : List String}

theorem ofNames_end (names : List String) (reserved : List ReservedIndex) :
    PlanEnd reserved names (ofNames names reserved) := by
  unfold ofNames
  split
  next hnone => exact .empty hnone
  next hsome =>
    have hstart : Assigned (addressIndex reserved names.length) [] 1 :=
      ⟨nofun, fun j hj hlt => absurd hlt (Nat.not_lt.2 hj)⟩
    have hnone : ∀ i, 1 ≤ i → i < 1 → Fits (addressIndex reserved names.length) i :=
      fun i hi hlt => absurd hlt (Nat.not_lt.2 hi)
    rcases assign_end hstart le_rfl hnone names with
      ⟨nodes, hok, hfits⟩ | ⟨k, f, herror, hk, hlt, hbefore, hmisfits⟩
    · rw [hok]
      exact .planned hsome fun k hk hkn => hfits k hk (by omega)
    · rw [herror]
      exact .misfit hk (by omega) hbefore hmisfits

/-- There is a plan if and only if there is a node and all nodes fit. -/
theorem exists_plan_iff : (∃ p, ofNames names reserved = .ok p) ↔ 1 ≤ names.length ∧
    ∀ k, 1 ≤ k → k ≤ names.length → Fits (addressIndex reserved names.length) k := by
  have hend := ofNames_end names reserved
  generalize ofNames names reserved = plan at hend
  cases hend with
  | empty unnamed => simp [unnamed]
  | @planned p named fits => exact iff_of_true ⟨p, rfl⟩ ⟨List.length_pos_iff.2 named, fits⟩
  | @misfit k f low high before misfits =>
    exact iff_of_false nofun fun h => misfits.not_fits (h.2 k low high)

/-- Planning fails for the lack of nodes if and only if there is none. -/
theorem ofNames_eq_emptyTopology_iff :
    ofNames names reserved = .error .emptyTopology ↔ names.length = 0 := by
  have hend := ofNames_end names reserved
  generalize ofNames names reserved = plan at hend
  cases hend with
  | empty unnamed => exact iff_of_true rfl (List.length_eq_zero_iff.2 unnamed)
  | planned named => exact iff_of_false nofun fun h => named (List.length_eq_zero_iff.1 h)
  | misfit low high before misfits =>
    refine iff_of_false (fun h => ?_) (by omega)
    cases h
    cases misfits

/-! ## Looking nodes up -/

section
variable {p : AddressPlan}

/-- Every index up to the number of names is that of a node. -/
theorem Lists.node?_eq (h : Lists reserved names p.nodes) {i : Nat} (hi : 1 ≤ i)
    (hin : i ≤ names.length) : ∃ name, names[i - 1]? = some name ∧
      p.node? i = some (nodeFor reserved names.length i name) := by
  have hlt : i - 1 < names.length := by omega
  refine ⟨names[i - 1], List.getElem?_eq_getElem hlt, ?_⟩
  rw [node?, if_neg (by omega), h.eq_numbered, getElem?_numbered, List.getElem?_eq_getElem hlt,
    Nat.add_sub_cancel' hi]
  rfl

/-- No other index is that of a node. -/
theorem Lists.addr?_eq_none (h : Lists reserved names p.nodes) {i : Nat}
    (hi : i = 0 ∨ names.length < i) : p.addr? i = none := by
  rw [addr?, node?]
  split
  next => rfl
  next hpos => rw [List.getElem?_eq_none (by rw [h.length_eq]; omega), Option.map_none]

end

/-! ## The rule in effect -/

/-- The rule in effect for the node with the given index: the first one for this index, if any. -/
def ruleFor? (reserved : List ReservedIndex) (index : Nat) : Option ReservedIndex :=
  reserved.find? fun r => r.index.toNat = index

theorem addressIndex_of_rule {total index : Nat} {r : ReservedIndex}
    (h : ruleFor? reserved index = some r) :
    addressIndex reserved total index = r.substitute.resolve total := by
  rw [ruleFor?] at h
  rw [addressIndex, h]

theorem addressIndex_of_none {total index : Nat} (h : ruleFor? reserved index = none) :
    addressIndex reserved total index = index := by
  rw [ruleFor?] at h
  rw [addressIndex, h]

/-- The address index of every node, by the first rule for its index and what this rule puts in its place. -/
theorem addressIndex_eq (reserved : List ReservedIndex) (total : Nat) :
    addressIndex reserved total = fun index =>
      match ruleFor? reserved index with
      | some ⟨_, .afterLast⟩ => total + 1
      | some ⟨_, .fixed other⟩ => other.toNat
      | none => index := by
  funext index
  cases hrule : ruleFor? reserved index with
  | none => exact addressIndex_of_none hrule
  | some r =>
    rw [addressIndex_of_rule hrule]
    obtain ⟨_, _ | other⟩ := r <;> rfl

/-- The rules used unless others are given move the second node behind the last one. -/
theorem addressIndex_defaultReserved (total index : Nat) :
    addressIndex defaultReserved total index = if index = 2 then total + 1 else index := by
  by_cases h : index = 2
  · subst h
    rfl
  · have hnone : (defaultReserved.find? fun r => r.index.toNat = index) = none := by
      simp [defaultReserved, Ne.symm h]
    rw [addressIndex, hnone, if_neg h]

/-- With the rules used unless others are given, there is a plan for up to 254 nodes. -/
theorem exists_default_plan_iff : (∃ p, ofNames names defaultReserved = .ok p) ↔
    1 ≤ names.length ∧ names.length ≤ 254 := by
  rw [exists_plan_iff]
  refine and_congr_right fun hn => ⟨fun h => ?_, fun h k hk hkn => ?_⟩
  · by_contra hmany
    have hsecond := (h 2 (by omega) (by omega)).addr_le
    rw [addressIndex_defaultReserved, if_pos rfl] at hsecond
    omega
  · refine ⟨by omega, ?_, ?_, fun j hj hlt => ?_⟩
    · rw [addressIndex_defaultReserved]
      split <;> omega
    · rw [addressIndex_defaultReserved]
      split <;> omega
    · -- the second node comes behind the last one, where no other node is
      rw [addressIndex_defaultReserved, addressIndex_defaultReserved]
      split <;> split <;> omega

/-- Let `a` give every index its address index: what the first rule for the index puts in its place, which
is the index behind the last node or a fixed one, or the index itself. There is a plan if and only if there
is at least one node, all indices are octets, all address indices are octets other than zero, and no two
nodes share one. The nodes of a plan have the indices from one on, the names in their order, and their
address indices; no other index has one. If there are no nodes, this is the fault; otherwise the fault is
about the first node that does not fit. With the rules used unless others are given there is a plan for up
to 254 nodes. -/
theorem plan_or_first_misfit (names : List String) (reserved : List ReservedIndex) :
    let n := names.length
    let a : Nat → Nat := fun i =>
      match ruleFor? reserved i with
      | some ⟨_, .afterLast⟩ => n + 1
      | some ⟨_, .fixed k⟩ => k.toNat
      | none => i
    ((∃ p, ofNames names reserved = .ok p) ↔ 1 ≤ n ∧ n ≤ 255 ∧
      (∀ i, 1 ≤ i → i ≤ n → 1 ≤ a i ∧ a i ≤ 255) ∧ Set.InjOn a (Set.Icc 1 n)) ∧
    (∀ p, ofNames names reserved = .ok p →
      (∀ i, 1 ≤ i → i ≤ n → ∃ node, p.node? i = some node ∧ node.index = i ∧
        names[i - 1]? = some node.name ∧ p.addr? i = some (a i)) ∧
      p.addr? 0 = none ∧ ∀ k, n < k → p.addr? k = none) ∧
    (ofNames names reserved = .error .emptyTopology ↔ n = 0) ∧
    (∀ f, 1 ≤ n → ofNames names reserved = .error f → ∃ k, 1 ≤ k ∧ k ≤ n ∧
      (∀ i, 1 ≤ i → i < k → Fits a i) ∧ Misfits a k f) ∧
    ((∃ p, ofNames names defaultReserved = .ok p) ↔ 1 ≤ n ∧ n ≤ 254) := by
  intro n a
  -- from here on the rules enter by the address indices alone
  have ha : a = addressIndex reserved n := (addressIndex_eq reserved n).symm
  clear_value a
  subst ha
  refine ⟨?_, fun p hp => ?_, ofNames_eq_emptyTopology_iff, fun f hn hf => ?_, exists_default_plan_iff⟩
  · rw [exists_plan_iff]
    exact and_congr_right fun hn => forall_fits_iff hn
  · have hlists := ofNames_lists hp
    refine ⟨fun i hi hin => ?_, hlists.addr?_eq_none (.inl rfl), fun k hk => hlists.addr?_eq_none (.inr hk)⟩
    obtain ⟨name, hname, hnode⟩ := hlists.node?_eq hi hin
    refine ⟨_, hnode, rfl, hname, ?_⟩
    rw [addr?, hnode, Option.map_some, addr_nodeFor name (hlists.octets i hi hin).2.2]
  · have hend := ofNames_end names reserved
    rw [hf] at hend
    cases hend with
    | empty unnamed => exact absurd (List.length_eq_zero_iff.2 unnamed) (by omega)
    | misfit low high before misfits => exact ⟨_, low, high, before, misfits⟩

/-- Of five nodes the second and the fourth have rules, and of the two rules for the second one the first
counts. -/
theorem plan_or_first_misfit_five_nodes :
    ∃ p, ofNames ["a", "b", "c", "d", "e"]
        [⟨2, .fixed 9⟩, ⟨2, .afterLast⟩, ⟨4, .afterLast⟩] = .ok p ∧
      p.addr? 1 = some 1 ∧ p.addr? 2 = some 9 ∧ p.addr? 3 = some 3 ∧ p.addr? 4 = some 6 ∧
      p.addr? 5 = some 5 ∧ p.addr? 6 = none := by
  obtain ⟨hplan, hnodes, -⟩ := plan_or_first_misfit ["a", "b", "c", "d", "e"]
    [⟨2, .fixed 9⟩, ⟨2, .afterLast⟩, ⟨4, .afterLast⟩]
  obtain ⟨p, hp⟩ := hplan.2 <| by
    refine ⟨by decide, by decide, fun i hi hin => ?_, fun i hi j hj => ?_⟩
    · have hin : i ≤ 5 := hin
      interval_cases i <;> decide
    · obtain ⟨hi, hin⟩ : 1 ≤ i ∧ i ≤ 5 := hi
      obtain ⟨hj, hjn⟩ : 1 ≤ j ∧ j ≤ 5 := hj
      interval_cases i <;> interval_cases j <;> decide
  obtain ⟨hassigned, -, hbehind⟩ := hnodes p hp
  obtain ⟨_, -, -, -, h₁⟩ := hassigned 1 (by decide) (by decide)
  obtain ⟨_, -, -, -, h₂⟩ := hassigned 2 (by decide) (by decide)
  obtain ⟨_, -, -, -, h₃⟩ := hassigned 3 (by decide) (by decide)
  obtain ⟨_, -, -, -, h₄⟩ := hassigned 4 (by decide) (by decide)
  obtain ⟨_, -, -, -, h₅⟩ := hassigned 5 (by decide) (by decide)
  exact ⟨p, hp, h₁, h₂, h₃, h₄, h₅, hbehind 6 (by decide)⟩

/-- A rule can give a node the index of a later one, which then does not fit. -/
example : ofNames ["a", "b", "c", "d", "e"] [⟨2, .fixed 3⟩] = .error (.addressCollision 2 3 3) := by rfl

/-! ## Reserved address indices -/

/-- A node that no rule is in effect for keeps its index, and no rule reserves it. So a node has a reserved
address index if and only if that is the substitute of the rule in effect for it. -/
theorem addressIndex_eq_reserved_iff {total index : Nat} {r : ReservedIndex} (hr : r ∈ reserved) :
    addressIndex reserved total index = r.index.toNat ↔
      ∃ rule, ruleFor? reserved index = some rule ∧
        rule.substitute.resolve total = r.index.toNat := by
  cases hrule : ruleFor? reserved index with
  | some rule => simp [addressIndex_of_rule hrule]
  | none =>
    rw [addressIndex_of_none hrule]
    refine iff_of_false (fun heq => ?_) nofun
    have := List.find?_eq_none.1 hrule r hr
    simp [heq] at this

theorem Lists.addr_eq {nodes : List NodeAddresses} (h : Lists reserved names nodes)
    {node : NodeAddresses} (hnode : node ∈ nodes) :
    node.addr = addressIndex reserved names.length node.index := by
  obtain ⟨hlow, hhigh⟩ := h.index_bounds hnode
  have hoctet := (h.octets node.index hlow hhigh).2.2
  obtain ⟨i, hi⟩ := List.mem_iff_getElem?.1 hnode
  rw [h.eq_numbered, getElem?_numbered, Option.map_eq_some_iff] at hi
  obtain ⟨name, -, rfl⟩ := hi
  exact addr_nodeFor name hoctet

/-- A node of a plan has an address index that a rule reserves if and only if it is the substitute of the
rule in effect for the node. So a plan uses no reserved address index if and only if no rule that is in
effect for one of its nodes has a substitute that a rule reserves. -/
theorem reserved_unused_iff {p : AddressPlan} (hp : ofNames names reserved = .ok p) :
    (∀ node ∈ p.nodes, ∀ r ∈ reserved, node.addr = r.index.toNat ↔
      ∃ rule, ruleFor? reserved node.index = some rule ∧
        rule.substitute.resolve names.length = r.index.toNat) ∧
    ((∀ node ∈ p.nodes, ∀ r ∈ reserved, node.addr ≠ r.index.toNat) ↔
      ∀ i, 1 ≤ i → i ≤ names.length → ∀ rule, ruleFor? reserved i = some rule →
        ∀ r ∈ reserved, rule.substitute.resolve names.length ≠ r.index.toNat) := by
  have hlists := ofNames_lists hp
  have hused : ∀ node ∈ p.nodes, ∀ r ∈ reserved, node.addr = r.index.toNat ↔
      ∃ rule, ruleFor? reserved node.index = some rule ∧
        rule.substitute.resolve names.length = r.index.toNat := by
    intro node hnode r hr
    rw [hlists.addr_eq hnode]
    exact addressIndex_eq_reserved_iff hr
  refine ⟨hused, fun h i hi hin rule hrule r hr heq => ?_, fun h node hnode r hr haddr => ?_⟩
  · obtain ⟨name, -, hnode⟩ := hlists.node?_eq hi hin
    rw [node?, if_neg (by omega)] at hnode
    have hmem := List.mem_of_getElem? hnode
    exact h _ hmem r hr ((hused _ hmem r hr).2 ⟨rule, hrule, heq⟩)
  · obtain ⟨rule, hrule, heq⟩ := (hused node hnode r hr).1 haddr
    obtain ⟨hlow, hhigh⟩ := hlists.index_bounds hnode
    exact h node.index hlow hhigh rule hrule r hr heq

/-- The second of five nodes is moved behind the last one, and the index there is not reserved. -/
theorem reserved_unused_five_nodes :
    let names := ["a", "b", "c", "d", "e"]
    let reserved : List ReservedIndex := [⟨2, .afterLast⟩, ⟨7, .fixed 9⟩]
    ∃ p, ofNames names reserved = .ok p ∧
      ∀ node ∈ p.nodes, ∀ r ∈ reserved, node.addr ≠ r.index.toNat := by
  intro names reserved
  have hp : ofNames names reserved = .ok ⟨[⟨1, "a", 1, 1⟩, ⟨2, "b", 2, 6⟩, ⟨3, "c", 3, 3⟩,
    ⟨4, "d", 4, 4⟩, ⟨5, "e", 5, 5⟩]⟩ := by rfl
  refine ⟨_, hp, (reserved_unused_iff hp).2.2 fun i hi hin => ?_⟩
  have hin : i ≤ 5 := hin
  interval_cases i <;> decide

/-- When a rule reserves the index behind the last of five nodes, the second node is moved there
nevertheless. -/
theorem reserved_used_five_nodes :
    let reserved : List ReservedIndex := [⟨2, .afterLast⟩, ⟨6, .fixed 9⟩]
    ∃ p, ofNames ["a", "b", "c", "d", "e"] reserved = .ok p ∧
      ∃ node ∈ p.nodes, ∃ r ∈ reserved, node.addr = r.index.toNat := by
  intro reserved
  refine ⟨⟨[⟨1, "a", 1, 1⟩, ⟨2, "b", 2, 6⟩, ⟨3, "c", 3, 3⟩, ⟨4, "d", 4, 4⟩, ⟨5, "e", 5, 5⟩]⟩, by rfl, ?_⟩
  exact ⟨⟨2, "b", 2, 6⟩, by simp, ⟨6, .fixed 9⟩, by simp [reserved], rfl⟩

end BackboneLab.AddressPlan
