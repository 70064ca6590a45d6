import BackboneLab.Ordered.Set
import Mathlib.Data.List.Basic

/-!
# Members and places of ordered sets

A set is determined by its members (`OrderedSet.ext_mem`). They are listed in strictly increasing order,
and in such a list the items are ordered as their places are (`compare_getElem?`). That is why halving
finds the place of an item if there is one (`placeBetween?_eq_some_iff`), so that the members of a set are
found at their places, and nothing else is found (`OrderedSet.place?_eq_some_iff`).
-/

universe u

namespace BackboneLab

open Std

section
variable {α : Type u} [Ord α] [TransOrd α] {as : List α} {a x y : α} {i j k : Nat}

/-- The items of a strictly increasing list are ordered as their places are. -/
theorem compare_getElem? (h : as.Pairwise fun a b => compare a b = .lt) (hx : as[i]? = some x)
    (hy : as[j]? = some y) : compare x y = compare i j := by
  obtain ⟨hi, rfl⟩ := List.getElem?_eq_some_iff.1 hx
  obtain ⟨hj, rfl⟩ := List.getElem?_eq_some_iff.1 hy
  have hlt := List.pairwise_iff_getElem.1 h
  rcases Nat.lt_trichotomy i j with hij | rfl | hji
  · rw [Nat.compare_eq_lt.2 hij, hlt i j hi hj hij]
  · rw [Nat.compare_eq_eq.2 rfl, (ReflCmp.compare_self : compare as[i] as[i] = .eq)]
  · rw [Nat.compare_eq_gt.2 hji, OrientedCmp.gt_of_lt (hlt j i hj hi hji)]

/-- Halving finds an item of a strictly increasing list at its place, and finds nothing else. -/
theorem placeBetween?_eq_some_iff [LawfulEqOrd α] (h : as.Pairwise fun a b => compare a b = .lt)
    {steps lo hi : Nat} {hhi : hi ≤ as.length} (hsteps : hi - lo ≤ steps) :
    placeBetween? as a steps lo hi hhi = some k ↔ lo ≤ k ∧ k < hi ∧ as[k]? = some a := by
  induction steps generalizing lo hi with
  | zero => simp [placeBetween?]; omega
  | succ steps ih =>
    rw [placeBetween?]
    split
    next hlt =>
      -- the item in the middle tells on which side of it the place is
      have hmid : lo + (hi - lo) / 2 < as.length := by omega
      have hside : as[k]? = some a → compare (as.get ⟨_, hmid⟩) a = compare (lo + (hi - lo) / 2) k :=
        compare_getElem? h (List.getElem?_eq_getElem hmid)
      dsimp only
      split
      next hbefore =>
        rw [ih (by omega)]
        constructor
        · rintro ⟨hlo, hk, ha⟩
          exact ⟨by omega, hk, ha⟩
        · rintro ⟨hlo, hk, ha⟩
          have := Nat.compare_eq_lt.1 ((hside ha).symm.trans hbefore)
          exact ⟨this, hk, ha⟩
      next hfound =>
        have hget : as[lo + (hi - lo) / 2]? = some a := by
          rw [List.getElem?_eq_getElem hmid]
          exact congrArg some (LawfulEqCmp.eq_of_compare hfound)
        constructor
        · rintro ⟨⟩
          exact ⟨by omega, by omega, hget⟩
        · rintro ⟨-, -, ha⟩
          rw [Nat.compare_eq_eq.1 ((hside ha).symm.trans hfound)]
      next hbehind =>
        rw [ih (by omega)]
        constructor
        · rintro ⟨hlo, hk, ha⟩
          exact ⟨hlo, by omega, ha⟩
        · rintro ⟨hlo, hk, ha⟩
          have := Nat.compare_eq_gt.1 ((hside ha).symm.trans hbehind)
          exact ⟨hlo, this, ha⟩
    next hlt =>
      refine iff_of_false nofun ?_
      rintro ⟨hlo, hk, -⟩
      omega

end

namespace OrderedSet

variable {α : Type u} [Ord α] [TransOrd α] [LawfulEqOrd α] {s : OrderedSet α} {a : α} {k : Nat}

omit [LawfulEqOrd α] in
/-- The members determine the set. -/
theorem ext_mem {s' : OrderedSet α} (h : ∀ a, a ∈ s ↔ a ∈ s') : s = s' := by
  have hentries := entries_eq_of_mem_iff s.members.ordered s'.members.ordered fun ⟨a, ⟨⟩⟩ => by
    rw [← mem_iff_entry, h, mem_iff_entry]
  exact congrArg mk (OrderedMap.ext hentries)

/-- A member is found at its place in the list of all. -/
theorem place?_eq_some_iff : s.place? a = some k ↔ s.toList[k]? = some a := by
  rw [place?, placeBetween?_eq_some_iff s.pairwise_toList (Nat.sub_le _ _)]
  constructor
  · rintro ⟨-, -, ha⟩
    exact ha
  · intro ha
    exact ⟨Nat.zero_le _, (List.getElem?_eq_some_iff.1 ha).1, ha⟩

/-- Nothing but a member is found. -/
theorem place?_eq_none_iff : s.place? a = none ↔ a ∉ s := by
  rw [Option.eq_none_iff_forall_ne_some, mem_iff, List.mem_iff_getElem?, not_exists]
  exact forall_congr' fun k => not_congr place?_eq_some_iff

end OrderedSet

end BackboneLab
