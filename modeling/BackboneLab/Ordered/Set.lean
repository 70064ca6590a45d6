import BackboneLab.Ordered.Map

/-!
# Ordered sets

A finite set whose members are listed once each, in strictly increasing order. It is an ordered map
without values. The main statement is `OrderedSet.mem_ofList`: collecting a list loses no member and
adds none. The place of a member in the list is found by halving (`OrderedSet.place?`).
-/

universe u

namespace BackboneLab

open Std

/-- The place of an item among those of a list from the place `lo` up to `hi`, found by halving. The items
have to stand in increasing order. Every step leaves at most half of the places, so a step for each of
them is more than enough. -/
def placeBetween? {α : Type u} [Ord α] (as : List α) (a : α) :
    (steps lo hi : Nat) → hi ≤ as.length → Option Nat
  | 0, _, _, _ => none
  | steps + 1, lo, hi, hhi =>
    if h : lo < hi then
      let mid := lo + (hi - lo) / 2
      match compare (as.get ⟨mid, by omega⟩) a with
      | .lt => placeBetween? as a steps (mid + 1) hi hhi
      | .eq => some mid
      | .gt => placeBetween? as a steps lo mid (by omega)
    else none

/-- A finite set whose members are listed in strictly increasing order. -/
structure OrderedSet (α : Type u) [Ord α] where
  /-- The members, as the keys of a map without values. -/
  members : OrderedMap α Unit

namespace OrderedSet

variable {α : Type u} [Ord α]

/-- The members in increasing order. -/
def toList (s : OrderedSet α) : List α := s.members.keys

/-- The number of members. -/
def size (s : OrderedSet α) : Nat := s.toList.length

/-- The set without any member. -/
def empty : OrderedSet α := ⟨.empty⟩

instance : Membership α (OrderedSet α) := ⟨fun s a => a ∈ s.toList⟩

theorem mem_iff {s : OrderedSet α} {a : α} : a ∈ s ↔ a ∈ s.toList := Iff.rfl

instance [DecidableEq α] (s : OrderedSet α) (a : α) : Decidable (a ∈ s) :=
  inferInstanceAs (Decidable (a ∈ s.toList))

/-- The place of a member in the list of all, counted from zero. -/
def place? (s : OrderedSet α) (a : α) : Option Nat :=
  placeBetween? s.toList a s.toList.length 0 s.toList.length (Nat.le_refl _)

/-- Members come in strictly increasing order. -/
theorem pairwise_toList (s : OrderedSet α) : s.toList.Pairwise fun a b => compare a b = .lt :=
  List.pairwise_map.2 s.members.ordered

theorem mem_iff_entry {s : OrderedSet α} {a : α} : a ∈ s ↔ (a, ()) ∈ s.members.entries := by
  rw [mem_iff, toList, OrderedMap.keys, List.mem_map]
  exact ⟨fun ⟨e, he, ha⟩ => ha ▸ he, fun h => ⟨_, h, rfl⟩⟩

section Lawful

variable [TransOrd α] [LawfulEqOrd α]

/-- Adds a member. -/
def insert (s : OrderedSet α) (a : α) : OrderedSet α := ⟨s.members.insert a ()⟩

/-- The members of a list, each once. -/
def ofList (as : List α) : OrderedSet α := as.foldl insert empty

@[simp] theorem mem_insert {s : OrderedSet α} {a b : α} : b ∈ s.insert a ↔ b = a ∨ b ∈ s := by
  rw [mem_iff_entry, mem_iff_entry, ← OrderedMap.find?_eq_some_iff, ← OrderedMap.find?_eq_some_iff,
    insert, OrderedMap.find?_insert]
  split
  next h => simp [LawfulEqCmp.eq_of_compare h]
  next h =>
    refine ⟨.inr, fun h' => h'.resolve_left fun hb => h ?_⟩
    exact hb ▸ ReflCmp.compare_self

/-- Collecting a list loses no member and adds none. -/
@[simp] theorem mem_ofList {as : List α} {a : α} : a ∈ ofList as ↔ a ∈ as := by
  suffices h : ∀ s : OrderedSet α, a ∈ as.foldl insert s ↔ a ∈ s ∨ a ∈ as from
    (h empty).trans (by simp [mem_iff, empty, toList, OrderedMap.keys, OrderedMap.empty])
  induction as with
  | nil => simp
  | cons b as ih =>
    intro s
    rw [List.foldl_cons, ih, mem_insert, List.mem_cons, or_assoc, or_left_comm]

end Lawful

end OrderedSet

end BackboneLab
