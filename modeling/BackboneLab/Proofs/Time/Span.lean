import BackboneLab.Time.Span
import Mathlib.Algebra.BigOperators.Group.List.Basic
import Mathlib.Algebra.GroupWithZero.Nat

/-!
# Sums of spans of time

The checked sum of a list of spans is the exact one, and there is one if and only if the exact sum is no
longer than the longest span (`foldlM_add?_eq_some_iff`). Where there is one, a sum that stops at the
longest span never stops (`foldl_addUpTo`). The whole seconds of some spans make up their sum if and
only if each of them is a whole number of seconds (`sum_seconds_mul_eq_iff`).
-/

namespace BackboneLab.Span

/-- There is a span of so many nanoseconds unless the longest one has less. -/
theorem exists_nanos_iff {n : Nat} : (∃ s : Span, s.nanos = n) ↔ n ≤ longest.nanos := by
  have hlongest : longest.nanos + 1 = UInt64.size * nanosPerSecond := by decide
  constructor
  · rintro ⟨s, rfl⟩
    have := s.nanos_lt
    omega
  · intro h
    exact ⟨⟨n, by omega⟩, rfl⟩

/-- A span has no more than its whole seconds if and only if nothing is left after them. -/
theorem seconds_mul_eq_iff {s : Span} : s.seconds * nanosPerSecond = s.nanos ↔ s.subsecond = 0 := by
  have := s.seconds_add_subsecond
  omega

/-- What spans are together is in their seconds and in what is left after them. -/
theorem sum_seconds_add_sum_subsecond (ss : List Span) :
    (ss.map seconds).sum * nanosPerSecond + (ss.map subsecond).sum = (ss.map nanos).sum := by
  induction ss with
  | nil => rfl
  | cons s ss ih =>
    simp only [List.map_cons, List.sum_cons, Nat.add_mul, ← ih, ← s.seconds_add_subsecond]
    omega

/-- Spans have no more than their whole seconds together only if none of them has. -/
theorem sum_seconds_mul_eq_iff {ss : List Span} :
    (ss.map seconds).sum * nanosPerSecond = (ss.map nanos).sum ↔ ∀ s ∈ ss, s.subsecond = 0 := by
  rw [← sum_seconds_add_sum_subsecond, Nat.left_eq_add, List.sum_eq_zero_iff_forall_eq_nat,
    List.forall_mem_map]

/-- The checked sum of spans is their exact sum. -/
theorem foldlM_add?_eq_some_iff {t u : Span} {ss : List Span} :
    ss.foldlM add? t = some u ↔ u.nanos = t.nanos + (ss.map nanos).sum := by
  induction ss generalizing t with
  | nil =>
    rw [List.foldlM_nil, List.map_nil, List.sum_nil, Nat.add_zero]
    exact ⟨fun h => congrArg nanos (Option.some.inj h).symm, fun h => congrArg some (ext h.symm)⟩
  | cons s ss ih =>
    rw [List.foldlM_cons, Option.bind_eq_bind, Option.bind_eq_some_iff, List.map_cons, List.sum_cons,
      ← Nat.add_assoc]
    constructor
    · rintro ⟨v, hv, hu⟩
      rw [ih.1 hu, ofNanos?_eq_some_iff.1 hv]
    · intro hu
      have hlong : u.nanos ≤ longest.nanos := exists_nanos_iff.1 ⟨u, rfl⟩
      obtain ⟨v, hv⟩ := exists_nanos_iff.2 (show t.nanos + s.nanos ≤ longest.nanos by omega)
      exact ⟨v, ofNanos?_eq_some_iff.2 hv, ih.2 (by rw [hu, hv])⟩

/-- Where spans have a checked sum, adding them up never stops at the longest span. -/
theorem foldl_addUpTo {t u : Span} {ss : List Span} (h : ss.foldlM add? t = some u) :
    ss.foldl addUpTo t = u := by
  induction ss generalizing t with
  | nil => exact Option.some.inj h
  | cons s ss ih =>
    rw [List.foldlM_cons, Option.bind_eq_bind, Option.bind_eq_some_iff] at h
    obtain ⟨v, hv, hu⟩ := h
    rw [List.foldl_cons, addUpTo, hv]
    exact ih hu

theorem nanos_max (s t : Span) : (s.max t).nanos = Nat.max s.nanos t.nanos := by
  rw [max]
  split
  next hle => exact (Nat.max_eq_right hle).symm
  next hlt => exact (Nat.max_eq_left (Nat.le_of_not_le hlt)).symm

/-- The longest of some spans has the most nanoseconds. -/
theorem nanos_foldl_max (t : Span) (ss : List Span) :
    (ss.foldl max t).nanos = (ss.map nanos).foldl Nat.max t.nanos := by
  induction ss generalizing t with
  | nil => rfl
  | cons s ss ih => rw [List.foldl_cons, List.map_cons, List.foldl_cons, ih, nanos_max]

end BackboneLab.Span
