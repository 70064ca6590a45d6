/-!
# Spans of time

A span of time is a number of nanoseconds. The longest span has as many seconds as an unsigned 64-bit
word can count, and 999999999 nanoseconds. Operations that could leave this range are partial
(`Span.add?`, `Span.times?`) or stop at the longest span (`Span.addUpTo`).
-/

namespace BackboneLab

/-- The nanoseconds of a second. -/
def nanosPerSecond : Nat := 1000000000

/-- A span of time in nanoseconds, shorter than `2 ^ 64` seconds. -/
structure Span where
  nanos : Nat
  nanos_lt : nanos < UInt64.size * nanosPerSecond
deriving DecidableEq

namespace Span

@[ext] theorem ext {s t : Span} (h : s.nanos = t.nanos) : s = t := by
  cases s; cases t; cases h; rfl

/-- No time at all. -/
def zero : Span := ⟨0, by decide⟩

/-- The longest span. -/
def longest : Span := ⟨UInt64.size * nanosPerSecond - 1, by decide⟩

instance : Inhabited Span := ⟨zero⟩

instance : LE Span := ⟨fun s t => s.nanos ≤ t.nanos⟩

instance (s t : Span) : Decidable (s ≤ t) := inferInstanceAs (Decidable (s.nanos ≤ t.nanos))

/-- The span of a number of nanoseconds, unless it is too long. -/
def ofNanos? (n : Nat) : Option Span :=
  if h : n < UInt64.size * nanosPerSecond then some ⟨n, h⟩ else none

/-- A number of seconds and less than a second of nanoseconds, unless it is too long. -/
def ofParts? (seconds nanos : Nat) : Option Span := ofNanos? (seconds * nanosPerSecond + nanos)

/-- A number of seconds. -/
def ofSeconds (n : UInt64) : Span :=
  ⟨n.toNat * nanosPerSecond, Nat.mul_lt_mul_of_pos_right n.toNat_lt (by decide)⟩

/-- A number of milliseconds. -/
def ofMillis (n : UInt64) : Span :=
  ⟨n.toNat * 1000000, by have := n.toNat_lt; simp only [nanosPerSecond, UInt64.size]; omega⟩

/-- The whole seconds of a span. -/
def seconds (s : Span) : Nat := s.nanos / nanosPerSecond

/-- The nanoseconds after the last whole second. -/
def subsecond (s : Span) : Nat := s.nanos % nanosPerSecond

/-- Two spans one after the other, unless they are too long together. -/
def add? (s t : Span) : Option Span := ofNanos? (s.nanos + t.nanos)

/-- A span so many times, unless it is too long. -/
def times? (s : Span) (n : Nat) : Option Span := ofNanos? (s.nanos * n)

/-- Two spans one after the other, or the longest span if they are too long together. -/
def addUpTo (s t : Span) : Span := (s.add? t).getD longest

/-- The longer of two spans. -/
def max (s t : Span) : Span := if s ≤ t then t else s

/-- The shorter of two spans. -/
def min (s t : Span) : Span := if s ≤ t then s else t

theorem ofNanos?_eq_some_iff {n : Nat} {s : Span} : ofNanos? n = some s ↔ s.nanos = n := by
  unfold ofNanos?
  split
  next h => exact ⟨fun h => by cases h; rfl, fun h => congrArg some (ext h.symm)⟩
  next h => exact ⟨fun h => (nomatch h), fun hs => absurd (hs ▸ s.nanos_lt) h⟩

theorem seconds_add_subsecond (s : Span) : s.seconds * nanosPerSecond + s.subsecond = s.nanos := by
  rw [seconds, subsecond, Nat.mul_comm]
  exact Nat.div_add_mod _ _

end Span

end BackboneLab
