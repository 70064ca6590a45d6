/-!
# Decimal texts of natural numbers

A natural number is written with its decimal digits, without a leading zero. The main statement is
`readNat?_eq_some_iff`: exactly the texts that writing produces can be read.
-/

namespace BackboneLab

/-- A power of ten. -/
def tenTo (k : Nat) : Nat := Nat.pow 10 k

/-- A power of two. -/
def twoTo (k : Nat) : Nat := Nat.pow 2 k

/-- The decimal digits of a number. -/
def natText (n : Nat) : List Char := Nat.toDigits 10 n

/-- The decimal digits of a number, as they stand in names, paths and command lines. -/
def decimal (n : Nat) : String := String.ofList (natText n)

/-- The number with the given decimal text. A sign, a leading zero and anything else that writing
does not produce is refused. -/
def readNat? (cs : List Char) : Option Nat :=
  let n := Nat.ofDigitChars 10 cs 0
  if natText n = cs then some n else none

/-- Exactly the texts that writing produces can be read. -/
theorem readNat?_eq_some_iff {cs : List Char} {n : Nat} : readNat? cs = some n ↔ cs = natText n := by
  constructor
  · intro h
    simp only [readNat?] at h
    split at h
    · cases h
      exact Eq.symm ‹_›
    · cases h
  · rintro rfl
    simp [readNat?, natText, Nat.ofDigitChars_toDigits]

theorem natText_ne_nil (n : Nat) : natText n ≠ [] := Nat.toDigits_ne_nil

/-- A decimal text holds digits only. -/
theorem isDigit_of_mem_natText {n : Nat} {c : Char} (h : c ∈ natText n) : c.isDigit = true :=
  Nat.isDigit_of_mem_toDigits (by decide) (by decide) h

theorem natText_injective {m n : Nat} (h : natText m = natText n) : m = n :=
  Option.some.inj ((readNat?_eq_some_iff.2 h).symm.trans (readNat?_eq_some_iff.2 rfl)).symm

theorem readNat?_decimal (n : Nat) : readNat? (decimal n).toList = some n :=
  readNat?_eq_some_iff.2 String.toList_ofList

theorem decimal_injective {m n : Nat} (h : decimal m = decimal n) : m = n :=
  natText_injective (String.ofList_injective h)

end BackboneLab
