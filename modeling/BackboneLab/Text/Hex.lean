/-!
# Hexadecimal digits

Numbers in hexadecimal notation with a fixed number of digits, and the value of a hexadecimal digit of
either case.
-/

namespace BackboneLab.Text

/-- Which letters are used for the digits from ten to fifteen. -/
inductive LetterCase
  | lower
  | upper
deriving DecidableEq

/-- The hexadecimal digit of a number below sixteen. -/
def LetterCase.hexDigit : LetterCase → Nat → Char
  | .lower, n => Nat.digitChar n
  | .upper, n => (Nat.digitChar n).toUpper

/-- A number in hexadecimal notation, filled with zeros on the left to a number of digits. -/
def hexText (letters : LetterCase) (width : Nat) (n : Nat) : List Char :=
  let digits := (Nat.toDigits 16 n).map fun c =>
    match letters with
    | .lower => c
    | .upper => c.toUpper
  List.replicate (width - digits.length) '0' ++ digits

/-- The value of a hexadecimal digit, in lower or upper case. -/
def hexValue? (c : Char) : Option Nat :=
  if '0' ≤ c ∧ c ≤ '9' then some (c.toNat - '0'.toNat)
  else if 'a' ≤ c ∧ c ≤ 'f' then some (c.toNat - 'a'.toNat + 10)
  else if 'A' ≤ c ∧ c ≤ 'F' then some (c.toNat - 'A'.toNat + 10)
  else none

/-- The number that a text of hexadecimal digits stands for. -/
def readHex? (cs : List Char) : Option Nat :=
  cs.foldlM (fun n c => (hexValue? c).map (16 * n + ·)) 0

end BackboneLab.Text
