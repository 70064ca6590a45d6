/-!
# Numerals

A decimal numeral as documents write it: a sign, a whole part without leading zeros, digits after the
point, and an exponent. A numeral keeps which of these parts were written, since an integer is a
numeral without a point and without an exponent. `Numeral.text` writes one and `Numeral.read` reads
one off the front of a text.
-/

namespace BackboneLab

/-- A decimal digit. -/
abbrev Digit := Fin 10

/-- The digit zero. -/
def Digit.zero : Digit := ⟨0, by decide⟩

/-- The digit that a character stands for. -/
def Digit.ofChar? (c : Char) : Option Digit :=
  if h : '0' ≤ c ∧ c ≤ '9' then
    some ⟨c.toNat - 48, by
      have h1 : (48 : Nat) ≤ c.toNat := h.1
      have h2 : c.toNat ≤ 57 := h.2
      omega⟩
  else none

/-- The character that stands for a digit. -/
def Digit.char (d : Digit) : Char := Nat.digitChar d.val

/-- The digits of a number, the most significant one first. -/
def digitsOf (n : Nat) : List Digit := (Nat.toDigits 10 n).filterMap Digit.ofChar?

/-- A decimal numeral: an optional minus sign, the whole part, the digits after the point (none if
there is no point), and the exponent if one is written. -/
structure Numeral where
  negative : Bool
  whole : Nat
  fraction : List Digit
  exponent : Option Int
deriving DecidableEq, Inhabited

namespace Numeral

/-- The numeral of a natural number. -/
def ofNat (n : Nat) : Numeral := ⟨false, n, [], none⟩

/-- The numeral of an integer. -/
def ofInt (i : Int) : Numeral := ⟨decide (i < 0), i.natAbs, [], none⟩

/-- The integer that a numeral without point and exponent stands for. A zero with a minus sign is
not an integer. -/
def toInt? (n : Numeral) : Option Int :=
  if n.fraction ≠ [] ∨ n.exponent ≠ none then none
  else if n.negative then if n.whole = 0 then none else some (-(n.whole : Int))
  else some n.whole

/-- The exponent as it is written, always with a sign. -/
def exponentText (e : Int) : List Char :=
  'e' :: (if e < 0 then '-' else '+') :: Nat.toDigits 10 e.natAbs

/-- The text of a numeral. -/
def text (n : Numeral) : List Char :=
  (if n.negative then ['-'] else []) ++ Nat.toDigits 10 n.whole ++
    (if n.fraction = [] then [] else '.' :: n.fraction.map Digit.char) ++
    (n.exponent.elim [] exponentText)

/-- The digits at the front of a text, and what follows them. -/
def readDigits : List Char → List Digit × List Char
  | [] => ([], [])
  | c :: cs =>
    match Digit.ofChar? c with
    | some d => let r := readDigits cs; (d :: r.1, r.2)
    | none => ([], c :: cs)

/-- The number that a list of digits stands for. -/
def ofDigits (ds : List Digit) : Nat := ds.foldl (fun n d => 10 * n + d.val) 0

/-- The whole part of a numeral: digits without a leading zero, unless zero is all. -/
def readWhole (cs : List Char) : Option (Nat × List Char) :=
  match readDigits cs with
  | ([], _) => none
  | (d :: ds, rest) => if d = 0 ∧ ds ≠ [] then none else some (ofDigits (d :: ds), rest)

/-- The digits after the point, if there is a point. At least one digit follows it. -/
def readFraction : List Char → Option (List Digit × List Char)
  | '.' :: cs =>
    match readDigits cs with
    | ([], _) => none
    | (ds, rest) => some (ds, rest)
  | cs => some ([], cs)

/-- The digits of an exponent. -/
def readExponentDigits (sign : Int) (cs : List Char) : Option (Option Int × List Char) :=
  match readDigits cs with
  | ([], _) => none
  | (ds, rest) => some (some (sign * ofDigits ds), rest)

/-- The exponent, if one is written. Its sign may be left out. -/
def readExponent : List Char → Option (Option Int × List Char)
  | 'e' :: '-' :: cs | 'E' :: '-' :: cs => readExponentDigits (-1) cs
  | 'e' :: '+' :: cs | 'E' :: '+' :: cs => readExponentDigits 1 cs
  | 'e' :: cs | 'E' :: cs => readExponentDigits 1 cs
  | cs => some (none, cs)

/-- Whether a text starts with a minus sign, and what follows it. -/
def readSign : List Char → Bool × List Char
  | '-' :: cs => (true, cs)
  | cs => (false, cs)

/-- The longest numeral at the front of a text, and what follows it. -/
def read (cs : List Char) : Option (Numeral × List Char) := do
  let (negative, cs) := readSign cs
  let (whole, cs) ← readWhole cs
  let (fraction, cs) ← readFraction cs
  let (exponent, cs) ← readExponent cs
  return (⟨negative, whole, fraction, exponent⟩, cs)

end Numeral

end BackboneLab
