import BackboneLab.Decimal.Numeral

/-!
# Reading doubles

The double that a numeral of a document stands for. At most 64 bits of its digits are kept, further
digits only count as places; the rest is one multiplication or division by a power of ten. Up to 15
digits and moderate exponents this is the nearest double.
-/

namespace BackboneLab

namespace Numeral

/-- The largest number that the kept digits may make up. -/
def digitLimit : Nat := UInt64.size - 1

/-- Appends digits to a number while it stays within the limit, and gives the digits left over. -/
def takeDigits (n : Nat) : List Digit → Nat × List Digit
  | [] => (n, [])
  | d :: ds => if 10 * n + d.val ≤ digitLimit then takeDigits (10 * n + d.val) ds else (n, d :: ds)

/-- The kept digits and the power of ten that they are to be scaled by. -/
def significand (n : Numeral) : Nat × Int :=
  let (kept, dropped) := takeDigits 0 (digitsOf n.whole)
  let (kept, ignored) := takeDigits kept n.fraction
  (kept, n.exponent.getD 0 + dropped.length - (n.fraction.length - ignored.length : Nat))

/-- The double nearest to a power of ten. -/
def powerOfTen (e : Nat) : Float := Float.ofScientific 1 false e

/-- A double times a power of ten, unless it is too large. Powers below the smallest one that has a
double are taken in steps. -/
def scale (x : Float) (e : Int) : Option Float :=
  if 0 ≤ e then
    if x == 0 then some x
    else if 308 < e then none
    else
      let y := x * powerOfTen e.toNat
      if y.isInf then none else some y
  else if -308 ≤ e then some (x / powerOfTen (-e).toNat)
  else if x == 0 then some x
  else scale (x / powerOfTen 308) (e + 308)
termination_by e.natAbs

/-- The double of a numeral, unless it is too large for one. -/
def toFloat? (n : Numeral) : Option Float :=
  let (kept, e) := n.significand
  (scale (Float.ofNat kept) e).map fun x => if n.negative then -x else x

end Numeral

/-- The double nearest to a decimal text as people type it: digits with or without a point and an
exponent, or the name of an infinity or of the undefined number. -/
def readFloat? (cs : List Char) : Option Float :=
  let (negative, cs) :=
    match cs with
    | '-' :: cs => (true, cs)
    | '+' :: cs => (false, cs)
    | cs => (false, cs)
  let magnitude? : Option Float :=
    let name := String.ofList (cs.map Char.toLower)
    if name = "inf" ∨ name = "infinity" then some (1.0 / 0.0)
    else if name = "nan" then some (0.0 / 0.0)
    else do
      let (whole, cs) := Numeral.readDigits cs
      let (fraction, cs) := match cs with
        | '.' :: cs => Numeral.readDigits cs
        | cs => ([], cs)
      let (exponent, cs) ← Numeral.readExponent cs
      if (whole = [] ∧ fraction = []) ∨ cs ≠ [] then none
      else
        let e : Int := exponent.getD 0 - fraction.length
        let digits := Numeral.ofDigits (whole ++ fraction)
        if digits = 0 then return 0.0
        else if 0 ≤ e then return Float.ofScientific digits false e.toNat
        else return Float.ofScientific digits true (-e).toNat
  magnitude?.map fun x => if negative then -x else x

end BackboneLab
