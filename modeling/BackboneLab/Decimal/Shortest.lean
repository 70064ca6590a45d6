import BackboneLab.Decimal.Natural

/-!
# Shortest decimals

The decimal with the fewest digits that reads back as a given double, and of those the one nearest to
its value. A finite double is `m * 2 ^ q`; the reals that round to it form an interval around it, ends
included exactly if `m` is even. For one digit, two digits and so on, the two neighbours of the value
on the grid with that many digits are tested, in exact arithmetic.
-/

namespace BackboneLab

/-- A positive decimal, `digits * 10 ^ exponent`. -/
structure Decimal where
  digits : Nat
  exponent : Int
deriving DecidableEq, Inhabited

/-- A finite double without its sign, `mantissa * 2 ^ exponent`, and whether the gap below it is half
the gap above it. -/
structure Binary where
  mantissa : Nat
  exponent : Int
  narrowBelow : Bool
deriving DecidableEq, Inhabited

namespace Binary

/-- The parts of a finite double, from its 64 bits. -/
def ofBits (bits : Nat) : Binary :=
  let field : Nat := bits / twoTo 52 % twoTo 11
  let low : Nat := bits % twoTo 52
  if field = 0 then ⟨low, -1074, false⟩
  else ⟨low + twoTo 52, (field : Int) - 1075, low = 0 && 1 < field⟩

/-- A fraction of natural numbers, with a positive denominator in all uses. -/
structure Ratio where
  num : Nat
  den : Nat

/-- `x * 2 ^ e` as a fraction. -/
def scaleTwo (x : Nat) (e : Int) : Ratio :=
  if 0 ≤ e then ⟨x * twoTo e.toNat, 1⟩ else ⟨x, twoTo (-e).toNat⟩

/-- `x * 10 ^ e` as a fraction. -/
def scaleTen (x : Nat) (e : Int) : Ratio :=
  if 0 ≤ e then ⟨x * tenTo e.toNat, 1⟩ else ⟨x, tenTo (-e).toNat⟩

/-- Whether one fraction is at most another. -/
def Ratio.le (a b : Ratio) : Bool := a.num * b.den ≤ b.num * a.den

/-- Whether one fraction is less than another. -/
def Ratio.lt (a b : Ratio) : Bool := a.num * b.den < b.num * a.den

/-- The value of a double, and the two ends of the interval of reals that round to it. The mantissa
is taken four times, so that the ends are integers too. -/
def value (b : Binary) : Ratio := scaleTwo (4 * b.mantissa) (b.exponent - 2)

/-- The lower end of the interval of reals that round to a double. -/
def lower (b : Binary) : Ratio :=
  scaleTwo (4 * b.mantissa - if b.narrowBelow then 1 else 2) (b.exponent - 2)

/-- The upper end of the interval of reals that round to a double. -/
def upper (b : Binary) : Ratio := scaleTwo (4 * b.mantissa + 2) (b.exponent - 2)

/-- Whether a decimal reads back as the double. -/
def reads (b : Binary) (d : Decimal) : Bool :=
  let x := scaleTen d.digits d.exponent
  if b.mantissa % 2 = 0 then b.lower.le x && x.le b.upper else b.lower.lt x && x.lt b.upper

/-- The exponent of the first decimal digit of a positive fraction. -/
def magnitude (r : Ratio) : Int :=
  let e : Int := (Nat.toDigits 10 r.num).length - (Nat.toDigits 10 r.den).length
  if (scaleTen 1 e).le r then e else e - 1

/-- The decimal on the grid of step `10 ^ k` just below a fraction. -/
def floorAt (r : Ratio) (k : Int) : Nat :=
  if 0 ≤ k then r.num / (r.den * tenTo k.toNat) else r.num * tenTo (-k).toNat / r.den

/-- Whether the fraction is nearer to the grid point above it than to the one below, `c`. On a tie
the even one counts as nearer. -/
def nearerAbove (r : Ratio) (c : Nat) (k : Int) : Bool :=
  let middle := scaleTen (2 * c + 1) k
  let twice : Ratio := ⟨2 * r.num, r.den⟩
  middle.lt twice || (middle.le twice && c % 2 = 1)

/-- The decimal with the given number of digits that reads back, if there is one: the nearer of the
value's two neighbours on that grid if both do. -/
def withDigits? (b : Binary) (n : Nat) : Option Decimal :=
  let k := magnitude b.value - (n : Int) + 1
  let c := floorAt b.value k
  let below : Decimal := ⟨c, k⟩
  let above : Decimal := ⟨c + 1, k⟩
  match b.reads below, b.reads above with
  | true, true => some (if nearerAbove b.value c k then above else below)
  | true, false => some below
  | false, true => some above
  | false, false => none

/-- The shortest decimal that reads back as a positive double. Seventeen digits always suffice. -/
def shortest (b : Binary) : Decimal :=
  ((List.range 17).findSome? fun n => b.withDigits? (n + 1)).getD ⟨b.mantissa, b.exponent⟩

end Binary

namespace Decimal

/-- Moves the zeros at the end of the digits into the exponent, at most so many of them. -/
def dropZeros : Nat → Decimal → Decimal
  | 0, d => d
  | n + 1, d =>
    if d.digits ≠ 0 ∧ d.digits % 10 = 0 then dropZeros n ⟨d.digits / 10, d.exponent + 1⟩ else d

/-- The shortest decimal of the absolute value of a finite double; zero has the digit zero. -/
def ofFloat (x : Float) : Decimal :=
  let b := Binary.ofBits x.toBits.toNat
  if b.mantissa = 0 then ⟨0, 0⟩ else dropZeros 17 b.shortest

end Decimal

end BackboneLab
