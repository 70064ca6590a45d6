import BackboneLab.Decimal.Numeral
import BackboneLab.Decimal.Shortest

/-!
# Layouts of doubles

The two layouts in which doubles are written. Command lines show them in plain positional notation,
without a point if there is nothing behind it. JSON documents always show a point or an exponent, and
change to an exponent outside a range of magnitudes.
-/

namespace BackboneLab

/-- The decisions of a layout: for which exponents of the first digit it is positional, and whether a
whole number is written with a zero behind the point. -/
structure FloatLayout where
  /-- Whether a number whose first digit has this exponent is written without an exponent. -/
  positional : Int → Bool
  /-- Whether a whole number in positional notation ends in `.0`. -/
  keepsPoint : Bool

namespace FloatLayout

/-- Always positional, as in `13`, `2.5` and `0.0000001`. -/
def plain : FloatLayout := ⟨fun _ => true, false⟩

/-- Positional for exponents from -5 to 15, as in `1.0`, `0.00001`, `1e-6` and `1.5e+20`. -/
def json : FloatLayout := ⟨fun e => -5 ≤ e && e ≤ 15, true⟩

/-- The numeral of a decimal in positional notation. -/
def positionalNumeral (l : FloatLayout) (negative : Bool) (d : Decimal) : Numeral :=
  if 0 ≤ d.exponent then
    ⟨negative, d.digits * tenTo d.exponent.toNat, if l.keepsPoint then [Digit.zero] else [], none⟩
  else
    let places := (-d.exponent).toNat
    let low := digitsOf (d.digits % tenTo places)
    ⟨negative, d.digits / tenTo places, List.replicate (places - low.length) Digit.zero ++ low, none⟩

/-- The numeral of a decimal with one digit before the point and an exponent. -/
def scientificNumeral (negative : Bool) (d : Decimal) : Numeral :=
  match digitsOf d.digits with
  | [] => ⟨negative, 0, [], none⟩
  | first :: rest => ⟨negative, first.val, rest, some (d.exponent + rest.length)⟩

/-- The numeral of a finite double. -/
def numeral (l : FloatLayout) (x : Float) : Numeral :=
  let d := Decimal.ofFloat x
  let negative := decide (twoTo 63 ≤ x.toBits.toNat)
  if l.positional (d.exponent + (digitsOf d.digits).length - 1) then l.positionalNumeral negative d
  else scientificNumeral negative d

end FloatLayout

/-- A double as it is shown in command lines and reports, never with an exponent. -/
def floatText (x : Float) : List Char :=
  if x.isNaN then "NaN".toList
  else if x.isInf then (if x < 0 then "-inf" else "inf").toList
  else (FloatLayout.plain.numeral x).text

end BackboneLab
