/-!
# Base64

Bytes as text: every three bytes become four characters of six bits each, and a last group of one or
two bytes is filled with equals signs.
-/

namespace BackboneLab.Text

/-- The characters for the numbers below 64, in order. -/
def base64Alphabet : List Char :=
  "ABCDEFGHIJKLMNOPQRSTUVWXYZabcdefghijklmnopqrstuvwxyz0123456789+/".toList

/-- The character for the lowest six bits of a number. -/
def base64Digit (n : Nat) : Char := base64Alphabet.getD (n % 64) 'A'

/-- The text of a list of bytes. -/
def base64 : List UInt8 → List Char
  | [] => []
  | [a] =>
    let n := a.toNat * 65536
    [base64Digit (n / 262144), base64Digit (n / 4096), '=', '=']
  | [a, b] =>
    let n := a.toNat * 65536 + b.toNat * 256
    [base64Digit (n / 262144), base64Digit (n / 4096), base64Digit (n / 64), '=']
  | a :: b :: c :: rest =>
    let n := a.toNat * 65536 + b.toNat * 256 + c.toNat
    base64Digit (n / 262144) :: base64Digit (n / 4096) :: base64Digit (n / 64) :: base64Digit n ::
      base64 rest

example : base64 [111, 110, 111, 115, 58] = "b25vczo=".toList := by decide

end BackboneLab.Text
