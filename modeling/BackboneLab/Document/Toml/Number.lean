import BackboneLab.Decimal.Reading
import BackboneLab.Document.Datum
import BackboneLab.Document.Toml.Lexeme
import BackboneLab.Text.Split

/-!
# Numbers and dates of TOML

A value that starts like a word is a number or a date. Integers fit into 64 bits with a sign, and may
have a base; underscores may stand between digits. Dates are recognised, but not checked, since no
value is read from one.
-/

namespace BackboneLab.Toml

/-- The value of a digit of the given base. -/
def digit? (base : Nat) (c : Char) : Option Nat :=
  match Text.hexValue? c with
  | some n => if n < base then some n else none
  | none => none

/-- The digits at the front of a text, which may have single underscores between them, and what
follows them. -/
def readDigitRun (base : Nat) (leadingZeros : Bool) (cs : List Char) :
    Option (List Nat × List Char) :=
  let (run, rest) := cs.span fun c => c = '_' || (digit? base c).isSome
  let parts := Text.splitOn '_' run
  let digits := run.filterMap (digit? base)
  if parts.any List.isEmpty then none
  else if !leadingZeros && digits.head? = some 0 && 1 < digits.length then none
  else some (digits, rest)

/-- The number that digits of a base stand for. -/
def ofDigits (base : Nat) (ds : List Nat) : Nat := ds.foldl (fun n d => base * n + d) 0

/-- Whether a word starts with a minus sign, and the rest of it. -/
def readMinus : List Char → Bool × List Char
  | '-' :: cs => (true, cs)
  | cs => (false, cs)

/-- An integer of 64 bits with a sign. -/
def integer? (negative : Bool) (n : Nat) : Option Datum :=
  let i : Int := if negative then -(n : Int) else n
  if Int64.minValue.toInt ≤ i ∧ i ≤ Int64.maxValue.toInt then some (.number (.ofInt i)) else none

/-- The integer that a word stands for, in the given base. Only decimal integers have a sign. -/
def readInteger (base : Nat) (word : List Char) : Option Datum := do
  let (negative, digits) := if base = 10 then readMinus word else (false, word)
  let (ds, rest) ← readDigitRun base (base ≠ 10) digits
  if rest = [] then integer? negative (ofDigits base ds) else none

/-- The decimal digits of a number with a point or an exponent. -/
def toDigits (ds : List Nat) : List Digit := ds.map fun d => ⟨d % 10, Nat.mod_lt d (by decide)⟩

/-- The exponent of a number: what stands behind the letter in its word, and behind the word. A plus
sign is not part of a word, so that the digits behind it make up a word of their own. -/
def readExponent (word rest : List Char) : Option (Option Int × List Char) := do
  match word with
  | [] => return (none, rest)
  | c :: word =>
    if c ≠ 'e' ∧ c ≠ 'E' then none
    else
      let (negative, digits, rest) ←
        match word, rest with
        | [], '+' :: cs => let (w, rest) := readWord cs; pure (false, w, rest)
        | [], _ => none
        | w, rest => let (negative, w) := readMinus w; pure (negative, w, rest)
      let (ds, after) ← readDigitRun 10 true digits
      let n : Int := ofDigits 10 ds
      if after = [] then return (some (if negative then -n else n), rest) else none

/-- A finite number with a point or an exponent, from the word before the point and what follows it. -/
def readFloat (word rest : List Char) (hasPoint : Bool) : Option (Datum × List Char) := do
  let (negative, digits) := readMinus word
  let (whole, suffix) ← readDigitRun 10 false digits
  let (fraction, suffix, rest) ←
    if hasPoint then
      let (after, rest) := readWord rest
      let (fraction, afterFraction) ← readDigitRun 10 true after
      if suffix = [] then pure (fraction, afterFraction, rest) else none
    else pure ([], suffix, rest)
  let (exponent, rest) ← readExponent suffix rest
  let n : Numeral := ⟨negative, ofDigits 10 whole, toDigits fraction, exponent⟩
  let x ← n.toFloat?
  if x.isFinite then return (.number n, rest) else none

/-- The number that starts with the given word, and what follows it. -/
def readNumber (word rest : List Char) : Option (Datum × List Char) :=
  match word with
  | '0' :: 'x' :: w => (readInteger 16 w).map (·, rest)
  | '0' :: 'o' :: w => (readInteger 8 w).map (·, rest)
  | '0' :: 'b' :: w => (readInteger 2 w).map (·, rest)
  | _ =>
    if word.contains 'e' || word.contains 'E' then readFloat word rest false
    else
      match rest with
      | '.' :: rest => readFloat word rest true
      | rest =>
        let name := String.ofList (readMinus word).2
        if name = "inf" ∨ name = "nan" then some (.nonFinite, rest)
        else (readInteger 10 word).map (·, rest)

/-- Whether one character stands right before another one somewhere in a text. -/
def containsPair (a b : Char) (cs : List Char) : Bool := (cs.zip (cs.drop 1)).contains (a, b)

/-- Whether a word is that of a date: it has the letter between date and time, or a hyphen that is
neither a sign nor part of an exponent. -/
def isDateWord (word : List Char) : Bool :=
  word.contains 'T' || word.contains 't' ||
    ((word.drop 1).contains '-' && !containsPair 'e' '-' word && !containsPair 'E' '-' word)

/-- The word at the front, which must not be empty, is left out. -/
def skipWord? (cs : List Char) : Option (List Char) :=
  match readWord cs with
  | ([], _) => none
  | (_, rest) => some rest

/-- A part of a date that may be left out: a mark and a word. -/
def skipPart? (mark : Char) (cs : List Char) : Option (List Char) :=
  match cs with
  | c :: rest => if c = mark then skipWord? rest else some cs
  | [] => some cs

/-- What follows the hour of a date or a time: minutes and seconds, and perhaps a fraction and an
offset. -/
def skipTime? (cs : List Char) : Option (List Char) := do
  let cs ← skipWord? cs
  match cs with
  | ':' :: cs =>
    let cs ← skipWord? cs
    let cs ← skipPart? '.' cs
    let cs ← skipPart? '+' cs
    skipPart? ':' cs
  | _ => none

/-- A time of day may follow a date after one blank. -/
def skipDayTime (cs : List Char) : List Char :=
  match cs with
  | ' ' :: cs' => (skipWord? cs').getD cs
  | _ => cs

/-- What follows a date or a time whose first word and, if there is one, whose first colon are read
already. -/
def skipDate? (colonRead : Bool) (cs : List Char) : Option (List Char) :=
  match colonRead, skipDayTime cs with
  | true, cs => skipTime? cs
  | false, ':' :: cs => skipTime? cs
  | false, cs => some cs

/-- The number or the date that starts with the given word, and what follows it. -/
def readNumberOrDate (word rest : List Char) : Option (Datum × List Char) :=
  if isDateWord word then (skipDate? false rest).map (.moment, ·)
  else
    match rest with
    | ':' :: rest => (skipDate? true rest).map (.moment, ·)
    | rest => readNumber word rest

/-- The value that a word without quotes starts: a truth value, a number or a date. -/
def readWordValue (word rest : List Char) : Option (Datum × List Char) :=
  match String.ofList word with
  | "true" => some (.bool true, rest)
  | "false" => some (.bool false, rest)
  | "inf" | "nan" => readNumberOrDate word rest
  | _ =>
    match word with
    | c :: _ => if c = '-' || c.isDigit then readNumberOrDate word rest else none
    | [] => none

end BackboneLab.Toml
