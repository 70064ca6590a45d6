import BackboneLab.Document.Datum
import BackboneLab.Text.Hex

/-!
# Reading JSON

The grammar of JSON without any extension: blanks are the four ASCII ones, numbers have no leading
zeros, texts hold no control characters, and nothing may follow the value. An escape for half of a
surrogate pair is read, but makes its text unreadable as a value. The main function is `Json.read?`.
-/

namespace BackboneLab.Json

/-- Whether a character may stand between the parts of a document. -/
def isBlank (c : Char) : Bool := c = ' ' || c = '\n' || c = '\t' || c = '\r'

/-- Leaves out the blanks at the front. -/
def skipBlanks (cs : List Char) : List Char := cs.dropWhile isBlank

/-- What a character or an escape between quotes stands for: a character, or a unit of 16 bits. -/
inductive Piece
  | char (c : Char)
  | unit (n : Nat)

/-- The character that an escape letter stands for. -/
def escaped? (c : Char) : Option Char :=
  if c = '"' then some '"'
  else if c = '\\' then some '\\'
  else if c = '/' then some '/'
  else if c = 'b' then some '\x08'
  else if c = 'f' then some '\x0c'
  else if c = 'n' then some '\n'
  else if c = 'r' then some '\r'
  else if c = 't' then some '\t'
  else none

/-- The pieces up to the closing quote, and what follows the quote. -/
def readPieces : List Char → Option (List Piece × List Char)
  | [] => none
  | '"' :: cs => some ([], cs)
  | '\\' :: 'u' :: a :: b :: c :: d :: cs => do
    let n ← Text.readHex? [a, b, c, d]
    let (ps, rest) ← readPieces cs
    return (.unit n :: ps, rest)
  | '\\' :: c :: cs => do
    let e ← escaped? c
    let (ps, rest) ← readPieces cs
    return (.char e :: ps, rest)
  | c :: cs =>
    if c.toNat < 0x20 then none
    else do
      let (ps, rest) ← readPieces cs
      return (.char c :: ps, rest)

/-- Whether a unit is the first half of a surrogate pair. -/
def isLeading (n : Nat) : Bool := 0xd800 ≤ n && n < 0xdc00

/-- Whether a unit is the second half of a surrogate pair. -/
def isTrailing (n : Nat) : Bool := 0xdc00 ≤ n && n < 0xe000

/-- The text that pieces make up. Two units make up a character only if they are the two halves of a
surrogate pair; half a pair alone has no text. -/
def joinPieces : List Piece → Option (List Char)
  | [] => some []
  | .char c :: ps => (joinPieces ps).map (c :: ·)
  | .unit m :: .unit n :: ps =>
    if isLeading m && isTrailing n then
      (joinPieces ps).map (Char.ofNat (0x10000 + (m - 0xd800) * 0x400 + (n - 0xdc00)) :: ·)
    else if isLeading m || isTrailing m then none
    else (joinPieces (.unit n :: ps)).map (Char.ofNat m :: ·)
  | .unit m :: ps =>
    if isLeading m || isTrailing m then none else (joinPieces ps).map (Char.ofNat m :: ·)

/-- A text behind its opening quote, and what follows it. -/
def readLiteral (cs : List Char) : Option (Literal × List Char) := do
  let (ps, rest) ← readPieces cs
  match joinPieces ps with
  | some t => return (.plain (String.ofList t), rest)
  | none => return (.unpaired, rest)

mutual

/-- A value and what follows it. -/
def readValue : Nat → List Char → Option (Datum × List Char)
  | 0, _ => none
  | fuel + 1, cs =>
    match skipBlanks cs with
    | 'n' :: 'u' :: 'l' :: 'l' :: cs => some (.null, cs)
    | 't' :: 'r' :: 'u' :: 'e' :: cs => some (.bool true, cs)
    | 'f' :: 'a' :: 'l' :: 's' :: 'e' :: cs => some (.bool false, cs)
    | '"' :: cs => do
      let (l, cs) ← readLiteral cs
      return (.text l, cs)
    | '[' :: cs =>
      match skipBlanks cs with
      | ']' :: cs => some (.list [], cs)
      | cs => do
        let (xs, cs) ← readItems fuel cs
        return (.list xs, cs)
    | '{' :: cs =>
      match skipBlanks cs with
      | '}' :: cs => some (.record .object [], cs)
      | cs => do
        let (ms, cs) ← readMembers fuel cs
        return (.record .object ms, cs)
    | cs => do
      let (n, cs) ← Numeral.read cs
      return (.number n, cs)

/-- At least one item, up to the closing bracket. -/
def readItems : Nat → List Char → Option (List Datum × List Char)
  | 0, _ => none
  | fuel + 1, cs => do
    let (x, cs) ← readValue fuel cs
    match skipBlanks cs with
    | ',' :: cs =>
      let (xs, cs) ← readItems fuel cs
      return (x :: xs, cs)
    | ']' :: cs => return ([x], cs)
    | _ => none

/-- At least one member, up to the closing brace. -/
def readMembers : Nat → List Char → Option (List (Literal × Datum) × List Char)
  | 0, _ => none
  | fuel + 1, cs =>
    match skipBlanks cs with
    | '"' :: cs => do
      let (k, cs) ← readLiteral cs
      match skipBlanks cs with
      | ':' :: cs =>
        let (x, cs) ← readValue fuel cs
        match skipBlanks cs with
        | ',' :: cs =>
          let (ms, cs) ← readMembers fuel cs
          return ((k, x) :: ms, cs)
        | '}' :: cs => return ([(k, x)], cs)
        | _ => none
      | _ => none
    | _ => none

end

/-- The tree of a document. The number of steps is bounded by twice the length of the text, since
every second step takes a character. -/
def read? (cs : List Char) : Option Datum := do
  let (d, rest) ← readValue (2 * cs.length + 2) cs
  if skipBlanks rest = [] then some d else none

end BackboneLab.Json
