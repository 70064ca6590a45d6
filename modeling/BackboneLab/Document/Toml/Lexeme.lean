import BackboneLab.Text.Hex

/-!
# Words, texts and blank lines of TOML

The smallest parts of a TOML document. Texts stand between single quotes, where nothing is escaped, or
between double quotes; three quotes enclose a text of several lines. Line ends are line feeds: a
carriage return before a line feed is left out beforehand (`foldReturns`).
-/

namespace BackboneLab.Toml

/-- Leaves out every carriage return that stands before a line feed. -/
def foldReturns : List Char → List Char
  | '\r' :: '\n' :: cs => '\n' :: foldReturns cs
  | c :: cs => c :: foldReturns cs
  | [] => []

/-- Whether a character is a blank within a line. -/
def isBlank (c : Char) : Bool := c = ' ' || c = '\t'

/-- Leaves out the blanks at the front. -/
def skipBlanks (cs : List Char) : List Char := cs.dropWhile isBlank

/-- Whether a character may stand in a comment. -/
def isCommentChar (c : Char) : Bool := c = '\t' || 0x20 ≤ c.toNat

/-- Leaves out blanks, comments and line ends. A comment has to end with its line. -/
def skipLines (inComment : Bool) : List Char → Option (List Char)
  | [] => some []
  | c :: cs =>
    if inComment then
      if c = '\n' then skipLines false cs
      else if isCommentChar c then skipLines true cs
      else none
    else if isBlank c || c = '\n' then skipLines false cs
    else if c = '#' then skipLines true cs
    else some (c :: cs)

/-- Ends a line, with blanks and a comment before its end. -/
def endLine? (cs : List Char) : Option (List Char) :=
  let rest :=
    match skipBlanks cs with
    | '#' :: cs => cs.dropWhile isCommentChar
    | cs => cs
  match rest with
  | [] => some []
  | '\n' :: cs => some cs
  | _ => none

/-- Whether a character may stand in a word without quotes. -/
def isWordChar (c : Char) : Bool := c.isAlphanum || c = '-' || c = '_'

/-- The word at the front, and what follows it. The word may be empty. -/
def readWord (cs : List Char) : List Char × List Char := cs.span isWordChar

/-- Whether a character may stand between quotes as itself. -/
def isTextChar (c : Char) : Bool := c = '\t' || (0x20 ≤ c.toNat && c.toNat ≠ 0x7f)

/-- The character with the code point of the given hexadecimal digits. -/
def codePoint? (digits : List Char) : Option Char := do
  let n ← Text.readHex? digits
  if n.isValidChar then some (Char.ofNat n) else none

/-- The character that an escape letter stands for. -/
def escaped? (c : Char) : Option Char :=
  if c = '"' then some '"'
  else if c = '\\' then some '\\'
  else if c = 'b' then some '\x08'
  else if c = 'f' then some '\x0c'
  else if c = 'n' then some '\n'
  else if c = 'r' then some '\r'
  else if c = 't' then some '\t'
  else none

/-- An escape behind its backslash: the character, and what follows it. -/
def readEscape : List Char → Option (Char × List Char)
  | 'u' :: a :: b :: c :: d :: cs => (codePoint? [a, b, c, d]).map (·, cs)
  | 'U' :: a :: b :: c :: d :: e :: f :: g :: h :: cs =>
    (codePoint? [a, b, c, d, e, f, g, h]).map (·, cs)
  | c :: cs => (escaped? c).map (·, cs)
  | [] => none

/-- What follows a backslash at the end of a line, up to the next character that is neither blank nor
a line end. -/
def continueLine? (cs : List Char) : Option (List Char) :=
  match skipBlanks cs with
  | '\n' :: cs => some (cs.dropWhile fun c => isBlank c || c = '\n')
  | _ => none

/-- Puts a character in front of a text that is read from the rest. -/
def prepend (c : Char) (r : Option (List Char × List Char)) : Option (List Char × List Char) :=
  r.map fun p => (c :: p.1, p.2)

/-- A text up to its closing quote, on one line. Whether escapes are known depends on the quote. -/
def readLineText (quote : Char) : Nat → List Char → Option (List Char × List Char)
  | 0, _ | _, [] => none
  | fuel + 1, c :: cs =>
    if c = quote then some ([], cs)
    else if c = '\\' && quote = '"' then do
      let (e, cs) ← readEscape cs
      prepend e (readLineText quote fuel cs)
    else if isTextChar c then prepend c (readLineText quote fuel cs)
    else none

/-- The end of a text of several lines behind its three closing quotes: up to two more quotes belong
to the text. -/
def closeBlock (quote : Char) (cs : List Char) : List Char × List Char :=
  let extra := (cs.take 2).takeWhile (· = quote)
  (extra, cs.drop extra.length)

/-- A text up to its three closing quotes. -/
def readBlockText (quote : Char) : Nat → List Char → Option (List Char × List Char)
  | 0, _ | _, [] => none
  | fuel + 1, c :: cs =>
    if c = quote && cs.take 2 = [quote, quote] then some (closeBlock quote (cs.drop 2))
    else if c = '\\' && quote = '"' then
      match continueLine? cs with
      | some cs => readBlockText quote fuel cs
      | none => do
        let (e, cs) ← readEscape cs
        prepend e (readBlockText quote fuel cs)
    else if isTextChar c || c = '\n' then prepend c (readBlockText quote fuel cs)
    else none

/-- A text in quotes: whether it may have several lines, its characters, and what follows it. -/
structure QuotedText where
  isBlock : Bool
  chars : List Char
  rest : List Char

/-- The text in quotes at the front. A line end right behind three opening quotes is left out. -/
def readQuoted (quote : Char) (cs : List Char) : Option QuotedText :=
  match cs with
  | q :: cs =>
    if q ≠ quote then none
    else if cs.take 2 = [quote, quote] then
      let body := match cs.drop 2 with
        | '\n' :: cs => cs
        | cs => cs
      (readBlockText quote body.length body).map fun p => ⟨true, p.1, p.2⟩
    else (readLineText quote cs.length cs).map fun p => ⟨false, p.1, p.2⟩
  | [] => none

/-- The text in quotes of either kind at the front. -/
def readText? (cs : List Char) : Option QuotedText :=
  (readQuoted '"' cs).orElse fun _ => readQuoted '\'' cs

/-- A part of a key: a word, or a text in quotes on one line. -/
def readKeyPart (cs : List Char) : Option (String × List Char) :=
  match readWord cs with
  | ([], _) =>
    match readText? cs with
    | some ⟨false, t, rest⟩ => some (String.ofList t, rest)
    | _ => none
  | (word, rest) => some (String.ofList word, rest)

/-- The parts of a key with points between them. Blanks may stand around the points and behind the
key. -/
def readKey : Nat → List Char → Option (List String × List Char)
  | 0, _ => none
  | fuel + 1, cs => do
    let (k, cs) ← readKeyPart cs
    match skipBlanks cs with
    | '.' :: cs =>
      let (ks, cs) ← readKey fuel (skipBlanks cs)
      return (k :: ks, cs)
    | cs => return ([k], cs)

end BackboneLab.Toml
