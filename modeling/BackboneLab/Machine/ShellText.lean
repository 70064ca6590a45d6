/-!
# Shell texts

The part of the shell's language that scripts of a lab use: simple commands, one after the other or
depending on how the last one ended, with quotes, variables and redirected output. `ShellText.statements`
cuts a text into its statements.
-/

namespace BackboneLab.ShellText

/-- A part of a word. -/
inductive Piece
  | text (text : List Char)
  | variable (name : List Char)
deriving DecidableEq, Inhabited

/-- A word before its variables are replaced. -/
abbrev Word := List Piece

/-- When a statement is carried out. -/
inductive Condition
  | always
  | afterSuccess
  | afterFailure
deriving DecidableEq, Inhabited

/-- A part of a text that stands for itself. -/
inductive Token
  | word (word : Word)
  | next (condition : Condition)
  /-- The output goes into the file that follows, at its end or in the place of what is there. -/
  | into (atEnd : Bool)
deriving DecidableEq, Inhabited

/-- A command with the file that takes its output. -/
structure Statement where
  condition : Condition
  words : List Word
  output : Option (Bool × Word)
deriving DecidableEq, Inhabited

/-- Whether a character may stand in the name of a variable. -/
def isNameChar (c : Char) : Bool := c.isAlphanum || c == '_'

/-- The name of the variable behind a dollar sign, and how many characters stand for it. -/
def variableAt (cs : List Char) : List Char × Nat :=
  match cs with
  | [] => ([], 0)
  | '\x7b' :: rest =>
    let name := rest.takeWhile (· ≠ '\x7d')
    (name, name.length + 2)
  | c :: _ =>
    if c.isDigit ∨ c ∈ ['@', '*', '#', '?', '$'] then ([c], 1)
    else
      let name := cs.takeWhile isNameChar
      (name, name.length)

/-- How the characters of a text are to be read. -/
inductive Mode
  | plain
  | singleQuoted
  | doubleQuoted
  | escaped (back : Mode)
  | comment
deriving DecidableEq, Inhabited

/-- A reader in the middle of a text. -/
structure Reader where
  mode : Mode
  /-- How many of the next characters were read already. -/
  skip : Nat
  /-- The word that is being read, if there is one. -/
  word : Option Word
  tokens : List Token
deriving Inhabited

namespace Reader

/-- Adds a piece to the word that is being read. -/
def add (r : Reader) (p : Piece) : Reader := { r with word := some (r.word.getD [] ++ [p]) }

/-- Ends the word that is being read. -/
def close (r : Reader) : Reader :=
  match r.word with
  | some w => { r with word := none, tokens := r.tokens ++ [.word w] }
  | none => r

/-- Ends the word that is being read and adds a token. -/
def token (r : Reader) (t : Token) (skip : Nat) : Reader :=
  let r := r.close
  { r with tokens := r.tokens ++ [t], skip }

/-- Reads a dollar sign. -/
def dollar (r : Reader) (rest : List Char) : Reader :=
  match variableAt rest with
  | ([], _) => r.add (.text ['$'])
  | (name, n) => { r.add (.variable name) with skip := n }

/-- Reads a character outside of quotes. -/
def plain (r : Reader) (c : Char) (rest : List Char) : Reader :=
  match c, rest with
  | '\'', _ => { r.add (.text []) with mode := .singleQuoted }
  | '"', _ => { r.add (.text []) with mode := .doubleQuoted }
  | '\\', _ => { r with mode := .escaped .plain }
  | '$', _ => r.dollar rest
  | '#', _ => if r.word.isNone then { r with mode := .comment } else r.add (.text ['#'])
  | ' ', _ | '\t', _ => r.close
  | ';', _ | '\n', _ => r.token (.next .always) 0
  | '&', '&' :: _ => r.token (.next .afterSuccess) 1
  | '|', '|' :: _ => r.token (.next .afterFailure) 1
  | '>', '>' :: _ => r.token (.into true) 1
  | '>', _ => r.token (.into false) 0
  | _, _ => r.add (.text [c])

/-- Reads a character. -/
def step (r : Reader) (c : Char) (rest : List Char) : Reader :=
  match r.skip with
  | n + 1 => { r with skip := n }
  | 0 =>
    match r.mode with
    | .plain => r.plain c rest
    | .singleQuoted => if c = '\'' then { r with mode := .plain } else r.add (.text [c])
    | .doubleQuoted =>
      if c = '"' then { r with mode := .plain }
      else if c = '\\' then { r with mode := .escaped .doubleQuoted }
      else if c = '$' then r.dollar rest
      else r.add (.text [c])
    | .escaped back => { r.add (.text [c]) with mode := back }
    | .comment => if c = '\n' then { r.token (.next .always) 0 with mode := .plain } else r

/-- Reads a text to its end. -/
def run (r : Reader) : List Char → Reader
  | [] => r.close
  | c :: rest => (r.step c rest).run rest

end Reader

/-- The tokens of a text. -/
def tokens (cs : List Char) : List Token := ((default : Reader).run cs).tokens

/-- Adds tokens to a statement and lists the statements that they make up. -/
def group (s : Statement) : List Token → List Statement
  | [] => [s]
  | .next c :: ts => s :: group ⟨c, [], none⟩ ts
  | .into atEnd :: .word w :: ts => group { s with output := some (atEnd, w) } ts
  | .into _ :: ts => group s ts
  | .word w :: ts => group { s with words := s.words ++ [w] } ts

/-- The statements of a text. -/
def statements (text : String) : List Statement :=
  (group ⟨.always, [], none⟩ (tokens text.toList)).filter fun s => s.words ≠ [] || s.output.isSome

end BackboneLab.ShellText
