import BackboneLab.Document.Datum
import BackboneLab.Text.Hex
import BackboneLab.Text.Split

/-!
# Writing JSON

A tree is written either compactly, without any blank, or indented by two blanks a level with a line
for every item. Texts escape quotes, backslashes and control characters only.
-/

namespace BackboneLab.Json

/-- A character as it stands between quotes. -/
def escape (c : Char) : List Char :=
  if c = '"' then ['\\', '"']
  else if c = '\\' then ['\\', '\\']
  else if c = '\x08' then ['\\', 'b']
  else if c = '\t' then ['\\', 't']
  else if c = '\n' then ['\\', 'n']
  else if c = '\x0c' then ['\\', 'f']
  else if c = '\r' then ['\\', 'r']
  else if c.toNat < 0x20 then ['\\', 'u'] ++ Text.hexText .lower 4 c.toNat
  else [c]

/-- A text between quotes. -/
def quoted (cs : List Char) : List Char := '"' :: cs.flatMap escape ++ ['"']

/-- A literal between quotes. One that holds half of a character is shown with the replacement
character; no value is written as such a literal. -/
def literal : Literal → List Char
  | .plain s => quoted s.toList
  | .unpaired => quoted ['\uFFFD']

/-- A truth value. -/
def boolText : Bool → List Char
  | true => "true".toList
  | false => "false".toList

/-- The word for a missing value. -/
def nullText : List Char := "null".toList

mutual

/-- A tree without any blank. -/
def compact : Datum → List Char
  | .null | .nonFinite | .moment => nullText
  | .bool b => boolText b
  | .number n => n.text
  | .text l => literal l
  | .list [] => "[]".toList
  | .list (x :: xs) => '[' :: compact x ++ compactItems xs ++ [']']
  | .record _ [] => "\x7b\x7d".toList
  | .record _ ((k, x) :: ms) =>
    '{' :: literal k ++ ':' :: compact x ++ compactMembers ms ++ ['}']

/-- The further items of a list, each after a comma. -/
def compactItems : List Datum → List Char
  | [] => []
  | x :: xs => ',' :: compact x ++ compactItems xs

/-- The further members of a record, each after a comma. -/
def compactMembers : List (Literal × Datum) → List Char
  | [] => []
  | (k, x) :: ms => ',' :: literal k ++ ':' :: compact x ++ compactMembers ms

end

/-- The start of a line at a level of nesting. -/
def newLine (level : Nat) : List Char := '\n' :: List.replicate (2 * level) ' '

mutual

/-- A tree with a line for every item, at a level of nesting. -/
def indented (level : Nat) : Datum → List Char
  | .null | .nonFinite | .moment => nullText
  | .bool b => boolText b
  | .number n => n.text
  | .text l => literal l
  | .list [] => "[]".toList
  | .list (x :: xs) =>
    '[' :: newLine (level + 1) ++ indented (level + 1) x ++ indentedItems level xs ++ newLine level ++
      [']']
  | .record _ [] => "\x7b\x7d".toList
  | .record _ ((k, x) :: ms) =>
    '{' :: newLine (level + 1) ++ literal k ++ ": ".toList ++ indented (level + 1) x ++
      indentedMembers level ms ++ newLine level ++ ['}']

/-- The further items of a list at a level, each on its line. -/
def indentedItems (level : Nat) : List Datum → List Char
  | [] => []
  | x :: xs => ',' :: newLine (level + 1) ++ indented (level + 1) x ++ indentedItems level xs

/-- The further members of a record at a level, each on its line. -/
def indentedMembers (level : Nat) : List (Literal × Datum) → List Char
  | [] => []
  | (k, x) :: ms =>
    ',' :: newLine (level + 1) ++ literal k ++ ": ".toList ++ indented (level + 1) x ++
      indentedMembers level ms

end

/-- A tree with a line for every item. -/
def pretty (d : Datum) : List Char := indented 0 d

end BackboneLab.Json
