import BackboneLab.Decimal.Numeral

/-!
# Documents as trees

One tree stands for the documents of every format that is read or written here. Two things that only
some formats know are kept, because they decide what may be read from a tree: texts that hold half of a
character, and the way in which a record was written down.
-/

namespace BackboneLab

/-- A text of a document. -/
inductive Literal
  /-- A text of whole characters. -/
  | plain (text : String)
  /-- A text in which an escape stands for half of a surrogate pair. No value can be read from it. -/
  | unpaired
deriving DecidableEq, Inhabited

/-- How the members of a record were written down. -/
inductive RecordStyle
  /-- In braces, where any value may stand. -/
  | object
  /-- In braces on one line of a document of sections. -/
  | inlined
  /-- By headers of sections or by keys with dots. -/
  | spread
deriving DecidableEq, Inhabited

/-- A document, or a part of one. -/
inductive Datum
  | null
  | bool (value : Bool)
  | number (numeral : Numeral)
  /-- An infinity or the undefined number, which have no numeral. -/
  | nonFinite
  | text (literal : Literal)
  /-- A date or a time of day. No field holds one; as a record it has no members. -/
  | moment
  | list (items : List Datum)
  | record (style : RecordStyle) (members : List (Literal × Datum))
deriving Inhabited

namespace Datum

/-- A text of whole characters. -/
def ofString (s : String) : Datum := .text (.plain s)

/-- A natural number. -/
def ofNat (n : Nat) : Datum := .number (.ofNat n)

/-- An object with the given members. -/
def object (members : List (String × Datum)) : Datum :=
  .record .object (members.map fun m => (.plain m.1, m.2))

end Datum

end BackboneLab
