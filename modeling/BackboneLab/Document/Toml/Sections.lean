import BackboneLab.Document.Toml.Value

/-!
# Sections of TOML

A document is a list of sections, each with a header that names a table, or an item of a list of
tables. `Toml.read?` puts the sections together to one tree: the sections with the same first part of
their headers describe one member, and the parts behind it are the headers within this member.
-/

namespace BackboneLab.Toml

/-- A section with the members that stand in it. -/
structure Section where
  /-- The parts of the header, relative to the table that the section is looked at from. -/
  header : List String
  /-- Whether the header adds an item to a list. -/
  isItem : Bool
  members : Members

namespace Section

/-- Whether the section starts an item of the list that it is looked at from. -/
def startsItem (s : Section) : Bool := s.header.isEmpty && s.isItem

/-- The section looked at from the member that the first part of its header names. -/
def below (s : Section) : Section := { s with header := s.header.drop 1 }

/-- Cuts sections in front of every one that starts an item: those before the first item, and the
items, of which the starting section is now an ordinary one. -/
def splitItems : List Section → List Section × List (List Section)
  | [] => ([], [])
  | s :: ss =>
    let (before, its) := splitItems ss
    if s.startsItem then ([], ({ s with isItem := false } :: before) :: its) else (s :: before, its)

/-- The first parts of the headers, in the order of their first occurrence. -/
def firstParts (ss : List Section) : List String := (ss.filterMap (·.header.head?)).eraseDups

/-- The tree of the sections of one member, given how those of a table are put together: a list of
tables if the first section starts an item. -/
def memberTree (table : List Section → Option Members) (ss : List Section) : Option Datum :=
  match ss with
  | [] => none
  | s :: _ =>
    if s.startsItem then do
      return .list (← (splitItems ss).2.mapM fun item => do return .record .spread (← table item))
    else do
      return .record .spread (← table ss)

/-- The members that sections describe together. The table itself may have one section, which is not
an item of a list. -/
def table : Nat → List Section → Option Members
  | 0, _ => none
  | depth + 1, ss => do
    let own := ss.filter (·.header.isEmpty)
    if 1 < own.length || own.any (·.isItem) then none
    else
      let inner ← (firstParts ss).mapM fun k => do
        let ofMember := (ss.filter (·.header.head? = some k)).map below
        return (.plain k, ← memberTree (table depth) ofMember)
      return own.flatMap (·.members) ++ inner

end Section

/-- A header behind its first bracket: the section that it starts, and the rest behind its line. -/
def readHeader (cs : List Char) : Option (Section × List Char) := do
  let (isItem, cs) := match cs with
    | '[' :: cs => (true, cs)
    | cs => (false, cs)
  let (header, cs) ← readKey (cs.length + 1) (skipBlanks cs)
  match isItem, cs with
  | false, ']' :: cs | true, ']' :: ']' :: cs => return (⟨header, isItem, []⟩, ← endLine? cs)
  | _, _ => none

/-- The line of a member: its key, its value, and the rest behind the line. -/
def readMember (cs : List Char) : Option (List String × Datum × List Char) := do
  let (ks, cs) ← readKey (cs.length + 1) cs
  match cs with
  | '=' :: cs =>
    let (x, cs) ← readValue (2 * cs.length + 2) (skipBlanks cs)
    return (ks, x, ← endLine? cs)
  | _ => none

/-- The sections of a document, of which the given one is the current one. -/
def readSections : Nat → Section → List Char → Option (List Section)
  | 0, _, _ => none
  | fuel + 1, s, cs => do
    match ← skipLines false cs with
    | [] => return [s]
    | '[' :: cs =>
      let (s', cs) ← readHeader cs
      return s :: (← readSections fuel s' cs)
    | cs =>
      let (ks, x, cs) ← readMember cs
      readSections fuel { s with members := ← setMember ks x s.members } cs

/-- The tree of a document. A byte order mark at its front is left out. -/
def read? (cs : List Char) : Option Datum := do
  let cs := match cs with
    | '\uFEFF' :: cs => cs
    | cs => cs
  let cs := foldReturns cs
  let sections ← readSections (cs.length + 1) ⟨[], false, []⟩ cs
  let depth := (sections.map (·.header.length)).foldl max 0
  return .record .spread (← Section.table (depth + 1) sections)

end BackboneLab.Toml
