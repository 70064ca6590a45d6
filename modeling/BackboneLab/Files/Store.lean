import BackboneLab.Fault
import BackboneLab.Ordered.Map
import BackboneLab.Ordered.Set
import BackboneLab.Text.Split

/-!
# Stores of files

A store is a tree of directories, kept as a map from the names of the directories to what is in them.
The name of a directory is its path from the root with slashes between the parts, and the root has the
empty name. Everything that can be done to a store is a `FileAction`, which fails where the tree does not
allow it and then keeps what it has done so far.
-/

namespace BackboneLab

/-- What a file holds. -/
inductive FileContent
  | text (text : String)
  /-- Bytes that are no text. -/
  | binary
deriving DecidableEq, Inhabited

/-- The files of a directory by their names. -/
abbrev Directory := OrderedMap String FileContent

/-- A tree of directories. -/
structure Store where
  /-- What is in every directory, by its name. -/
  directories : OrderedMap String Directory

/-! ## Places -/

/-- A path in its parts, from the root of the store. -/
abbrev Place := List String

namespace Place

/-- Follows a part of a path. Two dots lead to the directory above. -/
def follow (p : Place) (part : List Char) : Place :=
  if part = [] ∨ part = ['.'] then p
  else if part = ['.', '.'] then p.dropLast
  else p ++ [String.ofList part]

/-- Where a path leads. -/
def ofPath (path : Path) : Place := (Text.splitOn '/' path.text.toList).foldl follow []

/-- The name of the directory at a place. -/
def name (p : Place) : String := String.ofList (Text.join ['/'] (p.map String.toList))

/-- The place itself and all places above it but the root, from the top. -/
def chain (p : Place) : List Place := (List.range p.length).map fun k => p.take (k + 1)

end Place

/-- Whether a path names a directory through its last part, by a slash or by dots. -/
def Path.endsAsDirectory (path : Path) : Bool :=
  match (Text.splitOn '/' path.text.toList).getLast? with
  | some part => part == [] || part == ['.'] || part == ['.', '.']
  | none => true

/-- Whether the last part of a path that is not empty consists of dots. -/
def Path.endsInDots (path : Path) : Bool :=
  match ((Text.splitOn '/' path.text.toList).filter (· ≠ [])).getLast? with
  | some part => part == ['.'] || part == ['.', '.']
  | none => false

/-! ## What is in a store -/

namespace Store

/-- The store with nothing but its root. -/
def empty : Store := ⟨.ofList [("", .empty)]⟩

instance : Inhabited Store := ⟨empty⟩

/-- What is in the directory at a place. -/
def directory? (s : Store) (p : Place) : Option Directory := s.directories.find? p.name

/-- The file at a place. -/
def file? (s : Store) (p : Place) : Option FileContent := do
  let name ← p.getLast?
  (← s.directory? p.dropLast).find? name

/-- Whether a path leads to a file or a directory. -/
def contains (s : Store) (path : Path) : Bool :=
  let p := Place.ofPath path
  path.text ≠ "" && ((s.directory? p).isSome || (!path.endsAsDirectory && (s.file? p).isSome))

/-- The text of the file to which a path leads. -/
def text? (s : Store) (path : Path) : Option String :=
  if path.endsAsDirectory then none
  else
    match s.file? (.ofPath path) with
    | some (.text t) => some t
    | _ => none

/-- The names of the files in the directory to which a path leads. -/
def fileNames? (s : Store) (path : Path) : Option (List String) :=
  if path.text = "" then none else (s.directory? (.ofPath path)).map OrderedMap.keys

/-- The paths of everything in the store, in order. Those of directories end with a slash. -/
def paths (s : Store) : List String :=
  let under (dir name : String) := if dir = "" then name else dir ++ "/" ++ name
  let all := s.directories.entries.flatMap fun e =>
    (if e.1 = "" then [] else [e.1 ++ "/"]) ++ e.2.keys.map (under e.1)
  (OrderedSet.ofList all).toList

/-- Replaces what is in a directory. -/
def setDirectory (s : Store) (p : Place) (d : Directory) : Store := ⟨s.directories.insert p.name d⟩

/-- Whether a directory is at a place or below it. -/
def isWithin (p : Place) (dir : String) : Bool :=
  p.isEmpty || dir == p.name || (p.name ++ "/").toList.isPrefixOf dir.toList

/-- The store without a directory and everything below it. -/
def without (s : Store) (p : Place) : Store :=
  ⟨.ofList (s.directories.entries.filter fun e => !isWithin p e.1)⟩

end Store

/-! ## Changes -/

/-- Something that is done to a store. -/
abbrev FileAction := ExceptT Fault (StateM Store)

namespace FileAction

/-- Removes a directory with everything in it. A directory that is named by dots stays, but empty. -/
def removeAll (path : Path) : FileAction Unit := do
  let s ← get
  let p := Place.ofPath path
  if (s.directory? p).isNone then throw .inaccessible
  if path.endsInDots || p.isEmpty then
    set ((s.without p).setDirectory p .empty)
    throw .inaccessible
  set (s.without p)

/-- Makes the directories at the given places, in this order. -/
def makeEach : List Place → FileAction Unit
  | [] => return
  | p :: ps => do
    let s ← get
    if (s.file? p).isSome then throw .inaccessible
    if (s.directory? p).isNone then set (s.setDirectory p .empty)
    makeEach ps

/-- Makes a directory with everything above it. -/
def createAll (path : Path) : FileAction Unit := makeEach (Place.ofPath path).chain

/-- Writes a file into a directory that exists. -/
def write (path : Path) (content : FileContent) : FileAction Unit := do
  let s ← get
  let p := Place.ofPath path
  match p.getLast?, s.directory? p.dropLast with
  | some name, some d =>
    if path.endsAsDirectory || (s.directory? p).isSome then throw .inaccessible
    set (s.setDirectory p.dropLast (d.insert name content))
  | _, _ => throw .inaccessible

/-- Removes a file. -/
def remove (path : Path) : FileAction Unit := do
  let s ← get
  let p := Place.ofPath path
  match p.getLast?, s.directory? p.dropLast with
  | some name, some d =>
    if (d.find? name).isNone then throw .inaccessible
    set (s.setDirectory p.dropLast (.ofList (d.entries.filter (·.1 ≠ name))))
  | _, _ => throw .inaccessible

/-- The text of a file. -/
def text (path : Path) : FileAction String := do
  match (← get).text? path with
  | some t => return t
  | none => throw .inaccessible

end FileAction

end BackboneLab
