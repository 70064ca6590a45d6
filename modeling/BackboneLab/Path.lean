/-!
# Paths

A path is the text that names a file or a directory. Joining a directory and a name puts one slash
between them; a name that starts at the root replaces the directory.
-/

namespace BackboneLab

/-- The name of a file or a directory. -/
structure Path where
  text : String
deriving DecidableEq, Inhabited

namespace Path

/-- Joins the texts of a directory and of a name. -/
def joinChars (dir name : List Char) : List Char :=
  if name.head? = some '/' then name
  else if dir = [] ∨ dir.getLast? = some '/' then dir ++ name
  else dir ++ '/' :: name

/-- The path of a name in a directory. -/
def join (dir : Path) (name : String) : Path :=
  ⟨String.ofList (joinChars dir.text.toList name.toList)⟩

end Path

end BackboneLab
