import BackboneLab.Document.Wire

/-!
# Commands on hosts

A program with its arguments, run on a host without a shell in between, so that nothing is quoted.
-/

namespace BackboneLab

/-- A program with its arguments. -/
structure HostCommand where
  program : String
  args : List String
deriving DecidableEq, Inhabited

namespace HostCommand

/-- A command without arguments. -/
def ofProgram (program : String) : HostCommand := ⟨program, []⟩

/-- Appends an argument. -/
def arg (c : HostCommand) (a : String) : HostCommand := ⟨c.program, c.args ++ [a]⟩

/-- Appends a list of arguments. -/
def append (c : HostCommand) (as : List String) : HostCommand := ⟨c.program, c.args ++ as⟩

/-- The program and all arguments. -/
def argv (c : HostCommand) : List String := c.program :: c.args

/-- The command as it is shown: its words with blanks between them. -/
def text (c : HostCommand) : String :=
  String.ofList (Text.join [' '] (c.argv.map String.toList))

instance : Wire HostCommand where
  encode c := .object [("program", encode c.program), ("args", encode c.args)]
  decode d := do
    let f ← Fields.ofDatum? ["program", "args"] d
    return ⟨← f.required "program", ← f.required "args"⟩

end HostCommand

end BackboneLab
