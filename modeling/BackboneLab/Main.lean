import BackboneLab.CommandLine.Arguments
import BackboneLab.CommandLine.Execution

/-!
# The command line

Loads the files that an invocation may read, carries it out, and writes the directory that it compiled.
This machine reaches nothing but its files, so commands that need the controller or the hosts fail.
-/

namespace BackboneLab.CommandLine

/-- How the program is used. -/
def usage : String :=
  "Usage: backbone-lab [OPTIONS] <COMMAND>\n\n" ++
  "Commands:\n" ++
  "  compile           Write the configuration of a topology\n" ++
  "  expected-intents  Print the number of intents of a configuration\n" ++
  "  wait              Wait for the intents of a configuration\n" ++
  "  trigger           Start the traffic\n" ++
  "  send-bundle       Send a bundle to a waiting experiment\n" ++
  "  run               Run an experiment\n"

/-- The files of a configuration directory from which the expected intents are read. -/
def configFiles (dir : Path) : List Path :=
  (networkConfigFile :: speakerConfigFile :: (List.range 256).map routerConfigFile).map dir.join

/-- The files that an invocation reads. -/
def filesRead (i : Invocation) : List Path :=
  i.overrides.settingsFile.toList ++
    match i.command with
    | .compile _ topology => topology.toList
    | .expectedIntents dir | .wait dir => configFiles dir
    | .sendBundle _ bundle => [bundle]
    | .run o => o.bundle.toList ++ configFiles o.configDir
    | .trigger _ => []

/-- Puts a file of this machine into a store, if there is one. -/
def load (s : Store) (path : Path) : IO Store := do
  try
    let bytes ← IO.FS.readBinFile path.text
    let dir : Path := ⟨Place.name (Place.ofPath path).dropLast⟩
    let content := (String.fromUTF8? bytes).elim .binary FileContent.text
    return ((do FileAction.createAll dir; FileAction.write path content).run s).2
  catch _ => return s

/-- Replaces a directory of this machine by the one of a store. -/
def save (s : Store) (dir : Path) : IO Unit := do
  IO.FS.createDirAll dir.text
  IO.FS.removeDirAll dir.text
  IO.FS.createDirAll dir.text
  for (name, content) in ((s.directory? (.ofPath dir)).elim [] OrderedMap.entries) do
    if let .text t := content then IO.FS.writeFile (dir.join name).text t

/-- What is said when a command fails. -/
def failureText : Halt → String
  | .fault f => f.message.getD "A file, a process or a socket cannot be used"
  | .unfinished => "The command did not end"

/-- Carries out an invocation and tells its status. -/
def perform (i : Invocation) : IO UInt32 := do
  let files ← (filesRead i).foldlM load .empty
  match (Station.isolated.execute 1 i).run (.ofScene ⟨files, ()⟩) with
  | (.ok text, progress) =>
    if let .compile dir _ := i.command then save progress.scene.files dir
    IO.print text
    return 0
  | (.error h, _) =>
    IO.eprintln (failureText h)
    return 1

end BackboneLab.CommandLine

open BackboneLab CommandLine in
/-- Runs the command line. The status is 1 if the command fails, and 2 if the words make no sense. -/
def main (words : List String) : IO UInt32 := do
  match invocationOf words with
  | .ok i =>
    try perform i
    catch e =>
      IO.eprintln (toString e)
      return 1
  | .error .information =>
    IO.print usage
    return 0
  | .error .misuse =>
    IO.eprint usage
    return 2
