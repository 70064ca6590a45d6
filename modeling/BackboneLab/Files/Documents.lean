import BackboneLab.Experiment.Transfer
import BackboneLab.Files.Store
import BackboneLab.Intent.Expectation
import BackboneLab.Settings.File

/-!
# Files of the lab

The files that are written and read: the compiled configuration as a directory, the settings, the
topology, the bundle, and what the configuration directory says about the expected intents.
-/

namespace BackboneLab

open FileAction (removeAll createAll write text)
open MonadExcept (ofExcept)

/-- Writes files into a directory, one after the other. -/
def writeEntries (dir : Path) : List (String × String) → FileAction Unit
  | [] => return
  | (name, text) :: es => do
    write (dir.join name) (.text text)
    writeEntries dir es

/-- Replaces a directory by a set of files. -/
def FileSet.writeTo (fs : FileSet) (dir : Path) : FileAction Unit := do
  if (← get).contains dir then removeAll dir
  createAll dir
  writeEntries dir fs.entries

/-- The settings in a file. -/
def Settings.ofFile (path : Path) : FileAction Settings := do
  ofExcept (Settings.ofToml (← text path))

/-- The topology in a file. -/
def Topology.ofFile (path : Path) : FileAction Topology := do
  ofExcept (Topology.ofJson (← text path))

/-- The controller's configuration in a file. Unlike other files it is said to be malformed if it is not
what it should be. -/
def NetworkConfig.ofFile (path : Path) : FileAction NetworkConfig := do
  match ofJson? (← text path) with
  | some c => return c
  | none => throw (.malformedFile path)

/-- The texts of the files with the given names. -/
def textsOf (dir : Path) (names : List String) : FileAction (List String) :=
  names.mapM fun name => text (dir.join name)

/-- The expectation of a directory with configurations: its controller's configuration and the
configurations of routing daemons that count, in the order of their names. -/
def IntentExpectation.ofDirectory (dir : Path) : FileAction IntentExpectation := do
  let config ← NetworkConfig.ofFile (dir.join networkConfigFile)
  match (← get).fileNames? dir with
  | some names =>
    ofExcept (IntentExpectation.ofConfigs config
      (← textsOf dir (names.filter IntentExpectation.isDaemonConfigFile)))
  | none => throw .inaccessible

/-- The bundle in a file. -/
def Store.bundle (s : Store) (path : Path) : Except ExperimentFault Bundle :=
  match s.text? path with
  | none => .error .inaccessible
  | some document => Bundle.ofDocument document

end BackboneLab
