import BackboneLab.CommandLine.Invocation
import BackboneLab.Experiment.Run

/-!
# Carrying out commands

A command of the command line works on files, and some commands need a station: a machine that can reach
the controller, send triggers and bundles, and run experiments. What a command prints is the text that it
leads to.
-/

namespace BackboneLab

/-- The machine on which commands are carried out. -/
structure Station (σ : Type) where
  /-- The systems for an experiment with the given options. -/
  testbed : RunOptions → Testbed σ
  sendTrigger : Ipv4 → UInt16 → Ask σ Answer
  sendBundle : Ipv4 → UInt16 → Bundle → Ask σ Answer
  /-- Waits for a bundle on a port. -/
  receiveBundle : UInt16 → Ask σ (Except ExperimentFault Bundle)

/-- The file in which the emulator finds the network. -/
def planFileName : String := "emulation-plan.json"

namespace Station

variable {σ : Type} (st : Station σ)

/-- The settings of an invocation. -/
def settingsOf (o : Overrides) : Run σ Settings := do
  let settings ←
    match o.settingsFile with
    | some file => Run.onFiles (Settings.ofFile file)
    | none => pure .default
  return o.apply settings

/-- The bundle in a file. -/
def bundleIn (file : Path) : Run σ Bundle := do Run.require ((← get).scene.files.bundle file)

/-- Compiles a topology into a directory. -/
def compileInto (settings : Settings) (outputDir : Path) (topology : Option Path) : Run σ Unit := do
  let t ←
    match topology with
    | some file => Run.onFiles (Topology.ofFile file)
    | none => pure Abilene.topology
  let artifacts ← Run.require ((compile t settings).mapError .preparation)
  Run.onFiles (artifacts.files.writeTo outputDir)

/-- The number of intents that a configuration leads to. -/
def expectedIn (configDir : Path) : Run σ Nat := do
  return (← Run.onFiles (IntentExpectation.ofDirectory configDir)).count

/-- Carries out an invocation, with patience for the given number of rounds of every wait. -/
def execute (patience : Nat) (i : Invocation) : Run σ String := do
  let settings ← settingsOf i.overrides
  match i.command with
  | .compile outputDir topology =>
    compileInto settings outputDir topology
    return ""
  | .expectedIntents configDir => return decimal (← expectedIn configDir) ++ "\n"
  | .wait configDir =>
    let expected ← expectedIn configDir
    Run.awaitIntents (st.testbed default) (.ofSettings settings.controller) expected
      settings.sync.retryPolicy patience
    return ""
  | .trigger host =>
    Run.require (← Run.ask (st.sendTrigger host settings.sync.triggerPort))
    return ""
  | .sendBundle host file =>
    let bundle ← bundleIn file
    Run.require (← Run.ask (st.sendBundle host settings.sync.bundlePort bundle))
    return ""
  | .run options =>
    let bundle ←
      match options.bundle with
      | some file => bundleIn file
      | none => Run.require (← Run.ask (st.receiveBundle settings.sync.bundlePort))
    let _ ← (st.testbed options).experiment bundle settings options.configDir patience
    return ""

end Station

/-! ## Without a network -/

/-- The testbed of a machine that reaches nothing. Its stop flag is set, so that no wait goes on. -/
def Testbed.isolated : Testbed Unit where
  startEmulator _ := return .error .inaccessible
  stopEmulator := return .error .emulatorNotRunning
  startDaemon _ := return .error .inaccessible
  stopDaemon _ := return .error .inaccessible
  spawn _ _ := return .error .inaccessible
  stopSpawned := return .ok ()
  exchange _ := return .dropped
  now := return 0
  sleep _ := return
  isStopped := return true
  listen := return .error .inaccessible
  receive := return .failed
  play _ := return []

/-- A machine that reaches nothing but its files. -/
def Station.isolated : Station Unit where
  testbed _ := .isolated
  sendTrigger _ _ := return .error .inaccessible
  sendBundle _ _ _ := return .error .inaccessible
  receiveBundle _ := return .error .inaccessible

end BackboneLab
