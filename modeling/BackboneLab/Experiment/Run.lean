import BackboneLab.Emulation.Receivers
import BackboneLab.Experiment.IntentWait
import BackboneLab.Experiment.Preparation
import BackboneLab.Experiment.Testbed
import BackboneLab.Experiment.Trigger

/-!
# Running an experiment

An experiment prepares its network, starts the emulator, the daemons and the receivers, tells the
controller its configuration, waits for the intents and then for the trigger, and plays the traffic. A
stage begins only if the one before it succeeded. Once the emulator was started, everything that was
started is stopped again, however the stages ended, and what the stopping brings has no influence on the
result.

Waits may never end, so a run is given the number of rounds that it has patience for. If they are not
enough, or if the systems leave a playback unfinished, then the run has no result and nothing is stopped.
-/

namespace BackboneLab

/-- Why a run does not go on. -/
inductive Halt
  | fault (fault : ExperimentFault)
  /-- The run still waits for something. -/
  | unfinished
deriving DecidableEq, Inhabited

/-- How far a run has come. -/
structure Progress (σ : Type) where
  scene : Scene σ
  /-- The daemons that were started, in this order. -/
  started : List Daemon
  history : List Event

/-- A part of a run. -/
abbrev Run (σ : Type) := ExceptT Halt (StateM (Progress σ))

namespace Run

variable {σ α : Type}

/-- Adds an event to the history. -/
def record (e : Event) : Run σ Unit := modify fun p => { p with history := p.history ++ [e] }

/-- Asks the systems something. -/
def ask (a : Ask σ α) : Run σ α :=
  modifyGet fun p => match a p.scene with
    | (x, scene) => (x, { p with scene })

/-- Goes on with a value, unless there is none because of a fault. -/
def require : Except ExperimentFault α → Run σ α
  | .ok x => return x
  | .error f => throw (.fault f)

/-- Works on the files. -/
def onFiles (a : FileAction α) : Run σ α := do
  let r ← modifyGet fun p => match a.run p.scene.files with
    | (r, files) => (r, { p with scene := { p.scene with files } })
  require (r.mapError .preparation)

/-- Asks the systems to do something, records their answer and goes on if they did it. -/
def attempt (a : Ask σ Answer) (e : Answer → Event) : Run σ Unit := do
  let answer ← ask a
  record (e answer)
  require answer

/-- Goes on with the outcome of a wait, if there is one. -/
def ended : Option α → Run σ α
  | some x => return x
  | none => throw .unfinished

variable (t : Testbed σ)

/-! ## Stages -/

/-- Starts daemons one after the other. -/
def startDaemons : List Daemon → Run σ Unit
  | [] => return
  | d :: ds => do
    attempt (t.startDaemon d) (.daemonStarted d)
    modify fun p => { p with started := p.started ++ [d] }
    startDaemons ds

/-- Tells the controller the configuration of the network. -/
def upload (e : Endpoint) (c : NetworkConfig) : Run σ Unit := do
  let call := e.upload c
  let response ← ask (t.exchange call.request)
  record (.uploaded call.request response)
  require ((call.read response).mapError .controller)

/-- Starts commands in the background of their hosts one after the other, and counts them. -/
def spawnAll : List (String × HostCommand) → Run σ Nat
  | [] => return 0
  | (host, command) :: rest => do
    attempt (t.spawn host command) (.spawned host command)
    return (← spawnAll rest) + 1

/-- Reads from the configuration how many intents are to be expected. -/
def readExpected (confDir : Path) : Run σ Nat := do
  let expected := (← onFiles (IntentExpectation.ofDirectory confDir)).count
  record (.expecting expected)
  return expected

/-- Asks the systems something while waiting. -/
def whileWaiting (a : Ask σ α) (p : Progress σ) : α × Progress σ :=
  match a p.scene with
  | (x, scene) => (x, { p with scene })

/-- The surroundings of the waits of a run. Polls are recorded. -/
def surroundings (e : Endpoint) : Surroundings (Progress σ) where
  now := whileWaiting t.now
  isStopped := whileWaiting t.isStopped
  poll p :=
    let call := e.intentCount
    match whileWaiting (t.exchange call.request) p with
    | (response, p) =>
      ((call.read response).toOption,
        { p with history := p.history ++ [.polled call.request response] })
  receive := whileWaiting t.receive
  sleep n p := (whileWaiting (t.sleep n) p).2

/-- Waits until the controller has the expected intents. -/
def awaitIntents (e : Endpoint) (expected : Nat) (policy : RetryPolicy) (patience : Nat) :
    Run σ Unit := do
  let outcome ← modifyGet ((surroundings t e).awaitIntents expected policy patience)
  match ← ended outcome with
  | .reached _ => return
  | .timedOut last => throw (.fault (.intentTimeout expected last))
  | .cancelled => throw (.fault .cancelled)

/-- Waits for the trigger. -/
def awaitTrigger (e : Endpoint) (patience : Nat) : Run σ Unit := do
  require (← ask t.listen)
  let outcome ← modifyGet ((surroundings t e).awaitTrigger patience)
  match ← require (← ended outcome) with
  | some sender => record (.triggered sender)
  | none => throw (.fault .cancelled)

/-- Plays a schedule until all jobs are over. -/
def play (s : Schedule) (g : Generator) (hosts : OrderedMap Ipv4 String) :
    Run σ (List DemandReport) := do
  let start := Playback.ofSchedule s g hosts
  let playback := start.performAll (← ask (t.play start))
  modify fun p => { p with history := p.history ++ playback.history.map .played }
  if playback.isOver then return playback.reports else throw .unfinished

/-- What a run does between the start of the emulator and the reading of the configuration. -/
def setUp (p : Preparation) (s : Settings) : Run σ Unit := do
  startDaemons t (p.network.daemons s.quagga)
  upload t (.ofSettings s.controller) p.networkConfig
  let _ ← spawnAll t (p.network.receivers s.sync.trafficTool)

/-- What a run does between the start of the emulator and the stopping. -/
def stages (p : Preparation) (s : Settings) (confDir : Path) (patience : Nat) :
    Run σ ExperimentReport := do
  let endpoint := Endpoint.ofSettings s.controller
  setUp t p s
  let expected ← readExpected confDir
  awaitIntents t endpoint expected s.sync.retryPolicy patience
  awaitTrigger t endpoint patience
  return ⟨expected, ← play t p.schedule s.sync.trafficTool p.network.hostNames⟩

/-! ## Stopping -/

/-- Asks the systems to stop something, and records their answer. -/
def release (a : Ask σ Answer) (e : Answer → Event) (p : Progress σ) : Progress σ :=
  match a p.scene with
  | (answer, scene) => { p with scene, history := p.history ++ [e answer] }

/-- Stops everything that was started: the daemons from the last to the first, the commands in the
background, and the emulator. -/
def stopAll (p : Progress σ) : Progress σ :=
  let p := p.started.reverse.foldl (fun p d => release (t.stopDaemon d) (.daemonStopped d) p) p
  release t.stopEmulator .emulatorStopped (release t.stopSpawned .spawnedStopped p)

/-- The stages of a run and the stopping after them. -/
def emulated (p : Preparation) (s : Settings) (confDir : Path) (patience : Nat) :
    Run σ ExperimentReport := ExceptT.mk fun progress =>
  match (stages t p s confDir patience).run progress with
  | (.error .unfinished, progress) => (.error .unfinished, progress)
  | (result, progress) => (result, stopAll t progress)

end Run

/-- Runs an experiment: prepares it, starts the emulator, goes through the stages and stops everything
again. -/
def Testbed.experiment {σ : Type} (t : Testbed σ) (b : Bundle) (s : Settings) (confDir : Path)
    (patience : Nat) : Run σ ExperimentReport := do
  let p ← Run.onFiles (Preparation.ofBundle b s confDir)
  Run.attempt (t.startEmulator p.network) (.emulatorStarted p.network)
  Run.emulated t p s confDir patience

/-- The progress of a run that has not begun yet. -/
def Progress.ofScene {σ : Type} (scene : Scene σ) : Progress σ := ⟨scene, [], []⟩

end BackboneLab
