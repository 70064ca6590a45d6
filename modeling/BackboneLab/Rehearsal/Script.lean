import BackboneLab.Experiment.Run
import BackboneLab.Rehearsal.Playing

/-!
# Scripted experiments

A script says how the systems of a testbed answer: which call fails, what the controller replies, and
when the stop flag is set. Nothing is started; time passes only in sleeps, and the trigger arrives at
once.
-/

namespace BackboneLab

/-- The answers of a rehearsal. Unless something else is said, everything succeeds, and the controller has
no document. -/
structure Script where
  /-- The reply to every document that is sent to the controller. -/
  uploadReply : Response := .replied 200 ""
  /-- The replies to the requests for documents. The last one is repeated. -/
  replies : List Response := []
  /-- Whether the stop flag is set from the beginning. -/
  stoppedBefore : Bool := false
  /-- The number of the request for a document during which the stop flag is set. -/
  stopAtRequest : Option Nat := none
  emulatorStartFails : Bool := false
  emulatorStopFails : Bool := false
  /-- The number of the daemon whose start fails. -/
  failingDaemon : Option Nat := none
  daemonStopFails : Bool := false
  /-- The number of the command in the background that cannot be started. -/
  failingSpawn : Option Nat := none
  stopSpawnedFails : Bool := false
  runs : RunRule := ⟨[], [], none⟩
deriving Inhabited

/-- What has been asked in a rehearsal. -/
structure ScriptState where
  stopped : Bool
  requests : Nat
  daemons : Nat
  spawns : Nat
  /-- The time that was slept. -/
  clock : Nat
deriving DecidableEq, Inhabited

namespace Script

/-- The reply for which a script has nothing left. -/
def exhausted : Response := .replied 404 ""

/-- The text of a failure that a script asks for. -/
def failureText : String := "scripted"

/-- An answer that fails if it should. -/
def answer (fails : Bool) (f : ExperimentFault) : Answer := if fails then .error f else .ok ()

/-- The state at the beginning. -/
def initial (s : Script) : ScriptState := ⟨s.stoppedBefore, 0, 0, 0, 0⟩

/-- The reply to the request for a document with the given number, counted from one. -/
def replyTo (s : Script) (number : Nat) : Response :=
  (s.replies[number - 1]?.or s.replies.getLast?).getD exhausted

/-- Asks the state of the rehearsal. -/
def onState {α : Type} (f : ScriptState → α × ScriptState) : Ask ScriptState α :=
  modifyGet fun scene => match f scene.systems with
    | (x, systems) => (x, { scene with systems })

/-- The testbed that answers from a script. -/
def testbed (s : Script) : Testbed ScriptState where
  startEmulator _ := return answer s.emulatorStartFails (.emulatorExited failureText)
  stopEmulator := return answer s.emulatorStopFails (.emulatorExited failureText)
  startDaemon d := onState fun q =>
    (answer (s.failingDaemon == some (q.daemons + 1)) (.commandFailed d.kind.binary failureText),
      { q with daemons := q.daemons + 1 })
  stopDaemon d := return answer s.daemonStopFails (.commandFailed d.kind.binary failureText)
  spawn _ c := onState fun q =>
    (answer (s.failingSpawn == some (q.spawns + 1)) (.commandFailed c.text "cannot spawn"),
      { q with spawns := q.spawns + 1 })
  stopSpawned := return answer s.stopSpawnedFails .inaccessible
  exchange r :=
    match r.method with
    | .post _ => return s.uploadReply
    | .get => onState fun q =>
      let number := q.requests + 1
      (s.replyTo number,
        { q with requests := number, stopped := q.stopped || s.stopAtRequest == some number })
  now := onState fun q => (q.clock, q)
  sleep n := onState fun q => ((), { q with clock := q.clock + n })
  isStopped := onState fun q => (q.stopped, q)
  listen := return .ok ()
  receive := return .datagram ⟨127, 0, 0, 1⟩
  play p := onState fun q =>
    (if q.stopped then .stops :: s.runs.playback (p.perform .stops) else s.runs.playback p, q)

/-- The number of rounds after which a rehearsal is broken off. -/
def patience : Nat := 2000

/-- Rehearses an experiment. -/
def rehearse (s : Script) (b : Bundle) (settings : Settings) (confDir : Path) (files : Store) :
    Except Halt ExperimentReport × Progress ScriptState :=
  (s.testbed.experiment b settings confDir patience).run (.ofScene ⟨files, s.initial⟩)

end Script

end BackboneLab
