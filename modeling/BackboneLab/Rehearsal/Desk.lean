import BackboneLab.CommandLine.Arguments
import BackboneLab.CommandLine.Execution
import BackboneLab.Emulation.Launcher
import BackboneLab.Machine.Local

/-!
# Rehearsed commands

A desk is a station for rehearsals of the command line: the commands run on the local machine, the
controller is one server with scripted replies, and what is sent to two ports is kept. Triggers arrive at
once, and a bundle arrives if the script has one.
-/

namespace BackboneLab

/-- What is scripted for a desk. -/
structure DeskScript where
  /-- The port of the controller on this machine. -/
  controllerPort : UInt16
  /-- The port whose datagrams are kept. -/
  datagramPort : UInt16
  /-- The port whose connections are kept. -/
  connectionPort : UInt16
  /-- The replies of the controller, one for every request. -/
  replies : List Response
  /-- The bundle that arrives, as a document. -/
  incoming : Option String
deriving Inhabited

/-- What has happened at a desk. -/
structure DeskState where
  /-- The machine; its files are those of the scene. -/
  machine : Machine
  /-- The requests that reached the controller. -/
  requests : List Request
  /-- What was received as a datagram. -/
  datagram : Option String
  /-- What was received over a connection. -/
  connection : Option String
deriving Inhabited

namespace DeskScript

/-- Does something on the machine of the desk. -/
def onMachine {α : Type} (a : StateM Machine α) : Ask DeskState α :=
  modifyGet fun scene => match a.run { scene.systems.machine with files := scene.files } with
    | (x, machine) => (x, ⟨machine.files, { scene.systems with machine }⟩)

/-- Whether an address belongs to this machine. -/
def isHere (a : Ipv4) : Bool := a.first == 127

/-- The names under which the controller is found. -/
def servers (d : DeskScript) : List String :=
  ["127.0.0.1", "localhost"].map fun host => host ++ ":" ++ decimal d.controllerPort.toNat

/-- The reply to a request. -/
def exchange (d : DeskScript) (r : Request) : Ask DeskState Response := do
  if !d.servers.contains r.server then return .dropped
  let q := (← get).systems
  modify fun scene => { scene with systems := { q with requests := q.requests ++ [r] } }
  return (d.replies[q.requests.length]?).getD (.replied 404 "")

/-- Who carries out commands on the hosts. -/
def entryOf (o : RunOptions) : HostEntry := if o.isLocal then .direct else .namespaced

/-- Carries out a command on a router. -/
def runOn (o : RunOptions) (c : RouterCommand) : Ask DeskState Answer :=
  let entry := match c.executor with
    | .namespaced => entryOf o
    | .root => .direct
  onMachine (Machine.run entry c.router c.command)

/-- How a run ends that has the given answer. -/
def resultOf : Answer → RunResult
  | .ok () => .done
  | .error f => .failed f

/-- What a job does next. The command that it runs is carried out on the machine. -/
def actionOf (o : RunOptions) (g : Generator) (k : Nat) (j : Job) : Ask DeskState PlaybackAction := do
  match j.phase, j.next? g with
  | .ready, _ => return .looks k
  | .running, some (host, c) =>
    return .ends k (resultOf (← onMachine (Machine.run (entryOf o) host c)))
  | _, _ => return .begins k

/-- Plays at most so many actions. The jobs take turns. -/
def playFrom (o : RunOptions) : Nat → Playback → Ask DeskState (List PlaybackAction)
  | 0, _ => return []
  | n + 1, p => do
    match p.jobs.zipIdx.find? (·.1.phase ≠ .over) with
    | none => return []
    | some (j, k) =>
      let action ← actionOf o p.generator k j
      return action :: (← playFrom o n (p.perform action))

/-- The milliseconds in which a number of nanoseconds has passed. -/
def millisOf (nanos : Nat) : Nat := (nanos + 999999) / 1000000

/-- The emulator of an experiment with the given options. -/
def emulatorOf (o : RunOptions) : Machine.EmulatorScript :=
  ⟨o.emulator, o.configDir.join planFileName, o.startupDelay.toNat * 1000⟩

/-- The systems of a desk. -/
def testbed (d : DeskScript) (o : RunOptions) : Testbed DeskState where
  startEmulator n := onMachine (Machine.startEmulator (emulatorOf o) n)
  stopEmulator := onMachine Machine.stopEmulator
  startDaemon daemon := runOn o daemon.starting
  stopDaemon daemon := runOn o daemon.stopping
  spawn host c := onMachine (Machine.spawn (entryOf o) host c)
  stopSpawned := onMachine Machine.stopSpawned
  exchange := d.exchange
  now := return (← get).systems.machine.clock * 1000000
  sleep n := onMachine (Machine.elapse (millisOf n))
  isStopped := return false
  listen := return .ok ()
  receive := return .datagram CommandLine.defaultHost
  play p := playFrom o (3 * (p.jobs.flatMap (·.remaining)).length) p

/-- The station for rehearsals of the command line. -/
def station (d : DeskScript) : Station DeskState where
  testbed := d.testbed
  sendTrigger host port := do
    if isHere host && port == d.datagramPort then
      modify fun s => { s with systems := { s.systems with datagram := some triggerPayload } }
    return .ok ()
  sendBundle host port b := do
    if isHere host && port == d.connectionPort then
      modify fun s => { s with systems := { s.systems with connection := some (toJson b) } }
      return .ok ()
    else return .error .inaccessible
  receiveBundle _ :=
    return match d.incoming with
      | some document => Bundle.ofDocument document
      | none => .error .inaccessible

/-- The number of rounds after which a rehearsal is broken off. -/
def patience : Nat := 2000

/-- Rehearses an invocation. -/
def rehearse (d : DeskScript) (i : Invocation) (files : Store) :
    Except Halt String × Progress DeskState :=
  (d.station.execute patience i).run (.ofScene ⟨files, default⟩)

end DeskScript

end BackboneLab
