import BackboneLab.Emulation.HostEntry
import BackboneLab.Emulation.Network
import BackboneLab.Experiment.Fault
import BackboneLab.Machine.Process

/-!
# Commands on the local machine

The commands for the hosts and the script of the emulator are processes of the local machine. A command
that does not end with success is a fault, as is an emulator that ends while it is started. What runs in
the background is stopped all at once.
-/

namespace BackboneLab

/-- The local machine. -/
structure Machine where
  files : Store
  /-- The time in milliseconds. -/
  clock : Nat
  /-- The commands in the background. -/
  background : List Process
  /-- The emulator that is running or has ended since it was started. -/
  emulator : Option Process
deriving Inhabited

namespace Machine

/-- A machine on which nothing runs. -/
def ofFiles (files : Store) : Machine := ⟨files, 0, [], none⟩

/-- The steps that a process can take at one time. -/
def stepLimit : Nat := 10000

/-- Carries a process on as far as the clock allows it. -/
def carryOn (p : Process) : StateM Machine Process :=
  modifyGet fun m => match (p.goOn stepLimit m.clock).run m.files with
    | (p, files) => (p, { m with files })

/-- Carries processes on as far as the clock allows it. -/
def carryAllOn : List Process → StateM Machine (List Process)
  | [] => return []
  | p :: ps => return (← carryOn p) :: (← carryAllOn ps)

/-- Lets time pass. -/
def elapse (millis : Nat) : StateM Machine Unit := do
  modify fun m => { m with clock := m.clock + millis }
  let m ← get
  let background ← carryAllOn m.background
  let emulator ← carryAllOn m.emulator.toList
  modify fun m => { m with background, emulator := emulator.head? }

/-- Starts a program, if there is one and its arguments can be handed over. -/
def launch (argv : List String) : StateM Machine (Option Process) :=
  if argv.any fun a => a.toList.contains '\x00' then return none
  else modifyGet fun m => match (Launch.ofArgs argv.length [] argv).run m.files with
    | (l, files) => (Process.ofLaunch? m.clock l, { m with files })

/-- Waits until a process ends, unless it waits too often. -/
def await : Nat → Process → StateM Machine (Option ProcessEnd)
  | 0, p => return p.ended
  | rounds + 1, p => do
    match p.ended with
    | some e => return some e
    | none =>
      let m ← get
      elapse (p.wake - m.clock)
      await rounds (← carryOn p)

/-! ## Commands on hosts -/

/-- A command and its host, as they are named when the command fails. -/
def commandName (host : String) (c : HostCommand) : String := c.text ++ " on " ++ host

/-- Carries a command out and waits for its end. -/
def run (entry : HostEntry) (host : String) (c : HostCommand) :
    StateM Machine (Except ExperimentFault Unit) := do
  match ← launch (entry.argv host c) with
  | none => return .error .inaccessible
  | some p =>
    match ← await stepLimit p with
    | none => return .error .inaccessible
    | some e =>
      if e.isSuccess then return .ok ()
      else return .error (.commandFailed (commandName host c) e.text)

/-- Starts a command in the background. -/
def spawn (entry : HostEntry) (host : String) (c : HostCommand) :
    StateM Machine (Except ExperimentFault Unit) := do
  match ← launch (entry.argv host c) with
  | none => return .error .inaccessible
  | some p =>
    modify fun m => { m with background := m.background ++ [p] }
    return .ok ()

/-- Stops all commands in the background. -/
def stopSpawned : StateM Machine (Except ExperimentFault Unit) := do
  modify fun m => { m with background := [] }
  return .ok ()

/-! ## The emulator -/

/-- A script that emulates a network, for which it is given the file with the network. -/
structure EmulatorScript where
  command : HostCommand
  planFile : Path
  /-- How long it takes until the network is up, in milliseconds. -/
  startupDelay : Nat
deriving Inhabited

/-- Starts the emulator, unless it was started already. An emulator that has ended when the network should
be up was not started. -/
def startEmulator (s : EmulatorScript) (n : EmulatedNetwork) :
    StateM Machine (Except ExperimentFault Unit) := do
  let m ← get
  if m.emulator.isSome then return .ok ()
  match (FileAction.write s.planFile (.text (toPrettyJson n))).run m.files with
  | (.error _, files) =>
    set { m with files }
    return .error .inaccessible
  | (.ok _, files) =>
    set { m with files }
    match ← launch (s.command.argv ++ [s.planFile.text]) with
    | none => return .error .inaccessible
    | some p =>
      modify fun m => { m with emulator := some p }
      elapse s.startupDelay
      match (← get).emulator.bind Process.ended with
      | some e =>
        modify fun m => { m with emulator := none }
        return .error (.emulatorExited e.text)
      | none => return .ok ()

/-- Stops the emulator. One that has ended already counts as stopped. -/
def stopEmulator : StateM Machine (Except ExperimentFault Unit) := do
  match (← get).emulator with
  | some _ =>
    modify fun m => { m with emulator := none }
    return .ok ()
  | none => return .error .emulatorNotRunning

/-- Whether the emulator is running. -/
def isEmulating (m : Machine) : Bool :=
  match m.emulator with
  | some p => p.ended.isNone
  | none => false

end Machine

end BackboneLab
