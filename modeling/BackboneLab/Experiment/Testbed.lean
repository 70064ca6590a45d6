import BackboneLab.Controller.Client
import BackboneLab.Emulation.Daemon
import BackboneLab.Experiment.Playback
import BackboneLab.Experiment.Surroundings
import BackboneLab.Files.Store

/-!
# Testbeds

The systems on which an experiment depends: the emulator, the routing daemons, the hosts, the controller,
the clock, the stop flag and the trigger. A testbed says how they answer; each answer may depend on the
whole state of the systems and may change it together with the files. `Event` is what an experiment
records of them.
-/

namespace BackboneLab

/-- The files, and the state of all other systems. -/
structure Scene (σ : Type) where
  files : Store
  systems : σ

/-- Something that is asked of the systems. -/
abbrev Ask (σ α : Type) := StateM (Scene σ) α

/-- The answer of a system that only does something or fails. -/
abbrev Answer := Except ExperimentFault Unit

/-- How the systems answer. -/
structure Testbed (σ : Type) where
  startEmulator : EmulatedNetwork → Ask σ Answer
  stopEmulator : Ask σ Answer
  startDaemon : Daemon → Ask σ Answer
  stopDaemon : Daemon → Ask σ Answer
  /-- Starts a command in the background of a host. -/
  spawn : String → HostCommand → Ask σ Answer
  /-- Stops all commands in the background. -/
  stopSpawned : Ask σ Answer
  /-- Sends a request to the controller. -/
  exchange : Request → Ask σ Response
  /-- The time on the clock in nanoseconds. -/
  now : Ask σ Nat
  /-- Sleeps for so many nanoseconds. -/
  sleep : Nat → Ask σ Unit
  /-- Whether the stop flag is set. -/
  isStopped : Ask σ Bool
  /-- Opens the socket for the trigger. -/
  listen : Ask σ Answer
  /-- What has arrived at that socket within the time between two looks at the stop flag. -/
  receive : Ask σ Reception
  /-- What happens while a schedule is played, up to the point where nothing happens any more. -/
  play : Playback → Ask σ (List PlaybackAction)

/-- Something that happened during an experiment. -/
inductive Event
  | emulatorStarted (network : EmulatedNetwork) (answer : Answer)
  | daemonStarted (daemon : Daemon) (answer : Answer)
  | uploaded (request : Request) (response : Response)
  | spawned (host : String) (command : HostCommand) (answer : Answer)
  /-- The expected intents were read from the configuration. -/
  | expecting (intents : Nat)
  | polled (request : Request) (response : Response)
  | triggered (sender : Ipv4)
  | played (event : PlaybackEvent)
  | daemonStopped (daemon : Daemon) (answer : Answer)
  | spawnedStopped (answer : Answer)
  | emulatorStopped (answer : Answer)

end BackboneLab
