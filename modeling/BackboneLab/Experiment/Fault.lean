import BackboneLab.Fault

/-!
# Faults of an experiment

Why a call to the controller or a step of an experiment fails. As for the faults of the configuration,
only those have a message that this program words itself.
-/

namespace BackboneLab

/-- Why a call to the controller fails. -/
inductive ControllerFault
  /-- The controller gave no reply. -/
  | noReply
  /-- The call cannot be put into a request. -/
  | invalidRequest
  /-- The reply is not the document that was asked for. -/
  | invalidDocument
  /-- The reply cannot be read to its end. -/
  | inaccessible
  /-- The controller replied with another status than success. -/
  | refused (status : Nat) (body : String)
  /-- The routing application did not take a configuration. -/
  | routingRejected (reason : String)
deriving DecidableEq, Inhabited

/-- The fault in words, if this program words it. -/
def ControllerFault.message : ControllerFault → Option String
  | .refused status body =>
    some ("HTTP Response Error: " ++ decimal status ++ ". Message:\n" ++ body)
  | .routingRejected reason => some ("Routing configuration rejected: " ++ reason)
  | .noReply | .invalidRequest | .invalidDocument | .inaccessible => none

/-- Why a step of an experiment fails. -/
inductive ExperimentFault
  /-- The configuration or the traffic cannot be prepared. -/
  | preparation (fault : Fault)
  /-- A call to the controller failed. -/
  | controller (fault : ControllerFault)
  /-- A file, a process or a socket cannot be used. -/
  | inaccessible
  /-- The bundle cannot be read. -/
  | invalidBundle
  /-- A command ended with another status than success. -/
  | commandFailed (command status : String)
  /-- The emulator ended while the network should be up. -/
  | emulatorExited (status : String)
  /-- There is no emulator to stop. -/
  | emulatorNotRunning
  /-- The controller did not install the expected intents in time. -/
  | intentTimeout (expected : Nat) (last : Option Nat)
  /-- The experiment was stopped. -/
  | cancelled
deriving DecidableEq, Inhabited

namespace ExperimentFault

/-- How the last count is told. -/
def lastCount : Option Nat → String
  | some n => "Some(" ++ decimal n ++ ")"
  | none => "None"

/-- The fault in words, if this program words it. -/
def message : ExperimentFault → Option String
  | .preparation f => f.message
  | .controller f => f.message.map ("Controller error: " ++ ·)
  | .commandFailed command status => some ("Command `" ++ command ++ "` failed: " ++ status)
  | .emulatorExited status => some ("The emulator exited unexpectedly: " ++ status)
  | .emulatorNotRunning => some "The emulator is not running"
  | .intentTimeout expected last =>
    some ("Timeout while waiting for " ++ decimal expected ++ " intents (last count: " ++
      lastCount last ++ ")")
  | .cancelled => some "The experiment was cancelled"
  | .inaccessible | .invalidBundle => none

end ExperimentFault

end BackboneLab
