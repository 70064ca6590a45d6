import BackboneLab.Experiment.Fault
import BackboneLab.Traffic.Schedule

/-!
# Reports

What is told of a demand once its playback is over, and of an experiment as a whole.
-/

namespace BackboneLab

/-- Why something about the playback of a demand failed. -/
inductive StepFailure
  /-- The command of a step failed. -/
  | command (fault : ExperimentFault)
  /-- No host has the source address of the demand. -/
  | unknownSource (address : Ipv4)
  /-- The playback of the demand broke off. -/
  | panicked
deriving DecidableEq, Inhabited

/-- The failure in words, if this program words it. -/
def StepFailure.message : StepFailure → Option String
  | .command f => f.message
  | .unknownSource a => some ("unknown source host " ++ a.text)
  | .panicked => some "thread panicked"

/-- What is told of a demand. -/
structure DemandReport where
  source : Ipv4
  destination : Ipv4
  /-- The number of steps that were carried out, failed ones included. -/
  stepsRun : Nat
  stepsTotal : Nat
  failures : List StepFailure
  /-- Whether the demand was stopped before its last step. -/
  cancelled : Bool
deriving DecidableEq, Inhabited

namespace DemandReport

/-- The report on a demand of which no step was carried out yet. -/
def initial (d : DemandSchedule) : DemandReport :=
  ⟨d.source, d.destination, 0, d.steps.length, [], false⟩

/-- Whether all steps were carried out without a failure. -/
def isSuccess (r : DemandReport) : Bool :=
  !r.cancelled && r.failures.isEmpty && r.stepsRun == r.stepsTotal

/-- Adds a failure. -/
def fail (r : DemandReport) (f : StepFailure) : DemandReport := { r with failures := r.failures ++ [f] }

/-- Counts a step that was carried out. -/
def countStep (r : DemandReport) : DemandReport := { r with stepsRun := r.stepsRun + 1 }

end DemandReport

/-- What is told of an experiment that came to its end. -/
structure ExperimentReport where
  /-- The number of intents that the controller had to install. -/
  expectedIntents : Nat
  /-- A report for every demand, in the order of the schedule. -/
  demands : List DemandReport
deriving DecidableEq, Inhabited

/-- Whether all steps of all demands were carried out without a failure. -/
def ExperimentReport.isSuccess (r : ExperimentReport) : Bool := r.demands.all DemandReport.isSuccess

end BackboneLab
