import BackboneLab.Experiment.Report
import BackboneLab.Traffic.Generator

/-!
# Playback

Every demand of a schedule is a job that carries out its steps one after the other on the source host.
Before each step it looks at the stop flag. The jobs run side by side, so a playback is a list of actions
in any order: a job looks at the flag, begins a run or ends it, or the flag is set. An action that the job
cannot take at that point changes nothing. `Playback.history` tells what happened.
-/

namespace BackboneLab

/-- How the run of a command ends. -/
inductive RunResult
  | done
  | failed (fault : ExperimentFault)
  /-- The run took the job down with it. -/
  | panicked
deriving DecidableEq, Inhabited

/-! ## Jobs -/

/-- What a job does next. -/
inductive JobPhase
  /-- Looks at the stop flag. -/
  | ready
  /-- Has seen the flag unset, and begins its next run. -/
  | cleared
  /-- Waits for the end of its run. -/
  | running
  /-- Nothing. -/
  | over
deriving DecidableEq, Inhabited

/-- The playback of one demand. -/
structure Job where
  demand : DemandSchedule
  /-- The name of the source host, if there is one. -/
  host : Option String
  /-- The steps that were not carried out yet. The first of them is the next one, or the one that is
  being run. -/
  remaining : List TrafficStep
  phase : JobPhase
  report : DemandReport

namespace Job

/-- The phase of a job that is between two steps. -/
def phaseBefore (steps : List TrafficStep) : JobPhase := if steps.isEmpty then .over else .ready

/-- The job of a demand with the given source host. -/
def ofDemand (d : DemandSchedule) (host : Option String) : Job :=
  match host with
  | some _ => ⟨d, host, d.steps, phaseBefore d.steps, .initial d⟩
  | none => ⟨d, none, d.steps, .over, (DemandReport.initial d).fail (.unknownSource d.source)⟩

/-- The command of the next step, with the host that carries it out. -/
def next? (j : Job) (g : Generator) : Option (String × HostCommand) :=
  match j.host, j.remaining with
  | some host, step :: _ => some (host, g.clientCommand j.demand.source step)
  | _, _ => none

/-- The job after a look at the stop flag. -/
def look (stopped : Bool) (j : Job) : Job :=
  if stopped then { j with phase := .over, report := { j.report with cancelled := true } }
  else { j with phase := .cleared }

/-- The job once the run of its next step has begun. -/
def start (j : Job) : Job := { j with phase := .running }

/-- The job behind the first of its remaining steps, which was carried out. -/
def advance (j : Job) (report : DemandReport) : Job :=
  { j with
    remaining := j.remaining.tail, phase := phaseBefore j.remaining.tail, report := report.countStep }

/-- The job after the end of a run. When the job is taken down, the count of its steps and its earlier
failures are lost. -/
def finish (result : RunResult) (j : Job) : Job :=
  match result with
  | .done => j.advance j.report
  | .failed fault => j.advance (j.report.fail (.command fault))
  | .panicked =>
    { j with phase := .over, report := (DemandReport.initial j.demand).fail .panicked }

end Job

/-! ## All jobs together -/

/-- Something that happens during a playback. Jobs are told by their number. -/
inductive PlaybackAction
  | looks (job : Nat)
  | begins (job : Nat)
  | ends (job : Nat) (result : RunResult)
  /-- The stop flag is set. -/
  | stops
deriving DecidableEq, Inhabited

/-- Something that happened during a playback. -/
inductive PlaybackEvent
  | looked (job : Nat) (stopped : Bool)
  | began (job : Nat) (host : String) (command : HostCommand)
  | ended (job : Nat) (host : String) (command : HostCommand) (result : RunResult)
  | stopped
deriving DecidableEq, Inhabited

/-- The playback of a schedule. -/
structure Playback where
  generator : Generator
  jobs : List Job
  /-- Whether the stop flag is set. -/
  stopped : Bool
  history : List PlaybackEvent

namespace Playback

/-- The playback before anything has happened. -/
def ofSchedule (s : Schedule) (g : Generator) (hosts : OrderedMap Ipv4 String) : Playback :=
  ⟨g, s.demands.map fun d => .ofDemand d (hosts.find? d.source), false, []⟩

/-- Replaces a job and adds an event to the history. -/
def record (p : Playback) (k : Nat) (j : Job) (e : PlaybackEvent) : Playback :=
  { p with jobs := p.jobs.set k j, history := p.history ++ [e] }

/-- The job with the given number, if it is in the given phase. -/
def jobIn? (p : Playback) (phase : JobPhase) (k : Nat) : Option Job :=
  p.jobs[k]?.filter (·.phase = phase)

/-- A job looks at the stop flag. -/
def look (p : Playback) (k : Nat) : Playback :=
  match p.jobIn? .ready k with
  | some j => p.record k (j.look p.stopped) (.looked k p.stopped)
  | none => p

/-- A job begins the run of its next step. -/
def start (p : Playback) (k : Nat) : Playback :=
  match p.jobIn? .cleared k with
  | some j =>
    match j.next? p.generator with
    | some (host, command) => p.record k j.start (.began k host command)
    | none => p
  | none => p

/-- The run of a job ends. -/
def finish (p : Playback) (k : Nat) (result : RunResult) : Playback :=
  match p.jobIn? .running k with
  | some j =>
    match j.next? p.generator with
    | some (host, command) => p.record k (j.finish result) (.ended k host command result)
    | none => p
  | none => p

/-- The stop flag is set. -/
def stop (p : Playback) : Playback :=
  if p.stopped then p else { p with stopped := true, history := p.history ++ [.stopped] }

/-- The playback after an action. -/
def perform (p : Playback) : PlaybackAction → Playback
  | .looks k => p.look k
  | .begins k => p.start k
  | .ends k result => p.finish k result
  | .stops => p.stop

/-- The playback after a list of actions. -/
def performAll (p : Playback) (actions : List PlaybackAction) : Playback := actions.foldl perform p

/-- Whether all jobs are over. -/
def isOver (p : Playback) : Bool := p.jobs.all (·.phase = .over)

/-- The reports in the order of the schedule. -/
def reports (p : Playback) : List DemandReport := p.jobs.map (·.report)

end Playback

end BackboneLab
