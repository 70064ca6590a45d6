import BackboneLab.Experiment.Playback

/-!
# Rehearsed playbacks

A rehearsal plays a schedule without hosts. The jobs take turns, each of them going on until it is over,
and every run is answered by a rule. `RunRule.playback` lists the actions that bring a playback to its
end in this way.
-/

namespace BackboneLab

/-- How the runs of a rehearsal end. -/
structure RunRule where
  /-- The hosts, and the words of commands, whose runs fail. -/
  failing : List String
  /-- The hosts, and the words of commands, whose runs take their job down. -/
  panicking : List String
  /-- The number of the run during which the stop flag is set. -/
  stopDuring : Option Nat
deriving Inhabited

namespace RunRule

/-- Whether a list names a host or a word of a command. -/
def names (words : List String) (host : String) (c : HostCommand) : Bool :=
  words.contains host || c.argv.any words.contains

/-- What is said when a command ended with the given status. -/
def statusText (status : Nat) : String := "exit status: " ++ decimal status

/-- How the run of a command ends. -/
def result (r : RunRule) (host : String) (c : HostCommand) : RunResult :=
  if names r.panicking host c then .panicked
  else if names r.failing host c then .failed (.commandFailed c.text (statusText 1))
  else .done

/-- How many runs have begun. -/
def runsBegun (history : List PlaybackEvent) : Nat :=
  history.countP fun
    | .began _ _ _ => true
    | _ => false

/-- What the job with the given number does next, given that it is not over. -/
def actionOf (r : RunRule) (p : Playback) (k : Nat) (j : Job) : PlaybackAction :=
  match j.phase with
  | .ready => .looks k
  | .cleared => .begins k
  | .running | .over =>
    if r.stopDuring = some (runsBegun p.history) ∧ !p.stopped then .stops
    else
      match j.next? p.generator with
      | some (host, command) => .ends k (r.result host command)
      | none => .ends k .done

/-- What happens next, if anything does. -/
def next? (r : RunRule) (p : Playback) : Option PlaybackAction := do
  let k ← p.jobs.findIdx? (·.phase ≠ .over)
  return r.actionOf p k (← p.jobs[k]?)

/-- At most so many actions, one after the other. -/
def take (r : RunRule) : Nat → Playback → List PlaybackAction
  | 0, _ => []
  | n + 1, p =>
    match r.next? p with
    | some a => a :: r.take n (p.perform a)
    | none => []

/-- As many actions as a playback can have from the given state on: three for every step, and one
that sets the flag. -/
def actionLimit (p : Playback) : Nat := 3 * (p.jobs.flatMap (·.remaining)).length + 1

/-- The actions that bring a playback to its end. -/
def playback (r : RunRule) (p : Playback) : List PlaybackAction := r.take (actionLimit p) p

/-- The actions that begin the first run of every job before the flag is set, and then bring the playback
to its end. -/
def playbackStoppedEarly (r : RunRule) (p : Playback) : List PlaybackAction :=
  let begun := (List.range p.jobs.length).flatMap fun k => [.looks k, .begins k]
  let first := begun ++ [.stops]
  first ++ r.playback (p.performAll first)

end RunRule

end BackboneLab
