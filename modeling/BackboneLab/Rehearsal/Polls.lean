import BackboneLab.Experiment.IntentWait

/-!
# Scripted polls

A rehearsed wait for the intents, for which a script lists the answers of the controller. Time passes only
in sleeps. When no answer is left, the stop flag is set, so that every such wait ends.
-/

namespace BackboneLab

/-- The answers to the polls of a wait. -/
structure PollScript where
  /-- The counts; a poll may have none. -/
  answers : List (Option Nat)
  /-- Whether the stop flag is set from the beginning. -/
  stoppedBefore : Bool
  /-- The number of the poll during which the stop flag is set. -/
  stopAtPoll : Option Nat
deriving Inhabited

/-- What has happened in a rehearsed wait. -/
structure PollState where
  polls : Nat
  /-- The time that was slept. -/
  clock : Nat
  stopped : Bool
deriving DecidableEq, Inhabited

namespace PollScript

/-- The state after the next poll. -/
def afterPoll (s : PollScript) (q : PollState) : PollState :=
  let number := q.polls + 1
  { q with
    polls := number
    stopped := q.stopped || s.stopAtPoll == some number || s.answers.length < number }

/-- The surroundings that answer from a script. -/
def surroundings (s : PollScript) : Surroundings PollState where
  now q := (q.clock, q)
  isStopped q := (q.stopped, q)
  poll q := (s.answers[q.polls]?.join, s.afterPoll q)
  receive q := (.nothing, q)
  sleep n q := { q with clock := q.clock + n }

/-- Rehearses a wait. -/
def rehearse (s : PollScript) (expected : Nat) (policy : RetryPolicy) :
    Option WaitOutcome × PollState :=
  s.surroundings.awaitIntents expected policy (s.answers.length + 2) ⟨0, 0, s.stoppedBefore⟩

end PollScript

end BackboneLab
