import BackboneLab.Experiment.Nap
import BackboneLab.Settings.Deployment

/-!
# Waiting for the intents

The controller is polled until it has installed the expected intents. A poll without an answer is
repeated like one with too small a count. The wait ends early when the stop flag is set before a poll or
when the time is up after one. Since it may also never end, it is given a number of rounds, and
`Surroundings.awaitIntents` has no outcome if they are not enough.
-/

namespace BackboneLab

/-- How often the controller is polled, and for how long. -/
structure RetryPolicy where
  interval : Span
  /-- When to give up; without it the wait may last forever. -/
  timeout : Option Span
deriving DecidableEq, Inhabited

/-- Polls every second, forever. -/
def RetryPolicy.default : RetryPolicy := ⟨.ofMillis 1000, none⟩

/-- The policy of the settings. -/
def SyncSettings.retryPolicy (s : SyncSettings) : RetryPolicy := ⟨s.pollInterval, s.pollTimeout⟩

/-- How a wait for the intents ends. -/
inductive WaitOutcome
  /-- The controller has so many intents, at least the expected number. -/
  | reached (count : Nat)
  /-- The time was up; with the last count that the controller told. -/
  | timedOut (last : Option Nat)
  /-- The stop flag was set. -/
  | cancelled
deriving DecidableEq, Inhabited

namespace Surroundings

variable {σ : Type}

/-- Whether the time is up. The clock is only read if there is a timeout. -/
def isTimeUp (w : Surroundings σ) (start : Nat) (timeout : Option Span) (s : σ) : Bool × σ :=
  match timeout with
  | none => (false, s)
  | some limit =>
    match w.now s with
    | (time, s) => (decide (limit.nanos ≤ time - start), s)

/-- Polls at most so many times with a pause between any two polls, given the time at which the wait
began and the last count. The pause says whether it came to its end. -/
def awaitFrom (w : Surroundings σ) (pause : σ → Bool × σ) (expected : Nat) (timeout : Option Span)
    (start : Nat) : Nat → Option Nat → σ → Option WaitOutcome × σ
  | 0, _, s => (none, s)
  | rounds + 1, last, s =>
    match w.isStopped s with
    | (true, s) => (some .cancelled, s)
    | (false, s) =>
      match w.poll s with
      | (answer, s) =>
        match answer.filter (expected ≤ ·) with
        | some count => (some (.reached count), s)
        | none =>
          let last := answer.or last
          match w.isTimeUp start timeout s with
          | (true, s) => (some (.timedOut last), s)
          | (false, s) =>
            match pause s with
            | (true, s) => w.awaitFrom pause expected timeout start rounds last s
            | (false, s) => (none, s)

/-- Waits for the expected number of intents, in at most so many rounds. -/
def awaitIntents (w : Surroundings σ) (expected : Nat) (policy : RetryPolicy) (rounds : Nat)
    (s : σ) : Option WaitOutcome × σ :=
  match w.now s with
  | (start, s) => w.awaitFrom (w.nap policy.interval) expected policy.timeout start rounds none s

end Surroundings

end BackboneLab
