import BackboneLab.Experiment.Surroundings
import BackboneLab.Time.Span

/-!
# Naps

A nap is a sleep that a stop flag ends early. It consists of short sleeps, and the flag is looked at
before each of them.
-/

namespace BackboneLab

/-- The longest time between two looks at the stop flag, in nanoseconds. -/
def napStep : Nat := 100 * 1000000

/-- How many sleeps a nap consists of at most, if no sleep is shorter than it should be. -/
def napSleeps (d : Span) : Nat := (d.nanos + (napStep - 1)) / napStep

namespace Surroundings

variable {σ : Type}

/-- Sleeps until the clock shows the deadline or the flag is set, and says whether a given number of
rounds was enough for that. -/
def napUntil (w : Surroundings σ) (deadline : Nat) : Nat → σ → Bool × σ
  | 0, s => (false, s)
  | rounds + 1, s =>
    match w.now s with
    | (time, s) =>
      if deadline ≤ time then (true, s)
      else
        match w.isStopped s with
        | (true, s) => (true, s)
        | (false, s) => w.napUntil deadline rounds (w.sleep (min napStep (deadline - time)) s)

/-- Naps for a span of time, and says whether the nap ended in as many sleeps as it should have. -/
def nap (w : Surroundings σ) (d : Span) (s : σ) : Bool × σ :=
  match w.now s with
  | (time, s) => w.napUntil (time + d.nanos) (napSleeps d + 1) s

end Surroundings

end BackboneLab
