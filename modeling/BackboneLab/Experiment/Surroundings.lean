import BackboneLab.Ip.Address

/-!
# Surroundings of a wait

What a wait depends on and cannot decide: the clock, the stop flag, the controller, the datagrams that
arrive, and how long a sleep really takes. Each question leads to a new state of the surroundings, so the
flag may be set and time may pass at any moment. A `Course` answers every question from the list of all
earlier ones, so that a wait along a course ends with its own record.
-/

namespace BackboneLab

/-- What a short wait for a datagram brings. -/
inductive Reception
  | datagram (sender : Ipv4)
  | nothing
  /-- The socket cannot be read. -/
  | failed
deriving DecidableEq, Inhabited

/-- What a wait asks of the world around it. -/
structure Surroundings (σ : Type) where
  /-- The time on the clock in nanoseconds. -/
  now : σ → Nat × σ
  /-- Whether the stop flag is set. -/
  isStopped : σ → Bool × σ
  /-- The number of intents that the controller has installed, if it tells it. -/
  poll : σ → Option Nat × σ
  /-- What has arrived within the time between two looks at the stop flag. -/
  receive : σ → Reception × σ
  /-- Sleeps for so many nanoseconds. -/
  sleep : Nat → σ → σ

/-- A question that was asked, with its answer. -/
inductive Observation
  | clock (time : Nat)
  | flag (stopped : Bool)
  | answer (count : Option Nat)
  | received (reception : Reception)
  | slept (nanos : Nat)
deriving DecidableEq, Inhabited

/-- How the surroundings answer after the given questions, of which the latest stands first. -/
structure Course where
  time : List Observation → Nat
  stopped : List Observation → Bool
  count : List Observation → Option Nat
  reception : List Observation → Reception

/-- Surroundings that follow a course and record every question. -/
def Course.surroundings (c : Course) : Surroundings (List Observation) where
  now h := (c.time h, .clock (c.time h) :: h)
  isStopped h := (c.stopped h, .flag (c.stopped h) :: h)
  poll h := (c.count h, .answer (c.count h) :: h)
  receive h := (c.reception h, .received (c.reception h) :: h)
  sleep n h := .slept n :: h

end BackboneLab
