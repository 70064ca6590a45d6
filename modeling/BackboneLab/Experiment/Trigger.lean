import BackboneLab.Experiment.Fault
import BackboneLab.Experiment.Surroundings

/-!
# The trigger

The traffic begins when a datagram arrives, whatever it holds. A wait for it can be ended by the stop
flag, which is looked at before every reception. Since the wait may never end, it is given a number of
rounds, and has no outcome if they are not enough.
-/

namespace BackboneLab

/-- What a trigger holds when this program sends it. -/
def triggerPayload : String := "start"

namespace Surroundings

variable {σ : Type}

/-- Waits for a datagram, and tells its sender. -/
def receiveTrigger (w : Surroundings σ) : Nat → σ → Option (Except ExperimentFault Ipv4) × σ
  | 0, s => (none, s)
  | rounds + 1, s =>
    match w.receive s with
    | (.datagram sender, s) => (some (.ok sender), s)
    | (.failed, s) => (some (.error .inaccessible), s)
    | (.nothing, s) => w.receiveTrigger rounds s

/-- Waits for a datagram or for the stop flag, and tells the sender if there was a datagram. -/
def awaitTrigger (w : Surroundings σ) :
    Nat → σ → Option (Except ExperimentFault (Option Ipv4)) × σ
  | 0, s => (none, s)
  | rounds + 1, s =>
    match w.isStopped s with
    | (true, s) => (some (.ok none), s)
    | (false, s) =>
      match w.receive s with
      | (.datagram sender, s) => (some (.ok (some sender)), s)
      | (.failed, s) => (some (.error .inaccessible), s)
      | (.nothing, s) => w.awaitTrigger rounds s

end Surroundings

end BackboneLab
