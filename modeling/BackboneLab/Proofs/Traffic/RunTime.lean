import BackboneLab.Proofs.Traffic.Feasibility
import BackboneLab.Proofs.Traffic.Generator
import Mathlib.Data.Nat.GCD.Basic

/-!
# How long the commands of a schedule run

A client command is told in whole seconds for how long it runs (`Generator.seconds?_clientCommand`), while
a schedule takes any span of time as its interval. So a command runs for as long as its step is scheduled
if and only if the interval is a whole number of seconds, whatever the tool (`run_time_scheduled_iff`). An
interval of half a second shows what happens otherwise (`run_time_half_second`).
-/

namespace BackboneLab

namespace HostCommand

/-- The seconds for which a client command runs. -/
def seconds? (c : HostCommand) : Option Nat := do readNat? (← argBehind? "-t" c.args).toList

/-- A client command runs for exactly as long as a span of time. -/
def RunsFor (c : HostCommand) (d : Span) : Prop :=
  ∃ t, c.seconds? = some t ∧ t * nanosPerSecond = d.nanos

theorem runsFor_iff {c : HostCommand} {d : Span} {t : Nat} (h : c.seconds? = some t) :
    c.RunsFor d ↔ t * nanosPerSecond = d.nanos := by
  rw [RunsFor, h]
  exact ⟨fun ⟨_, heq, ht⟩ => Option.some.inj heq ▸ ht, fun ht => ⟨t, rfl, ht⟩⟩

end HostCommand

namespace Generator

open HostCommand

/-- A client command is told the whole seconds of its step. -/
theorem seconds?_clientCommand (source : Ipv4) (step : TrafficStep) (g : Generator) :
    (clientCommand source step g).seconds? = some step.duration.seconds := by
  have hlimited : argBehind? "-t" (limitedArgs source step) = some (decimal step.duration.seconds) := by
    rw [limitedArgs, argBehind?_skip (by decide), argBehind?_skip (address_ne (by decide) _),
      argBehind?_skip (by decide), argBehind?_skip (bandwidthArg_ne (by decide) _),
      argBehind?_skip (by decide), argBehind?_skip (decimal_ne (by decide) _), argBehind?_self]
  have hargs : argBehind? "-t" (clientCommand source step g).args =
      some (decimal step.duration.seconds) := by
    cases g with
    | iperf3 => exact hlimited
    | iperf2 => exact (argBehind?_skip (by decide) _ _).trans hlimited
    | ditg =>
      rw [clientCommand, argBehind?_skip (by decide), argBehind?_skip (by decide),
        argBehind?_skip (by decide), argBehind?_skip (address_ne (by decide) _),
        argBehind?_skip (by decide), argBehind?_skip (decimal_ne (by decide) _),
        argBehind?_skip (by decide), argBehind?_skip (decimal_ne (by decide) _), argBehind?_self]
  rw [seconds?, hargs]
  exact readNat?_decimal _

end Generator

namespace DemandSchedule

variable {interval : Span} {d : Demand} {x : DemandSchedule}

/-- A step lasts one interval or three. -/
theorem Plays.duration_of_mem (h : x.Plays interval d) {step : TrafficStep} (hstep : step ∈ x.steps) :
    step.duration.nanos = interval.nanos ∨ step.duration.nanos = 3 * interval.nanos := by
  have hmem : step.duration.nanos ∈ x.steps.map fun step => step.duration.nanos :=
    List.mem_map_of_mem hstep
  rw [h.durations] at hmem
  rcases List.mem_append.1 hmem with hmem | hmem
  · exact .inl (List.eq_of_mem_replicate hmem)
  · exact .inr (List.mem_singleton.1 hmem)

/-- Three intervals are a whole number of seconds only if one of them is. -/
theorem Plays.subsecond_eq_zero_iff (h : x.Plays interval d) {step : TrafficStep}
    (hstep : step ∈ x.steps) : step.duration.subsecond = 0 ↔ interval.subsecond = 0 := by
  have hcoprime : Nat.Coprime nanosPerSecond 3 := by decide
  rw [Span.subsecond, Span.subsecond, ← Nat.dvd_iff_mod_eq_zero, ← Nat.dvd_iff_mod_eq_zero]
  rcases h.duration_of_mem hstep with hduration | hduration
  · rw [hduration]
  · rw [hduration, Nat.Coprime.dvd_mul_left hcoprime]

/-- A demand has a last step. -/
theorem Plays.steps_ne_nil (h : x.Plays interval d) : x.steps ≠ [] := by
  intro hnone
  have hdurations := h.durations
  rw [hnone] at hdurations
  exact absurd hdurations.symm (List.append_ne_nil_of_right_ne_nil _ (List.cons_ne_nil _ _))

/-- The seconds that the commands of a demand are told make up its time only if the interval is a whole
number of seconds. -/
theorem Plays.sum_seconds_mul_eq_iff (h : x.Plays interval d) :
    (x.steps.map fun step => step.duration.seconds).sum * nanosPerSecond = x.totalDuration.nanos ↔
      interval.subsecond = 0 := by
  have htotal := Span.foldlM_add?_eq_some_iff.1 h.unsaturated
  have hzero : Span.zero.nanos = 0 := rfl
  have hseconds : (x.steps.map fun step => step.duration.seconds) =
      (x.steps.map TrafficStep.duration).map Span.seconds := by rw [List.map_map]; rfl
  rw [hzero, Nat.zero_add] at htotal
  rw [htotal, hseconds, Span.sum_seconds_mul_eq_iff, List.forall_mem_map]
  constructor
  · intro hall
    obtain ⟨step, hstep⟩ := List.exists_mem_of_ne_nil _ h.steps_ne_nil
    exact (h.subsecond_eq_zero_iff hstep).1 (hall step hstep)
  · intro hwhole step hstep
    exact (h.subsecond_eq_zero_iff hstep).2 hwhole

end DemandSchedule

/-- The nanoseconds for which the steps of a demand are scheduled. -/
def DemandSchedule.durations (x : DemandSchedule) : List Nat :=
  x.steps.map fun step => step.duration.nanos

/-- A schedule with the durations of a single demand has a single demand with these durations. -/
theorem Schedule.exists_demand_of_durations {r : Except Fault Schedule} {durations : List Nat}
    (h : (r.map fun s => s.demands.map DemandSchedule.durations).toOption = some [durations]) :
    ∃ s x, r = .ok s ∧ s.demands = [x] ∧ x.durations = durations := by
  cases r with
  | error f => cases h
  | ok s =>
    obtain ⟨x, hx, hdurations⟩ := List.map_eq_singleton_iff.1 (Option.some.inj h)
    exact ⟨s, x, rfl, hx, hdurations⟩

/-- The commands of a schedule run for the scheduled time if and only if the interval is a whole number of
seconds: each of them is told the whole seconds of its step, which are all of the step only then, and
together they take the time of their demand only then. -/
theorem run_time_scheduled_iff {m : DemandMatrix} {interval : Span} {s : Schedule}
    (h : Schedule.build m interval = .ok s) (g : Generator) {x : DemandSchedule} (hx : x ∈ s.demands) :
    (∀ step ∈ x.steps, (g.clientCommand x.source step).seconds? = some step.duration.seconds ∧
      ((g.clientCommand x.source step).RunsFor step.duration ↔ interval.subsecond = 0)) ∧
    ∃ times : List Nat, (x.steps.map fun step => (g.clientCommand x.source step).seconds?) = times.map some ∧
      (times.sum * nanosPerSecond = x.totalDuration.nanos ↔ interval.subsecond = 0) := by
  obtain ⟨d, -, hplays⟩ := exists_of_mem_forall₂ (Schedule.plays_of_build h) hx
  have hseconds := fun step => Generator.seconds?_clientCommand x.source step g
  refine ⟨fun step hstep => ⟨hseconds step, ?_⟩, x.steps.map fun step => step.duration.seconds, ?_, ?_⟩
  · rw [HostCommand.runsFor_iff (hseconds step), Span.seconds_mul_eq_iff,
      hplays.subsecond_eq_zero_iff hstep]
  · rw [List.map_map]
    exact List.map_congr_left fun step _ => hseconds step
  · exact hplays.sum_seconds_mul_eq_iff

/-- With an interval of ten seconds, the second of two steps runs for half a minute. -/
theorem run_time_scheduled_iff_ten_seconds :
    let h (k : UInt8) : Ipv4 := ⟨192, 168, k, 1⟩
    let m := DemandMatrix.ofList [⟨h 1, h 2, [2.5, 1]⟩]
    ∃ s x, Schedule.build m (.ofSeconds 10) = .ok s ∧ s.demands = [x] ∧
      x.durations = [10000000000, 30000000000] ∧
      ∀ step ∈ x.steps, (Generator.iperf3.clientCommand x.source step).RunsFor step.duration := by
  intro h m
  obtain ⟨s, x, hs, hx, hdurations⟩ : ∃ s x, Schedule.build m (.ofSeconds 10) = .ok s ∧
      s.demands = [x] ∧ x.durations = [10000000000, 30000000000] :=
    Schedule.exists_demand_of_durations (by decide +kernel)
  refine ⟨s, x, hs, hx, hdurations, fun step hstep => ?_⟩
  have hmem : x ∈ s.demands := hx ▸ List.mem_singleton_self x
  exact ((run_time_scheduled_iff hs .iperf3 hmem).1 step hstep).2.2 rfl

/-- With an interval of half a second, the first of two steps is told to run for no time at all and the
second one for two thirds of its time. -/
theorem run_time_half_second :
    let h (k : UInt8) : Ipv4 := ⟨192, 168, k, 1⟩
    let m := DemandMatrix.ofList [⟨h 1, h 2, [1, 2]⟩]
    ∃ s x, Schedule.build m (.ofMillis 500) = .ok s ∧ s.demands = [x] ∧
      x.durations = [500000000, 1500000000] ∧
      (x.steps.map fun step => (Generator.iperf3.clientCommand x.source step).seconds?) =
        [some 0, some 1] ∧
      ¬ ∃ step ∈ x.steps, (Generator.iperf3.clientCommand x.source step).RunsFor step.duration := by
  intro h m
  obtain ⟨s, x, hs, hx, hdurations⟩ : ∃ s x, Schedule.build m (.ofMillis 500) = .ok s ∧
      s.demands = [x] ∧ x.durations = [500000000, 1500000000] :=
    Schedule.exists_demand_of_durations (by decide +kernel)
  have hseconds := fun step => Generator.seconds?_clientCommand x.source step .iperf3
  have htold : (x.steps.map fun step => (Generator.iperf3.clientCommand x.source step).seconds?) =
      x.durations.map fun n => some (n / nanosPerSecond) := by
    rw [DemandSchedule.durations, List.map_map]
    exact List.map_congr_left fun step _ => hseconds step
  refine ⟨s, x, hs, hx, hdurations, by rw [htold, hdurations]; rfl, fun ⟨step, hstep, hruns⟩ => ?_⟩
  have hmem : step.duration.nanos ∈ [500000000, 1500000000] := hdurations ▸ List.mem_map_of_mem hstep
  have hwhole := Span.seconds_mul_eq_iff.1 ((HostCommand.runsFor_iff (hseconds step)).1 hruns)
  rw [Span.subsecond] at hwhole
  revert hwhole
  rcases List.mem_cons.1 hmem with hnanos | hmem
  · rw [hnanos]
    decide
  · rw [List.mem_singleton.1 hmem]
    decide

end BackboneLab
