import BackboneLab.Proofs.Time.Span
import BackboneLab.Proofs.Traffic.Schedule
import Mathlib.Tactic.Ring

/-!
# Which matrices can be scheduled

The demands of a matrix are tested in their order, first for flaws (`Demand.IsFlawed`), then for their
duration (`IsTooLong`), and the first one that fails a test is reported (`IsFirst`). `BuildEnd` collects
the ways in which scheduling a matrix ends. The durations of a schedule are exact (`DemandSchedule.Plays`):
all sums that are tested are those that are added up later. The main statement is `schedule_build_end`.
-/

namespace BackboneLab

/-! ## The first item with a property -/

/-- An item is the first one of a list that has a property. -/
def IsFirst {α : Type} (P : α → Prop) (x : α) (l : List α) : Prop :=
  ∃ before after, l = before ++ x :: after ∧ P x ∧ ∀ y ∈ before, ¬ P y

section
variable {α : Type} {P : α → Prop} {x y : α} {l : List α}

theorem IsFirst.head (hx : P x) : IsFirst P x (x :: l) := ⟨[], l, rfl, hx, nofun⟩

theorem IsFirst.cons (hy : ¬ P y) (h : IsFirst P x l) : IsFirst P x (y :: l) := by
  obtain ⟨before, after, rfl, hx, hbefore⟩ := h
  exact ⟨y :: before, after, rfl, hx, List.forall_mem_cons.2 ⟨hy, hbefore⟩⟩

/-- The first item with a property in a list that is made of another one. -/
theorem IsFirst.of_map {β : Type} {P : β → Prop} {f : α → β} {z : β}
    (h : IsFirst P z (l.map f)) : ∃ x, z = f x ∧ IsFirst (fun x => P (f x)) x l := by
  obtain ⟨before, after, hl, hz, hbefore⟩ := h
  obtain ⟨l₁, l₂, rfl, rfl, hl₂⟩ := List.map_eq_append_iff.1 hl
  obtain ⟨x, l₃, rfl, rfl, rfl⟩ := List.map_eq_cons_iff.1 hl₂
  exact ⟨x, rfl, l₁, l₃, rfl, hz, fun y hy => hbefore _ (List.mem_map_of_mem hy)⟩

end

/-! ## Demands that cannot be played -/

/-- Why a demand cannot be played, given that no reason tested before holds. -/
inductive Demand.IsFlawed (d : Demand) : DemandFlaw → Prop
  | sameHost (same : d.source = d.destination) : IsFlawed d .sameHost
  | noBandwidth (hosts : d.source ≠ d.destination) (none : d.bandwidths = []) : IsFlawed d .noBandwidth
  | invalidBandwidth {b : Bandwidth} (hosts : d.source ≠ d.destination) (some : d.bandwidths ≠ [])
      (mem : b ∈ d.bandwidths) (invalid : b.isFinite = false ∨ b < 0) : IsFlawed d .invalidBandwidth

/-- A demand without flaws has bandwidths. -/
theorem Demand.bandwidths_ne_nil {d : Demand} (h : ∀ flaw, ¬ d.IsFlawed flaw) : d.bandwidths ≠ [] := by
  intro hnone
  by_cases hosts : d.source = d.destination
  · exact h _ (.sameHost hosts)
  · exact h _ (.noBandwidth hosts hnone)

/-- A demand with so many bandwidths takes longer than a span of time can be, or has too many of them to
tell. -/
def IsTooLong (interval : Span) (bandwidths : Nat) : Prop :=
  2 ^ 32 ≤ bandwidths - 1 ∨ Span.longest.nanos < (bandwidths + 2) * interval.nanos

namespace DemandMatrix

theorem isBandwidth_eq_false_iff {b : Bandwidth} :
    isBandwidth b = false ↔ b.isFinite = false ∨ b < 0 := by
  rw [isBandwidth, Bool.and_eq_false_iff, Bool.not_eq_false', decide_eq_true_iff]

theorem flaw?_eq_some_iff {d : Demand} {flaw : DemandFlaw} :
    flaw? d = some flaw ↔ d.IsFlawed flaw := by
  constructor
  · intro h
    rw [flaw?] at h
    split at h
    next same => cases h; exact .sameHost same
    next hosts =>
    split at h
    next none => cases h; exact .noBandwidth hosts none
    next some =>
    split at h
    next => cases h
    next hall =>
      cases h
      obtain ⟨b, mem, hb⟩ := List.all_eq_false.1 (Bool.eq_false_iff.2 hall)
      exact .invalidBandwidth hosts some mem (isBandwidth_eq_false_iff.1 (Bool.eq_false_iff.2 hb))
  · intro h
    cases h with
    | sameHost same => rw [flaw?, if_pos same]
    | noBandwidth hosts none => rw [flaw?, if_neg hosts, if_pos none]
    | @invalidBandwidth b hosts some mem invalid =>
      have hall : d.bandwidths.all isBandwidth ≠ true := fun hall => by
        rw [List.all_eq_true] at hall
        exact absurd (isBandwidth_eq_false_iff.2 invalid) (by simp [hall b mem])
      rw [flaw?, if_neg hosts, if_neg some, if_neg hall]

/-- A check reports nothing, or the first demand with a flaw. -/
theorem check_end (ds : List Demand) :
    (check flaw? ds = .ok () ∧ ∀ d ∈ ds, ∀ flaw, ¬ d.IsFlawed flaw) ∨
      ∃ d flaw, IsFirst (fun d => ∃ flaw, d.IsFlawed flaw) d ds ∧ d.IsFlawed flaw ∧
        check flaw? ds = .error (.invalidDemand d.source d.destination flaw) := by
  induction ds with
  | nil => exact .inl ⟨rfl, nofun⟩
  | cons d ds ih =>
    cases hflaw : flaw? d with
    | some flaw =>
      have hflawed := flaw?_eq_some_iff.1 hflaw
      exact .inr ⟨d, flaw, .head ⟨flaw, hflawed⟩, hflawed, by rw [check, hflaw]⟩
    | none =>
      have hsound : ∀ flaw, ¬ d.IsFlawed flaw := fun flaw hflawed => by
        rw [flaw?_eq_some_iff.2 hflawed] at hflaw
        cases hflaw
      rw [check, hflaw]
      rcases ih with ⟨hok, hall⟩ | ⟨d', flaw, hfirst, hflawed, herror⟩
      · exact .inl ⟨hok, List.forall_mem_cons.2 ⟨hsound, hall⟩⟩
      · exact .inr ⟨d', flaw, hfirst.cons fun ⟨flaw, h⟩ => hsound flaw h, hflawed, herror⟩

end DemandMatrix

/-! ## How long a demand takes -/

/-- What the schedule of a demand is: a step of one interval for each bandwidth but the last one, whose
step takes three intervals. The time that the steps take is the exact sum, at which a checked addition
arrives as well. -/
structure DemandSchedule.Plays (interval : Span) (d : Demand) (x : DemandSchedule) : Prop where
  source : x.source = d.source
  destination : x.destination = d.destination
  bandwidths : x.steps.map (fun step => (step.destination, step.bandwidth)) =
    d.bandwidths.map fun b => (d.destination, b)
  durations : x.steps.map (fun step => step.duration.nanos) =
    List.replicate (d.bandwidths.length - 1) interval.nanos ++ [3 * interval.nanos]
  total : x.totalDuration.nanos = (d.bandwidths.length + 2) * interval.nanos
  unsaturated : (x.steps.map TrafficStep.duration).foldlM Span.add? .zero = some x.totalDuration

namespace Schedule

variable {interval : Span}

/-- The time that all steps of a demand take. -/
theorem total_eq {steps : Nat} (h : 1 ≤ steps) :
    interval.nanos * (steps - 1) + interval.nanos * 3 = (steps + 2) * interval.nanos := by
  obtain ⟨k, rfl⟩ : ∃ k, steps = k + 1 := ⟨steps - 1, by omega⟩
  rw [Nat.add_sub_cancel]
  ring

/-- The last step of a demand has a duration unless the demand takes too long. -/
theorem lastDuration?_eq_some_iff {steps : Nat} {last : Span} (h : 1 ≤ steps) :
    lastDuration? interval steps = some last ↔
      ¬ IsTooLong interval steps ∧ last.nanos = 3 * interval.nanos := by
  rw [lastDuration?, IsTooLong, not_or, Nat.not_le, Nat.not_lt, ← total_eq h]
  split
  next hmany => exact iff_of_false nofun fun hshort => absurd hmany (Nat.not_le.2 hshort.1.1)
  next hfew =>
    simp only [Option.bind_eq_bind, Option.bind_eq_some_iff, Span.times?, Span.add?,
      Span.ofNanos?_eq_some_iff, lastStepFactor, Option.pure_def, Option.some.injEq]
    constructor
    · rintro ⟨before, hbefore, last, hlast, total, htotal, rfl⟩
      have hlong := Span.exists_nanos_iff.1 ⟨total, htotal⟩
      rw [hbefore, hlast] at hlong
      exact ⟨⟨Nat.not_le.1 hfew, hlong⟩, by rw [hlast, Nat.mul_comm]⟩
    · rintro ⟨⟨-, hlong⟩, hlast⟩
      obtain ⟨total, htotal⟩ := Span.exists_nanos_iff.2 hlong
      obtain ⟨before, hbefore⟩ := Span.exists_nanos_iff.2 (Nat.le_of_add_right_le hlong)
      rw [Nat.mul_comm] at hlast
      exact ⟨before, hbefore, last, hlast, total, by rw [htotal, hbefore, hlast], rfl⟩

/-- Three times a third of the longest span is not too long. -/
example : lastDuration? ⟨(UInt64.size * nanosPerSecond - 1) / 3, by decide⟩ 1 = some .longest := by
  decide

/-- The steps of a demand last one interval each, except for the last one. -/
theorem map_duration_stepsOf (destination : Ipv4) (interval last : Span) {bs : List Bandwidth} (h : bs ≠ []) :
    (stepsOf destination interval last bs).map TrafficStep.duration =
      List.replicate (bs.length - 1) interval ++ [last] := by
  induction bs with
  | nil => exact absurd rfl h
  | cons b bs ih =>
    cases bs with
    | nil => rfl
    | cons b' bs =>
      rw [stepsOf, List.map_cons, ih (List.cons_ne_nil _ _)]
      · rfl
      · simp

/-- The steps of a demand have its bandwidths, and go to its destination. -/
theorem map_bandwidth_stepsOf (destination : Ipv4) (last : Span) (bs : List Bandwidth) :
    (stepsOf destination interval last bs).map (fun step => (step.destination, step.bandwidth)) =
      bs.map fun b => (destination, b) := by
  induction bs with
  | nil => rfl
  | cons b bs ih =>
    cases bs with
    | nil => rfl
    | cons b' bs =>
      rw [stepsOf, List.map_cons, ih]
      · rfl
      · simp

/-- The steps of a demand have the exact sum of their durations as the checked one. -/
theorem foldlM_durations (destination : Ipv4) {last total : Span} {bs : List Bandwidth} (h : bs ≠ [])
    (hlast : last.nanos = 3 * interval.nanos) (htotal : total.nanos = (bs.length + 2) * interval.nanos) :
    ((stepsOf destination interval last bs).map TrafficStep.duration).foldlM Span.add? .zero =
      some total := by
  rw [map_duration_stepsOf destination interval last h, Span.foldlM_add?_eq_some_iff, htotal,
    ← total_eq (List.length_pos_iff.2 h), List.map_append, List.map_replicate, List.sum_append,
    List.sum_replicate_nat, List.map_singleton, List.sum_singleton, hlast, Span.zero]
  ring

/-- The steps of a demand that does not take too long are played exactly. -/
theorem plays_stepsOf {d : Demand} {last : Span} (h : d.bandwidths ≠ [])
    (hshort : ¬ IsTooLong interval d.bandwidths.length) (hlast : last.nanos = 3 * interval.nanos) :
    DemandSchedule.Plays interval d
      ⟨d.source, d.destination, stepsOf d.destination interval last d.bandwidths⟩ := by
  rw [IsTooLong, not_or, Nat.not_lt] at hshort
  obtain ⟨total, htotal⟩ := Span.exists_nanos_iff.2 hshort.2
  have hsum := foldlM_durations d.destination h hlast htotal
  have htotal' : DemandSchedule.totalDuration ⟨d.source, d.destination,
      stepsOf d.destination interval last d.bandwidths⟩ = total := by
    rw [DemandSchedule.totalDuration, ← List.foldl_map]
    exact Span.foldl_addUpTo hsum
  refine ⟨rfl, rfl, map_bandwidth_stepsOf .., ?_, htotal' ▸ htotal, htotal'.symm ▸ hsum⟩
  have hnanos := congrArg (List.map Span.nanos) (map_duration_stepsOf d.destination interval last h)
  rw [List.map_map, List.map_append, List.map_replicate, List.map_singleton, hlast] at hnanos
  exact hnanos

/-- A demand with bandwidths takes too long, or is scheduled exactly. -/
theorem ofDemand_end (interval : Span) {d : Demand} (h : d.bandwidths ≠ []) :
    (∃ x, ofDemand interval d = .ok x ∧ x.Plays interval d ∧
      ¬ IsTooLong interval d.bandwidths.length) ∨
    (ofDemand interval d = .error (.invalidDemand d.source d.destination .tooLong) ∧
      IsTooLong interval d.bandwidths.length) := by
  have hsteps : 1 ≤ d.bandwidths.length := List.length_pos_iff.2 h
  rw [ofDemand]
  cases hlast : lastDuration? interval d.bandwidths.length with
  | none =>
    refine .inr ⟨rfl, by_contra fun hshort => ?_⟩
    have hlong := hshort
    rw [IsTooLong, not_or, Nat.not_lt, ← total_eq hsteps] at hlong
    obtain ⟨last, hnanos⟩ := Span.exists_nanos_iff.2 ((Nat.le_add_left ..).trans hlong.2)
    rw [Nat.mul_comm] at hnanos
    rw [(lastDuration?_eq_some_iff hsteps).2 ⟨hshort, hnanos⟩] at hlast
    cases hlast
  | some last =>
    obtain ⟨hshort, hnanos⟩ := (lastDuration?_eq_some_iff hsteps).1 hlast
    exact .inl ⟨_, rfl, plays_stepsOf h hshort hnanos, hshort⟩

/-! ## Scheduling a matrix -/

/-- Demands with bandwidths are all scheduled, or the first one that takes too long is reported. -/
theorem addAll_end {s : Schedule} {ds : List Demand} (h : ∀ d ∈ ds, d.bandwidths ≠ []) :
    ((∃ s', addAll interval s ds = .ok s') ∧ ∀ d ∈ ds, ¬ IsTooLong interval d.bandwidths.length) ∨
      ∃ d, IsFirst (fun d => IsTooLong interval d.bandwidths.length) d ds ∧
        addAll interval s ds = .error (.invalidDemand d.source d.destination .tooLong) := by
  induction ds generalizing s with
  | nil => exact .inl ⟨⟨s, rfl⟩, nofun⟩
  | cons d ds ih =>
    obtain ⟨hd, hds⟩ := List.forall_mem_cons.1 h
    rcases ofDemand_end interval hd with ⟨x, hx, -, hshort⟩ | ⟨herror, hlong⟩
    · rw [addAll, hx]
      rcases ih hds with ⟨hok, hall⟩ | ⟨d', hfirst, herror⟩
      · exact .inl ⟨hok, List.forall_mem_cons.2 ⟨hshort, hall⟩⟩
      · exact .inr ⟨d', hfirst.cons hshort, herror⟩
    · exact .inr ⟨d, .head hlong, by rw [addAll, herror]; rfl⟩

/-- The scheduled demands are played exactly. -/
theorem plays_of_ofDemand {d : Demand} {x : DemandSchedule} (hd : d.bandwidths ≠ [])
    (h : ofDemand interval d = .ok x) : x.Plays interval d := by
  rcases ofDemand_end interval hd with ⟨x', hx', hplays, -⟩ | ⟨herror, -⟩
  · rw [h] at hx'
    cases hx'
    exact hplays
  · rw [h] at herror
    cases herror

/-- The total duration of a schedule is the greatest one of its demands. -/
theorem nanos_totalDuration (s : Schedule) :
    s.totalDuration.nanos = ((s.demands.map fun x => x.totalDuration.nanos).max?).getD 0 := by
  have hmax := List.foldl_max (l := s.demands.map fun x => x.totalDuration.nanos) (a := 0)
  rw [Nat.zero_max] at hmax
  rw [totalDuration, Span.nanos_foldl_max, List.map_map]
  exact hmax

end Schedule

/-- The ways in which scheduling a matrix ends. -/
inductive BuildEnd (m : DemandMatrix) (interval : Span) : Except Fault Schedule → Prop
  /-- There is no interval. The matrix is not even tested. -/
  | noInterval (zero : interval = .zero) : BuildEnd m interval (.error .invalidInterval)
  /-- A demand is the first one with a flaw. -/
  | flawed {d : Demand} {flaw : DemandFlaw} (some : interval ≠ .zero)
      (first : IsFirst (fun d => ∃ flaw, d.IsFlawed flaw) d m.toList) (is : d.IsFlawed flaw) :
      BuildEnd m interval (.error (.invalidDemand d.source d.destination flaw))
  /-- All demands are sound, and one of them is the first one that takes too long. -/
  | tooLong {d : Demand} (some : interval ≠ .zero) (sound : ∀ d ∈ m.toList, ∀ flaw, ¬ d.IsFlawed flaw)
      (first : IsFirst (fun d => IsTooLong interval d.bandwidths.length) d m.toList) :
      BuildEnd m interval (.error (.invalidDemand d.source d.destination .tooLong))
  /-- All demands are sound and short enough, and each of them is scheduled. -/
  | scheduled {s : Schedule} (some : interval ≠ .zero)
      (sound : ∀ d ∈ m.toList, ∀ flaw, ¬ d.IsFlawed flaw)
      (short : ∀ d ∈ m.toList, ¬ IsTooLong interval d.bandwidths.length)
      (plays : List.Forall₂ (fun d x => x.Plays interval d) m.toList s.demands)
      (total : s.totalDuration.nanos =
        ((m.toList.map fun d => (d.bandwidths.length + 2) * interval.nanos).max?).getD 0) :
      BuildEnd m interval (.ok s)

namespace Schedule

variable {m : DemandMatrix} {interval : Span}

theorem build_eq (h : interval ≠ .zero) :
    build m interval = m.validate.bind fun _ => addAll interval .empty m.toList := by
  rw [build, if_neg h]
  rfl

/-- Of a matrix that passes the tests, every demand has bandwidths. -/
theorem bandwidths_ne_nil_of_validate (h : m.validate = .ok ()) : ∀ d ∈ m.toList, d.bandwidths ≠ [] := by
  rcases DemandMatrix.check_end m.toList with ⟨-, sound⟩ | ⟨d, flaw, -, -, herror⟩
  · exact fun d hd => d.bandwidths_ne_nil (sound d hd)
  · rw [DemandMatrix.validate, herror] at h
    cases h

/-- A matrix that passes the tests is scheduled, or the first demand that takes too long is reported. -/
theorem build_of_validate (hsome : interval ≠ .zero) (hvalid : m.validate = .ok ()) :
    ((∃ s, build m interval = .ok s) ∧ ∀ d ∈ m.toList, ¬ IsTooLong interval d.bandwidths.length) ∨
      ∃ d, IsFirst (fun d => IsTooLong interval d.bandwidths.length) d m.toList ∧
        build m interval = .error (.invalidDemand d.source d.destination .tooLong) := by
  rw [build_eq hsome, hvalid]
  exact addAll_end (bandwidths_ne_nil_of_validate hvalid)

/-- Every demand of a schedule that was built of sound demands is played. -/
theorem forall₂_plays {s : Schedule} (sound : ∀ d ∈ m.toList, d.bandwidths ≠ [])
    (h : build m interval = .ok s) :
    List.Forall₂ (fun d x => x.Plays interval d) m.toList s.demands := by
  have hdemands := build_forall₂ h
  exact List.forall₂_iff_get.2 ⟨hdemands.length_eq, fun i h₁ h₂ =>
    plays_of_ofDemand (sound _ (List.get_mem ..)) (hdemands.get h₁ h₂)⟩

theorem build_end (m : DemandMatrix) (interval : Span) : BuildEnd m interval (build m interval) := by
  by_cases hzero : interval = .zero
  · subst hzero
    exact .noInterval rfl
  rcases DemandMatrix.check_end m.toList with ⟨hok, sound⟩ | ⟨d, flaw, hfirst, hflawed, herror⟩
  · rcases build_of_validate hzero hok with ⟨⟨s, hs⟩, hshort⟩ | ⟨d, hfirst, herror⟩
    · have hplays := forall₂_plays (fun d hd => d.bandwidths_ne_nil (sound d hd)) hs
      rw [hs]
      refine .scheduled hzero sound hshort hplays ?_
      rw [nanos_totalDuration, map_eq_of_forall₂ hplays DemandSchedule.Plays.total]
    · rw [herror]
      exact .tooLong hzero sound hfirst
  · rw [build_eq hzero, DemandMatrix.validate, herror]
    exact .flawed hzero hfirst hflawed

/-- Every demand of a schedule is played exactly. -/
theorem plays_of_build {s : Schedule} (h : build m interval = .ok s) :
    List.Forall₂ (fun d x => x.Plays interval d) m.toList s.demands := by
  have hend := build_end m interval
  rw [h] at hend
  cases hend with
  | scheduled _ _ _ plays _ => exact plays

end Schedule

/-- Scheduling a matrix fails for the lack of an interval if and only if there is none, whatever the
matrix. Otherwise the demands are tested in the order of their sources and destinations, and all of them
are scheduled, or the first flawed one is reported, or else the first one that takes too long. -/
theorem schedule_build_end (m : DemandMatrix) (interval : Span) :
    (Schedule.build m interval = .error .invalidInterval ↔ interval = .zero) ∧
      (m.toList.Pairwise fun d d' => compare d.hosts d'.hosts = .lt) ∧
      BuildEnd m interval (Schedule.build m interval) := by
  refine ⟨⟨fun h => by_contra fun hsome => ?_, fun h => ?_⟩, ?_, Schedule.build_end m interval⟩
  · have hend := Schedule.build_end m interval
    rw [h] at hend
    cases hend with
    | noInterval hzero => exact hsome hzero
  · subst h
    rfl
  · exact List.pairwise_map.2 m.series.ordered

end BackboneLab
