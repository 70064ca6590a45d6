import BackboneLab.Experiment.Bundle
import BackboneLab.Proofs.Traffic.Feasibility

/-!
# Traffic that is played twice in a row

Two variants of an experiment play every demand of the matrix twice. A doubled demand has the flaws of the
demand itself (`Demand.flaw?_doubled`), so a doubled matrix passes the same tests, and it can only take too
long where the matrix did not (`IsTooLong.mono`). If both can be scheduled, then every demand repeats its
traffic (`DemandSchedule.Repeats`), and only the very last step is longer than the others. `DoublingEnd`
collects the ways in which scheduling a matrix and its double ends, and the main statement is
`doubling_repeats_traffic`.
-/

namespace BackboneLab

/-- A demand with its bandwidths twice in a row. -/
def Demand.doubled (d : Demand) : Demand := ⟨d.source, d.destination, d.bandwidths ++ d.bandwidths⟩

theorem Demand.length_le_doubled (d : Demand) : d.bandwidths.length ≤ d.doubled.bandwidths.length := by
  rw [doubled, List.length_append]
  exact Nat.le_add_right ..

namespace DemandMatrix

theorem toList_doubled (m : DemandMatrix) : m.doubled.toList = m.toList.map Demand.doubled := by
  rw [toList, toList, List.map_map]
  exact List.map_map

/-! ## Tests of a doubled matrix -/

/-- No test tells a demand from its double. -/
theorem flaw?_doubled (d : Demand) : flaw? d.doubled = flaw? d := by
  simp only [flaw?, Demand.doubled, List.append_eq_nil_iff, and_self, List.all_append, Bool.and_self]

theorem check_map_doubled (ds : List Demand) : check flaw? (ds.map Demand.doubled) = check flaw? ds := by
  induction ds with
  | nil => rfl
  | cons d ds ih =>
    rw [List.map_cons, check, check, flaw?_doubled, ih]
    rfl

/-- A doubled matrix passes the tests that the matrix passes, or fails for the same demand. -/
theorem validate_doubled (m : DemandMatrix) : m.doubled.validate = m.validate := by
  rw [validate, toList_doubled, check_map_doubled, validate]

end DemandMatrix

/-- With more bandwidths, a demand takes even longer. -/
theorem IsTooLong.mono {interval : Span} {n n' : Nat} (h : IsTooLong interval n) (hle : n ≤ n') :
    IsTooLong interval n' := by
  have hmul : (n + 2) * interval.nanos ≤ (n' + 2) * interval.nanos :=
    Nat.mul_le_mul_right _ (Nat.add_le_add_right hle 2)
  rcases h with hmany | hlong
  · exact .inl (by omega)
  · exact .inr (hlong.trans_le hmul)

/-! ## Schedules of a doubled matrix -/

/-- What a demand sends to whom, step by step. -/
def DemandSchedule.traffic (x : DemandSchedule) : List (Ipv4 × Bandwidth) :=
  x.steps.map fun step => (step.destination, step.bandwidth)

/-- The second schedule of a demand plays what the first one plays, twice in a row. Every step takes one
interval, except for the last one of them all, which takes three. -/
structure DemandSchedule.Repeats (interval : Span) (x y : DemandSchedule) : Prop where
  source : y.source = x.source
  destination : y.destination = x.destination
  traffic : y.traffic = x.traffic ++ x.traffic
  durations : y.steps.map (fun step => step.duration.nanos) =
    List.replicate (2 * x.steps.length - 1) interval.nanos ++ [3 * interval.nanos]
  total : y.totalDuration.nanos + 2 * interval.nanos = 2 * x.totalDuration.nanos

theorem DemandSchedule.Plays.repeats {interval : Span} {d : Demand} {x y : DemandSchedule}
    (hx : x.Plays interval d) (hy : y.Plays interval d.doubled) : x.Repeats interval y := by
  have hsteps : x.steps.length = d.bandwidths.length := by
    have hlength := congrArg List.length hx.bandwidths
    rwa [List.length_map, List.length_map] at hlength
  have hdoubled : d.doubled.bandwidths.length = 2 * x.steps.length := by
    rw [hsteps, Demand.doubled, List.length_append, Nat.two_mul]
  refine ⟨hy.source.trans hx.source.symm, hy.destination.trans hx.destination.symm, ?_, ?_, ?_⟩
  · rw [traffic, traffic, hy.bandwidths, hx.bandwidths]
    exact List.map_append
  · rw [hy.durations, hdoubled]
  · rw [hy.total, hx.total, hdoubled, hsteps]
    ring

/-- How scheduling a matrix ends, and how scheduling its double ends. -/
inductive DoublingEnd (m : DemandMatrix) (interval : Span) :
    Except Fault Schedule → Except Fault Schedule → Prop
  /-- Neither is scheduled, for the same reason: there is no interval, or a demand has a flaw. -/
  | refused {f : Fault} (reason : interval = .zero ∧ f = .invalidInterval ∨ m.validate = .error f) :
      DoublingEnd m interval (.error f) (.error f)
  /-- Both take too long, and a demand may do so in the doubled matrix that did not in the other one. -/
  | tooLong {d d' : Demand} (valid : m.validate = .ok ())
      (first : IsFirst (fun d => IsTooLong interval d.bandwidths.length) d m.toList)
      (first' : IsFirst (fun d => IsTooLong interval d.doubled.bandwidths.length) d' m.toList) :
      DoublingEnd m interval (.error (.invalidDemand d.source d.destination .tooLong))
        (.error (.invalidDemand d'.source d'.destination .tooLong))
  /-- Only the doubled matrix takes too long. -/
  | longer {s : Schedule} {d : Demand} (valid : m.validate = .ok ())
      (short : ∀ d ∈ m.toList, ¬ IsTooLong interval d.bandwidths.length)
      (first : IsFirst (fun d => IsTooLong interval d.doubled.bandwidths.length) d m.toList) :
      DoublingEnd m interval (.ok s) (.error (.invalidDemand d.source d.destination .tooLong))
  /-- Both are scheduled, with the same demands in the same order. -/
  | scheduled {s s' : Schedule} (valid : m.validate = .ok ())
      (repeats : List.Forall₂ (DemandSchedule.Repeats interval) s.demands s'.demands) :
      DoublingEnd m interval (.ok s) (.ok s')

namespace Schedule

variable {m : DemandMatrix} {interval : Span}

/-- A doubled matrix is scheduled, or the first demand whose double takes too long is reported. -/
theorem build_doubled_of_validate (hsome : interval ≠ .zero) (hvalid : m.validate = .ok ()) :
    ((∃ s, build m.doubled interval = .ok s) ∧
        ∀ d ∈ m.toList, ¬ IsTooLong interval d.doubled.bandwidths.length) ∨
      ∃ d, IsFirst (fun d => IsTooLong interval d.doubled.bandwidths.length) d m.toList ∧
        build m.doubled interval = .error (.invalidDemand d.source d.destination .tooLong) := by
  have hend := build_of_validate hsome (m.validate_doubled.trans hvalid)
  rw [m.toList_doubled] at hend
  rcases hend with ⟨hs, hshort⟩ | ⟨_, hfirst, herror⟩
  · exact .inl ⟨hs, fun d hd => hshort _ (List.mem_map_of_mem hd)⟩
  · obtain ⟨d, rfl, hd⟩ := hfirst.of_map
    exact .inr ⟨d, hd, herror⟩

/-- Demands that are played and their doubled counterparts repeat each other's traffic. -/
theorem forall₂_repeats {ds : List Demand} {xs ys : List DemandSchedule}
    (hxs : List.Forall₂ (fun d x => x.Plays interval d) ds xs)
    (hys : List.Forall₂ (fun d y => y.Plays interval d) (ds.map Demand.doubled) ys) :
    List.Forall₂ (DemandSchedule.Repeats interval) xs ys := by
  induction hxs generalizing ys with
  | nil =>
    cases hys
    exact .nil
  | cons hx _ ih =>
    cases hys with
    | cons hy hys => exact .cons (hx.repeats hy) (ih hys)

theorem doubling_end (m : DemandMatrix) (interval : Span) :
    DoublingEnd m interval (build m interval) (build m.doubled interval) := by
  by_cases hzero : interval = .zero
  · subst hzero
    exact .refused (.inl ⟨rfl, rfl⟩)
  cases hvalid : m.validate with
  | error f =>
    rw [build_eq hzero, build_eq hzero, m.validate_doubled, hvalid]
    exact .refused (.inr hvalid)
  | ok _ =>
    rcases build_of_validate hzero hvalid with ⟨⟨s, hs⟩, hshort⟩ | ⟨d, hfirst, herror⟩
    · rcases build_doubled_of_validate hzero hvalid with ⟨⟨s', hs'⟩, -⟩ | ⟨d', hfirst', herror'⟩
      · rw [hs, hs']
        exact .scheduled hvalid (forall₂_repeats (plays_of_build hs) (m.toList_doubled ▸ plays_of_build hs'))
      · rw [hs, herror']
        exact .longer hvalid hshort hfirst'
    · rcases build_doubled_of_validate hzero hvalid with ⟨-, hshort'⟩ | ⟨d', hfirst', herror'⟩
      · -- a demand that takes too long does so all the more when it is doubled
        obtain ⟨before, after, hl, hlong, -⟩ := hfirst
        have hd : d ∈ m.toList := hl ▸ List.mem_append_right _ List.mem_cons_self
        exact absurd (hlong.mono d.length_le_doubled) (hshort' d hd)
      · rw [herror, herror']
        exact .tooLong hvalid hfirst hfirst'

end Schedule

/-- Two variants of an experiment play the traffic of the matrix twice in a row, the others play it once.
A doubled matrix passes the same tests, and where both can be scheduled, every demand repeats its traffic and
takes twice the time, but for the extension of the last step, which counts only once. -/
theorem doubling_repeats_traffic (m : DemandMatrix) (interval : Span) :
    m.doubled.validate = m.validate ∧
      DoublingEnd m interval (Schedule.build m interval) (Schedule.build m.doubled interval) ∧
      ∀ b : Bundle, b.schedule =
        Schedule.build (if b.variant = 1 ∨ b.variant = 2 then b.demandMatrix.doubled else b.demandMatrix)
          b.interval := by
  refine ⟨m.validate_doubled, Schedule.doubling_end m interval, fun b => ?_⟩
  have hmem : b.variant ∈ Bundle.doubledVariants ↔ b.variant = 1 ∨ b.variant = 2 := by
    simp [Bundle.doubledVariants]
  simp only [Bundle.schedule, Bundle.matrix, hmem]

end BackboneLab
