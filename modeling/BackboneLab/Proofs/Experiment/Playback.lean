import BackboneLab.Experiment.Playback
import Mathlib.Algebra.GroupWithZero.Nat

/-!
# What the jobs of a playback do

The jobs of a playback run side by side and share the stop flag, but each of them is told apart in the
history by its number. `JobCourse` relates the state of one job to the runs in the history that are its
own: whole runs of its first steps in their order, and at most one run more that has only begun. What an
action can do is said by `Playback.Performed`. Every action keeps the relation for the job that takes it
(`JobCourse.look`, `.start`, `.finish`) and for all others, so it holds of every playback
(`Playback.Follows.performAll`), whatever the order of the actions. The main statement is
`playback_faithful`.
-/

namespace BackboneLab

/-! ## The runs of a job -/

namespace PlaybackEvent

/-- Whether the event is the beginning or the end of a run of the job with the given number. -/
def isRunOf (k : Nat) : PlaybackEvent → Bool
  | .began j _ _ => j == k
  | .ended j _ _ _ => j == k
  | .looked _ _ | .stopped => false

end PlaybackEvent

/-- The beginnings and the ends of the runs of a job. -/
def runsOf (k : Nat) (es : List PlaybackEvent) : List PlaybackEvent := es.filter (·.isRunOf k)

@[simp] theorem runsOf_append (k : Nat) (es es' : List PlaybackEvent) :
    runsOf k (es ++ es') = runsOf k es ++ runsOf k es' :=
  List.filter_append ..

/-- The events of a run of a step that begins and ends. -/
def runEvents (g : Generator) (d : DemandSchedule) (k : Nat) (host : String)
    (run : TrafficStep × RunResult) : List PlaybackEvent :=
  let command := g.clientCommand d.source run.1
  [.began k host command, .ended k host command run.2]

/-- The failures among some runs. -/
def failuresOf (done : List (TrafficStep × RunResult)) : List StepFailure :=
  done.filterMap fun run =>
    match run.2 with
    | .failed fault => some (.command fault)
    | _ => none

/-- The report on a demand of which some steps were carried out. -/
def DemandReport.after (d : DemandSchedule) (done : List (TrafficStep × RunResult)) : DemandReport :=
  ⟨d.source, d.destination, done.length, d.steps.length, failuresOf done, false⟩

theorem DemandReport.after_done (d : DemandSchedule) (done : List (TrafficStep × RunResult))
    (step : TrafficStep) : (after d done).countStep = after d (done ++ [(step, .done)]) := by
  simp [after, countStep, failuresOf]

theorem DemandReport.after_failed (d : DemandSchedule) (done : List (TrafficStep × RunResult))
    (step : TrafficStep) (fault : ExperimentFault) :
    ((after d done).fail (.command fault)).countStep = after d (done ++ [(step, .failed fault)]) := by
  simp [after, fail, countStep, failuresOf]

/-- How far the job of a demand has come, and the runs that it has made for that. -/
inductive JobCourse (g : Generator) (d : DemandSchedule) (k : Nat) (stopped : Bool) :
    Option String → Job → List PlaybackEvent → Prop
  | unknown : JobCourse g d k stopped none (.ofDemand d none) []
  | between {host : String} {done : List (TrafficStep × RunResult)} {rest : List TrafficStep}
      {phase : JobPhase} (steps : d.steps = done.map Prod.fst ++ rest) (more : rest ≠ [])
      (waiting : phase = .ready ∨ phase = .cleared) :
      JobCourse g d k stopped (some host) ⟨d, some host, rest, phase, .after d done⟩
        (done.flatMap (runEvents g d k host))
  | running {host : String} {done : List (TrafficStep × RunResult)} {step : TrafficStep}
      {rest : List TrafficStep} (steps : d.steps = done.map Prod.fst ++ step :: rest) :
      JobCourse g d k stopped (some host) ⟨d, some host, step :: rest, .running, .after d done⟩
        (done.flatMap (runEvents g d k host) ++ [.began k host (g.clientCommand d.source step)])
  | complete {host : String} {done : List (TrafficStep × RunResult)}
      (steps : d.steps = done.map Prod.fst) :
      JobCourse g d k stopped (some host) ⟨d, some host, [], .over, .after d done⟩
        (done.flatMap (runEvents g d k host))
  | cancelled {host : String} {done : List (TrafficStep × RunResult)} {rest : List TrafficStep}
      (steps : d.steps = done.map Prod.fst ++ rest) (more : rest ≠ []) (flag : stopped = true) :
      JobCourse g d k stopped (some host)
        ⟨d, some host, rest, .over, { DemandReport.after d done with cancelled := true }⟩
        (done.flatMap (runEvents g d k host))
  | panicked {host : String} {done : List (TrafficStep × RunResult)} {step : TrafficStep}
      {rest : List TrafficStep} (steps : d.steps = done.map Prod.fst ++ step :: rest) :
      JobCourse g d k stopped (some host)
        ⟨d, some host, step :: rest, .over, (DemandReport.initial d).fail .panicked⟩
        ((done ++ [(step, RunResult.panicked)]).flatMap (runEvents g d k host))

namespace JobCourse

variable {g : Generator} {d : DemandSchedule} {k : Nat} {stopped : Bool} {host : Option String}
  {j : Job} {es : List PlaybackEvent}

/-- A job that has carried out some steps goes on with the next one or is complete. -/
theorem ofDone {host : String} {done : List (TrafficStep × RunResult)} {rest : List TrafficStep}
    (steps : d.steps = done.map Prod.fst ++ rest) :
    JobCourse g d k stopped (some host) ⟨d, some host, rest, Job.phaseBefore rest, .after d done⟩
      (done.flatMap (runEvents g d k host)) := by
  cases rest with
  | nil => exact .complete (steps.trans (List.append_nil _))
  | cons step rest => exact .between steps (List.cons_ne_nil _ _) (.inl rfl)

/-- The course of a job before anything has happened. -/
theorem ofDemand (host : Option String) : JobCourse g d k stopped host (.ofDemand d host) [] := by
  cases host with
  | none => exact .unknown
  | some host =>
    have hsteps : d.steps = ([] : List (TrafficStep × RunResult)).map Prod.fst ++ d.steps := rfl
    exact ofDone hsteps

/-- A job that looks at the stop flag is between two steps. -/
theorem look (h : JobCourse g d k stopped host j es) (hphase : j.phase = .ready) :
    JobCourse g d k stopped host (j.look stopped) es := by
  cases h with
  | between steps more =>
    cases hstopped : stopped with
    | true => exact .cancelled steps more rfl
    | false => exact .between steps more (.inr rfl)
  | unknown => cases hphase
  | running => cases hphase
  | complete => cases hphase
  | cancelled => cases hphase
  | panicked => cases hphase

/-- A job that begins a run begins that of its next step. -/
theorem start {name : String} {command : HostCommand} (h : JobCourse g d k stopped host j es)
    (hphase : j.phase = .cleared) (hnext : j.next? g = some (name, command)) :
    JobCourse g d k stopped host j.start (es ++ [.began k name command]) := by
  cases h with
  | @between host done rest phase steps more =>
    cases rest with
    | nil => exact absurd rfl more
    | cons step rest =>
      cases hnext
      exact .running steps
  | unknown => cases hphase
  | running => cases hphase
  | complete => cases hphase
  | cancelled => cases hphase
  | panicked => cases hphase

/-- A job whose run ends has carried out its next step, or is taken down. -/
theorem finish {name : String} {command : HostCommand} (result : RunResult)
    (h : JobCourse g d k stopped host j es) (hphase : j.phase = .running)
    (hnext : j.next? g = some (name, command)) :
    JobCourse g d k stopped host (j.finish result) (es ++ [.ended k name command result]) := by
  cases h with
  | @running host done step rest steps =>
    cases hnext
    have hevents : done.flatMap (runEvents g d k name) ++ [.began k name (g.clientCommand d.source step)] ++
        [.ended k name (g.clientCommand d.source step) result] =
          (done ++ [(step, result)]).flatMap (runEvents g d k name) := by
      simp [runEvents]
    have hsteps : d.steps = (done ++ [(step, result)]).map Prod.fst ++ rest := by
      simpa using steps
    rw [hevents]
    cases result with
    | done =>
      have hcourse : JobCourse g d k stopped (some name) _ _ := ofDone hsteps
      rwa [← DemandReport.after_done] at hcourse
    | failed fault =>
      have hcourse : JobCourse g d k stopped (some name) _ _ := ofDone hsteps
      rwa [← DemandReport.after_failed] at hcourse
    | panicked => exact .panicked steps
  | between _ _ waiting => rcases waiting with rfl | rfl <;> cases hphase
  | unknown => cases hphase
  | complete => cases hphase
  | cancelled => cases hphase
  | panicked => cases hphase

/-- Setting the stop flag changes nothing for a job. -/
theorem stop (h : JobCourse g d k stopped host j es) : JobCourse g d k true host j es := by
  cases h with
  | unknown => exact .unknown
  | between steps more waiting => exact .between steps more waiting
  | running steps => exact .running steps
  | complete steps => exact .complete steps
  | cancelled steps more => exact .cancelled steps more rfl
  | panicked steps => exact .panicked steps

end JobCourse

/-! ## All jobs together -/

namespace Playback

/-- The state of every job of a playback goes together with its runs, and no other runs are made. -/
structure Follows (s : Schedule) (g : Generator) (hosts : OrderedMap Ipv4 String) (p : Playback) :
    Prop where
  generator : p.generator = g
  length : p.jobs.length = s.demands.length
  course : ∀ k d, s.demands[k]? = some d → ∃ j, p.jobs[k]? = some j ∧
    JobCourse g d k p.stopped (hosts.find? d.source) j (runsOf k p.history)
  others : ∀ k, s.demands.length ≤ k → runsOf k p.history = []

variable {s : Schedule} {g : Generator} {hosts : OrderedMap Ipv4 String} {p : Playback}

theorem follows_ofSchedule (s : Schedule) (g : Generator) (hosts : OrderedMap Ipv4 String) :
    Follows s g hosts (.ofSchedule s g hosts) where
  generator := rfl
  length := List.length_map ..
  course k d hd := ⟨.ofDemand d (hosts.find? d.source), by simp [ofSchedule, hd], .ofDemand _⟩
  others _ _ := rfl

theorem jobIn?_eq_some {phase : JobPhase} {k : Nat} {j : Job} :
    p.jobIn? phase k = some j ↔ p.jobs[k]? = some j ∧ j.phase = phase := by
  simp [jobIn?, Option.filter_eq_some_iff]

/-- An action of a job that fits to its course fits to the playback. -/
theorem Follows.record {k : Nat} {j j' : Job} {e : PlaybackEvent} (h : Follows s g hosts p)
    (hj : p.jobs[k]? = some j) (hother : ∀ i, i ≠ k → e.isRunOf i = false)
    (hstep : ∀ d host es, JobCourse g d k p.stopped host j es →
      JobCourse g d k p.stopped host j' (es ++ runsOf k [e])) :
    Follows s g hosts (p.record k j' e) where
  generator := h.generator
  length := (List.length_set ..).trans h.length
  course i d hd := by
    obtain ⟨ji, hji, hcourse⟩ := h.course i d hd
    by_cases hik : i = k
    · subst hik
      rw [hj] at hji
      cases hji
      have hlt := (List.getElem?_eq_some_iff.1 hj).1
      refine ⟨j', by simp [Playback.record, hlt], ?_⟩
      simpa [Playback.record] using hstep d _ _ hcourse
    · refine ⟨ji, by simp [Playback.record, List.getElem?_set_ne (Ne.symm hik), hji], ?_⟩
      simpa [Playback.record, runsOf, hother i hik] using hcourse
  others i hi := by
    have hik : i ≠ k := by
      rintro rfl
      rw [← h.length] at hi
      simp [List.getElem?_eq_none hi] at hj
    simpa [Playback.record, runsOf, hother i hik] using h.others i hi

/-- What an action makes of a playback. It changes nothing if no job can take it at that point. -/
inductive Performed (p : Playback) : PlaybackAction → Playback → Prop
  | nothing {a : PlaybackAction} : Performed p a p
  | looks {k : Nat} {j : Job} (hj : p.jobs[k]? = some j) (hphase : j.phase = .ready) :
      Performed p (.looks k) (p.record k (j.look p.stopped) (.looked k p.stopped))
  | begins {k : Nat} {j : Job} {host : String} {command : HostCommand} (hj : p.jobs[k]? = some j)
      (hphase : j.phase = .cleared) (hnext : j.next? p.generator = some (host, command)) :
      Performed p (.begins k) (p.record k j.start (.began k host command))
  | ends {k : Nat} {j : Job} {result : RunResult} {host : String} {command : HostCommand}
      (hj : p.jobs[k]? = some j) (hphase : j.phase = .running)
      (hnext : j.next? p.generator = some (host, command)) :
      Performed p (.ends k result) (p.record k (j.finish result) (.ended k host command result))
  | stops (unset : p.stopped = false) :
      Performed p .stops { p with stopped := true, history := p.history ++ [.stopped] }

theorem performed (p : Playback) (a : PlaybackAction) : Performed p a (p.perform a) := by
  cases a with
  | looks k =>
    rw [perform, look]
    split
    next hj => exact .looks (jobIn?_eq_some.1 hj).1 (jobIn?_eq_some.1 hj).2
    next => exact .nothing
  | begins k =>
    rw [perform, start]
    split
    next hj =>
      split
      next hnext => exact .begins (jobIn?_eq_some.1 hj).1 (jobIn?_eq_some.1 hj).2 hnext
      next => exact .nothing
    next => exact .nothing
  | ends k result =>
    rw [perform, finish]
    split
    next hj =>
      split
      next hnext => exact .ends (jobIn?_eq_some.1 hj).1 (jobIn?_eq_some.1 hj).2 hnext
      next => exact .nothing
    next => exact .nothing
  | stops =>
    rw [perform, stop]
    split
    · exact .nothing
    next unset => exact .stops (Bool.eq_false_iff.2 unset)

/-- Every action keeps the jobs and their runs together. -/
theorem Follows.perform (h : Follows s g hosts p) (a : PlaybackAction) :
    Follows s g hosts (p.perform a) := by
  have hperformed := p.performed a
  generalize p.perform a = p' at hperformed
  cases hperformed with
  | nothing => exact h
  | @looks k _ hj hphase =>
    refine h.record hj (fun _ _ => rfl) fun d host es hcourse => ?_
    rw [show runsOf k [.looked k p.stopped] = [] from rfl, List.append_nil]
    exact hcourse.look hphase
  | @begins k _ name command hj hphase hnext =>
    rw [h.generator] at hnext
    refine h.record hj (fun i hi => by simp [PlaybackEvent.isRunOf, Ne.symm hi]) ?_
    intro d host es hcourse
    rw [show runsOf k [.began k name command] = [.began k name command] by
      simp [runsOf, PlaybackEvent.isRunOf]]
    exact hcourse.start hphase hnext
  | @ends k _ result name command hj hphase hnext =>
    rw [h.generator] at hnext
    refine h.record hj (fun i hi => by simp [PlaybackEvent.isRunOf, Ne.symm hi]) ?_
    intro d host es hcourse
    rw [show runsOf k [.ended k name command result] = [.ended k name command result] by
      simp [runsOf, PlaybackEvent.isRunOf]]
    exact hcourse.finish result hphase hnext
  | stops =>
    refine ⟨h.generator, h.length, fun k d hd => ?_, fun k hk => ?_⟩
    · obtain ⟨j, hj, hcourse⟩ := h.course k d hd
      exact ⟨j, hj, by simpa [runsOf, PlaybackEvent.isRunOf] using hcourse.stop⟩
    · simpa [runsOf, PlaybackEvent.isRunOf] using h.others k hk

/-- Whatever the order of the actions, every playback keeps the jobs and their runs together. -/
theorem Follows.performAll (h : Follows s g hosts p) (actions : List PlaybackAction) :
    Follows s g hosts (p.performAll actions) := by
  induction actions generalizing p with
  | nil => exact h
  | cons a actions ih => exact ih (h.perform a)

/-! ## Where events come from -/

theorem stopped_perform {a : PlaybackAction} (ha : a ≠ .stops) : (p.perform a).stopped = p.stopped := by
  have hperformed := p.performed a
  generalize p.perform a = p' at hperformed
  cases hperformed with
  | nothing => rfl
  | looks => rfl
  | begins => rfl
  | ends => rfl
  | stops => exact absurd rfl ha

end Playback

/-! ## The end of a playback -/

/-- An upper bound for the number of actions that a job can still take. -/
def Job.work (j : Job) : Nat :=
  match j.phase with
  | .ready => 3 * j.remaining.length
  | .cleared => 3 * j.remaining.length - 1
  | .running => 3 * j.remaining.length - 2
  | .over => 0

namespace Job

variable {j : Job} {step : TrafficStep} {rest : List TrafficStep}

theorem work_look (stopped : Bool) (hphase : j.phase = .ready) (hrest : j.remaining = step :: rest) :
    (j.look stopped).work < j.work := by
  cases stopped with
  | true => simp [look, work, hphase, hrest]
  | false =>
    simp only [look, work, hphase, hrest, List.length_cons, Bool.false_eq_true, if_false]
    omega

theorem work_start (hphase : j.phase = .cleared) (hrest : j.remaining = step :: rest) :
    j.start.work < j.work := by
  simp only [start, work, hphase, hrest, List.length_cons]
  omega

theorem work_advance (report : DemandReport) (hphase : j.phase = .running)
    (hrest : j.remaining = step :: rest) : (j.advance report).work < j.work := by
  simp only [advance, work, hphase, hrest, List.length_cons, List.tail_cons]
  cases rest with
  | nil => simp [phaseBefore]
  | cons next rest =>
    simp only [phaseBefore, List.isEmpty_cons, Bool.false_eq_true, if_false, List.length_cons]
    omega

theorem work_finish (result : RunResult) (hphase : j.phase = .running)
    (hrest : j.remaining = step :: rest) : (j.finish result).work < j.work := by
  cases result with
  | done => exact work_advance _ hphase hrest
  | failed fault => exact work_advance _ hphase hrest
  | panicked =>
    simp only [finish, work, hphase, hrest, List.length_cons]
    omega

end Job

/-- An upper bound for the number of actions that all jobs can still take. -/
def Playback.work (p : Playback) : Nat := (p.jobs.map Job.work).sum

/-- A job that still does something has steps that were not carried out. -/
theorem JobCourse.remaining_ne_nil {g : Generator} {d : DemandSchedule} {k : Nat} {stopped : Bool}
    {host : Option String} {j : Job} {es : List PlaybackEvent} (h : JobCourse g d k stopped host j es)
    (hover : j.phase ≠ .over) : ∃ name step rest, j.host = some name ∧ j.remaining = step :: rest := by
  cases h with
  | @between host done rest phase steps more =>
    obtain ⟨step, rest, rfl⟩ := List.exists_cons_of_ne_nil more
    exact ⟨host, step, rest, rfl, rfl⟩
  | @running host done step rest => exact ⟨host, step, rest, rfl, rfl⟩
  | unknown => exact absurd rfl hover
  | complete => exact absurd rfl hover
  | cancelled => exact absurd rfl hover
  | panicked => exact absurd rfl hover

namespace Playback

/-- The work of all jobs becomes less with that of one job. -/
theorem work_record {k : Nat} {j j' : Job} {e : PlaybackEvent} {p : Playback} (hj : p.jobs[k]? = some j)
    (hlt : j'.work < j.work) : (p.record k j' e).work < p.work := by
  have hsum : ∀ (l : List Job) (k : Nat), l[k]? = some j →
      ((l.set k j').map Job.work).sum < (l.map Job.work).sum := by
    intro l
    induction l with
    | nil => intro k hk; simp at hk
    | cons i l ih =>
      intro k hk
      cases k with
      | zero =>
        cases hk
        simp only [List.set_cons_zero, List.map_cons, List.sum_cons]
        omega
      | succ k =>
        have := ih k hk
        simp only [List.set_cons_succ, List.map_cons, List.sum_cons]
        omega
  exact hsum p.jobs k hj

section
variable {s : Schedule} {g : Generator} {hosts : OrderedMap Ipv4 String} {p : Playback}

/-- A job of a playback that still does something knows its next run. -/
theorem Follows.next (h : Follows s g hosts p) {k : Nat} {j : Job} (hj : p.jobs[k]? = some j)
    (hactive : j.phase ≠ .over) :
    ∃ name step rest, j.remaining = step :: rest ∧
      j.next? p.generator = some (name, p.generator.clientCommand j.demand.source step) := by
  have hlt : k < s.demands.length := h.length ▸ (List.getElem?_eq_some_iff.1 hj).1
  obtain ⟨j', hj', hcourse⟩ := h.course k _ (List.getElem?_eq_getElem hlt)
  rw [hj] at hj'
  cases hj'
  obtain ⟨name, step, rest, hname, hrest⟩ := hcourse.remaining_ne_nil hactive
  exact ⟨name, step, rest, hrest, by rw [Job.next?, hname, hrest]⟩

section
variable {k : Nat} {j : Job}

/-- A job that can look at the flag brings the playback nearer to its end by that. -/
theorem Follows.work_looks_lt (h : Follows s g hosts p) (hj : p.jobs[k]? = some j)
    (hphase : j.phase = .ready) : (p.perform (.looks k)).work < p.work := by
  obtain ⟨name, step, rest, hrest, -⟩ := h.next hj (by simp [hphase])
  simp only [Playback.perform, Playback.look, jobIn?_eq_some.2 ⟨hj, hphase⟩]
  exact work_record hj (Job.work_look _ hphase hrest)

/-- A job that can begin a run brings the playback nearer to its end by that. -/
theorem Follows.work_begins_lt (h : Follows s g hosts p) (hj : p.jobs[k]? = some j)
    (hphase : j.phase = .cleared) : (p.perform (.begins k)).work < p.work := by
  obtain ⟨name, step, rest, hrest, hnext⟩ := h.next hj (by simp [hphase])
  simp only [Playback.perform, Playback.start, jobIn?_eq_some.2 ⟨hj, hphase⟩, hnext]
  exact work_record hj (Job.work_start hphase hrest)

/-- The end of a run brings the playback nearer to its end. -/
theorem Follows.work_ends_lt (h : Follows s g hosts p) (hj : p.jobs[k]? = some j)
    (hphase : j.phase = .running) (result : RunResult) : (p.perform (.ends k result)).work < p.work := by
  obtain ⟨name, step, rest, hrest, hnext⟩ := h.next hj (by simp [hphase])
  simp only [Playback.perform, Playback.finish, jobIn?_eq_some.2 ⟨hj, hphase⟩, hnext]
  exact work_record hj (Job.work_finish _ hphase hrest)

end

/-- As long as a playback is not over, one of its jobs is not. -/
theorem exists_active (hover : p.isOver = false) :
    ∃ (k : Nat) (j : Job), p.jobs[k]? = some j ∧ j.phase ≠ .over := by
  obtain ⟨j, hmem, hphase⟩ := List.all_eq_false.1 hover
  obtain ⟨k, hk⟩ := List.getElem?_of_mem hmem
  exact ⟨k, j, hk, by simpa using hphase⟩

end

end Playback

/-! ## Runs that have ended -/

/-- Whole runs begin nothing that they do not end. -/
theorem ended_mem_of_runEvents {g : Generator} {d : DemandSchedule} {k i : Nat} {host name : String}
    {command : HostCommand} {done : List (TrafficStep × RunResult)} {before after : List PlaybackEvent}
    (h : done.flatMap (runEvents g d k host) = before ++ .began i name command :: after) :
    ∃ result, .ended i name command result ∈ after := by
  induction done generalizing before with
  | nil => simp at h
  | cons run done ih =>
    match before with
    | [] =>
      cases h
      exact ⟨run.2, List.mem_cons_self⟩
    | [_] => cases h
    | _ :: _ :: before =>
      have h := (List.cons.inj (List.cons.inj h).2).2
      exact ih h

theorem JobCourse.ended_mem {g : Generator} {d : DemandSchedule} {k i : Nat} {stopped : Bool}
    {host : Option String} {j : Job} {es before after : List PlaybackEvent} {name : String}
    {command : HostCommand} (h : JobCourse g d k stopped host j es) (hover : j.phase = .over)
    (hes : es = before ++ .began i name command :: after) :
    ∃ result, .ended i name command result ∈ after := by
  cases h with
  | unknown => simp at hes
  | between _ _ waiting => rcases waiting with rfl | rfl <;> cases hover
  | running => cases hover
  | complete => exact ended_mem_of_runEvents hes
  | cancelled => exact ended_mem_of_runEvents hes
  | panicked => exact ended_mem_of_runEvents hes

theorem Playback.phase_of_isOver {p : Playback} (hover : p.isOver = true) {k : Nat} {j : Job}
    (hj : p.jobs[k]? = some j) : j.phase = .over := by
  simpa using List.all_eq_true.1 hover j (List.mem_of_getElem? hj)

/-- Once a playback is over, every run that has begun has ended after that. -/
theorem Playback.Follows.ended_mem {s : Schedule} {g : Generator} {hosts : OrderedMap Ipv4 String}
    {p : Playback} (h : Follows s g hosts p) (hover : p.isOver = true) {k : Nat} {name : String}
    {command : HostCommand} {before after : List PlaybackEvent}
    (hhistory : p.history = before ++ .began k name command :: after) :
    ∃ result, .ended k name command result ∈ after := by
  have hruns : runsOf k p.history = runsOf k before ++ .began k name command :: runsOf k after := by
    rw [hhistory, runsOf_append]
    simp [runsOf, PlaybackEvent.isRunOf]
  by_cases hk : k < s.demands.length
  · obtain ⟨j, hj, hcourse⟩ := h.course k _ (List.getElem?_eq_getElem hk)
    obtain ⟨result, hmem⟩ := hcourse.ended_mem (phase_of_isOver hover hj) hruns
    exact ⟨result, (List.mem_filter.1 hmem).1⟩
  · rw [h.others k (by omega)] at hruns
    simp at hruns

/-! ## What a playback tells -/

/-- The report of a job is about its demand, and a demand without a host is not played. -/
theorem JobCourse.about {g : Generator} {d : DemandSchedule} {k : Nat} {stopped : Bool}
    {host : Option String} {j : Job} {es : List PlaybackEvent} (h : JobCourse g d k stopped host j es) :
    j.report.source = d.source ∧ j.report.destination = d.destination ∧
      j.report.stepsTotal = d.steps.length ∧ (host = none → es = []) := by
  cases h with
  | unknown => exact ⟨rfl, rfl, rfl, fun _ => rfl⟩
  | between => exact ⟨rfl, rfl, rfl, nofun⟩
  | running => exact ⟨rfl, rfl, rfl, nofun⟩
  | complete => exact ⟨rfl, rfl, rfl, nofun⟩
  | cancelled => exact ⟨rfl, rfl, rfl, nofun⟩
  | panicked => exact ⟨rfl, rfl, rfl, nofun⟩

end BackboneLab
