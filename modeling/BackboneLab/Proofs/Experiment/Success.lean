import BackboneLab.Proofs.Experiment.Gating
import BackboneLab.Proofs.Traffic.Schedule

/-!
# When a playback succeeds

A report has four ways to tell that something went wrong: a failed run, a run that took its job down, a
source that is no host, and the stop flag. Together they leave out nothing: a report tells of success if
and only if all steps of its demand were carried out and all runs ended well (`JobCourse.isSuccess_iff`).
That no run takes a job down without being told is an invariant of its own (`Playback.TellsPanics`). The
main statement is `playback_isSuccess_iff`.
-/

namespace BackboneLab

/-- The events of a job that carries out all steps of its demand, each of which ends well. -/
def fullRuns (g : Generator) (d : DemandSchedule) (k : Nat) (host : String) : List PlaybackEvent :=
  (d.steps.map fun step => (step, .done)).flatMap (runEvents g d k host)

/-- On the source host of a demand, all of its steps were carried out in their order, each of them after
the end of the one before it, and all runs ended well. -/
def IsPlayedInFull (g : Generator) (hosts : OrderedMap Ipv4 String) (k : Nat) (d : DemandSchedule)
    (history : List PlaybackEvent) : Prop :=
  ∃ host, hosts.find? d.source = some host ∧ runsOf k history = fullRuns g d k host

/-! ## The report of a job -/

section
variable {g : Generator} {d : DemandSchedule} {k : Nat} {host : String}

theorem length_flatMap_runEvents (done : List (TrafficStep × RunResult)) :
    (done.flatMap (runEvents g d k host)).length = 2 * done.length := by
  induction done with
  | nil => rfl
  | cons run done ih =>
    rw [List.flatMap_cons, List.length_append, ih, List.length_cons]
    simp only [runEvents, List.length_cons, List.length_nil]
    omega

theorem ended_mem_flatMap_runEvents (g : Generator) (d : DemandSchedule) (k : Nat) (host : String)
    {done : List (TrafficStep × RunResult)} {run : TrafficStep × RunResult} (h : run ∈ done) :
    .ended k host (g.clientCommand d.source run.1) run.2 ∈ done.flatMap (runEvents g d k host) :=
  List.mem_flatMap.2 ⟨run, h, List.mem_cons_of_mem _ List.mem_cons_self⟩

theorem length_fullRuns : (fullRuns g d k host).length = 2 * d.steps.length := by
  rw [fullRuns, length_flatMap_runEvents, List.length_map]

/-- All runs of a full playback have ended well. -/
theorem result_of_mem_fullRuns {i : Nat} {name : String} {command : HostCommand} {result : RunResult}
    (h : .ended i name command result ∈ fullRuns g d k host) : result = .done := by
  obtain ⟨run, hrun, hmem⟩ := List.mem_flatMap.1 h
  obtain ⟨step, -, rfl⟩ := List.mem_map.1 hrun
  simp only [runEvents, List.mem_cons, List.not_mem_nil, or_false] at hmem
  rcases hmem with hbegan | hended
  · cases hbegan
  · cases hended
    rfl

/-- There is no failure among runs that all have ended well. -/
theorem failuresOf_eq_nil {done : List (TrafficStep × RunResult)} (h : ∀ run ∈ done, run.2 = .done) :
    failuresOf done = [] :=
  List.filterMap_eq_nil_iff.2 fun run hrun => by rw [h run hrun]

/-- A run that did not end well is among the failures, or has taken its job down. -/
theorem result_of_failuresOf {done : List (TrafficStep × RunResult)} (h : failuresOf done = [])
    {run : TrafficStep × RunResult} (hrun : run ∈ done) : run.2 = .done ∨ run.2 = .panicked := by
  have hnone := List.filterMap_eq_nil_iff.1 h run hrun
  obtain ⟨step, result⟩ := run
  cases result with
  | done => exact .inl rfl
  | failed fault => cases hnone
  | panicked => exact .inr rfl

/-- Runs that all have ended well are those of a full playback of their steps. -/
theorem flatMap_runEvents_eq_fullRuns {done : List (TrafficStep × RunResult)}
    (hsteps : d.steps = done.map Prod.fst) (h : ∀ run ∈ done, run.2 = .done) :
    done.flatMap (runEvents g d k host) = fullRuns g d k host := by
  have hdone : (d.steps.map fun step => (step, RunResult.done)) = done := by
    rw [hsteps, List.map_map]
    refine (List.map_congr_left fun run hrun => ?_).trans (List.map_id done)
    exact Prod.ext rfl (h run hrun).symm
  rw [fullRuns, hdone]

end

/-- The report of a job that is over tells of success if and only if the job was done in full. -/
theorem JobCourse.isSuccess_iff {g : Generator} {d : DemandSchedule} {k : Nat} {stopped : Bool}
    {host : Option String} {j : Job} {es : List PlaybackEvent} (h : JobCourse g d k stopped host j es)
    (hover : j.phase = .over)
    (hpanic : ∀ name command, .ended k name command .panicked ∈ es → j.report.failures ≠ []) :
    j.report.isSuccess = true ↔ ∃ name, host = some name ∧ es = fullRuns g d k name := by
  cases h with
  | unknown =>
    refine iff_of_false (by simp [Job.ofDemand, DemandReport.isSuccess, DemandReport.fail]) ?_
    rintro ⟨_, hnone, -⟩
    cases hnone
  | between _ _ waiting => rcases waiting with rfl | rfl <;> cases hover
  | running => cases hover
  | @complete host done steps =>
    have hlength : done.length = d.steps.length := by rw [steps, List.length_map]
    have hsuccess : (DemandReport.after d done).isSuccess = true ↔ failuresOf done = [] := by
      simp [DemandReport.isSuccess, DemandReport.after, hlength]
    rw [hsuccess]
    constructor
    · intro hfailures
      refine ⟨host, rfl, flatMap_runEvents_eq_fullRuns steps fun run hrun => ?_⟩
      refine (result_of_failuresOf hfailures hrun).resolve_right fun hresult => ?_
      have hmem := ended_mem_flatMap_runEvents g d k host hrun
      rw [hresult] at hmem
      exact hpanic _ _ hmem hfailures
    · rintro ⟨_, ⟨⟩, hfull⟩
      refine failuresOf_eq_nil fun run hrun => ?_
      have hmem := ended_mem_flatMap_runEvents g d k host hrun
      rw [hfull] at hmem
      exact result_of_mem_fullRuns hmem
  | @cancelled host done rest steps more flag =>
    refine iff_of_false (by simp [DemandReport.isSuccess]) ?_
    rintro ⟨_, ⟨⟩, hfull⟩
    -- some steps were left out, so there are too few runs
    have hlength := congrArg List.length hfull
    have hrest := List.length_pos_iff.2 more
    rw [length_flatMap_runEvents, length_fullRuns, steps, List.length_append, List.length_map] at hlength
    omega
  | @panicked host done step rest steps =>
    refine iff_of_false (by simp [DemandReport.isSuccess, DemandReport.fail]) ?_
    rintro ⟨_, ⟨⟩, hfull⟩
    have hmem := ended_mem_flatMap_runEvents g d k host
      (List.mem_append_right done (List.mem_singleton_self (step, RunResult.panicked)))
    rw [hfull] at hmem
    cases result_of_mem_fullRuns hmem

/-! ## Jobs that are taken down -/

namespace Playback

/-- A job that was taken down by one of its runs is over and has told of it. -/
def TellsPanics (p : Playback) : Prop :=
  ∀ k name command, .ended k name command .panicked ∈ p.history →
    ∃ j, p.jobs[k]? = some j ∧ j.phase = .over ∧ .panicked ∈ j.report.failures

variable {p : Playback}

theorem tellsPanics_ofSchedule (s : Schedule) (g : Generator) (hosts : OrderedMap Ipv4 String) :
    TellsPanics (.ofSchedule s g hosts) :=
  fun _ _ _ hmem => nomatch hmem

/-- Only a job that is not over goes on, so what was told of the jobs taken down before stays. -/
theorem TellsPanics.record {k : Nat} {j j' : Job} {e : PlaybackEvent} (h : p.TellsPanics)
    (hj : p.jobs[k]? = some j) (hactive : j.phase ≠ .over)
    (he : ∀ i name command, .ended i name command .panicked = e →
      i = k ∧ j'.phase = .over ∧ .panicked ∈ j'.report.failures) :
    (p.record k j' e).TellsPanics := by
  intro i name command hmem
  rcases List.mem_append.1 hmem with hbefore | hnow
  · obtain ⟨ji, hji, hover, htold⟩ := h i name command hbefore
    have hik : k ≠ i := by
      rintro rfl
      cases hj.symm.trans hji
      exact hactive hover
    exact ⟨ji, by simp [Playback.record, List.getElem?_set_ne hik, hji], hover, htold⟩
  · obtain ⟨rfl, hover, htold⟩ := he i name command (List.mem_singleton.1 hnow)
    have hlt := (List.getElem?_eq_some_iff.1 hj).1
    exact ⟨j', by simp [Playback.record, hlt], hover, htold⟩

theorem TellsPanics.perform (h : p.TellsPanics) (a : PlaybackAction) : (p.perform a).TellsPanics := by
  have hperformed := p.performed a
  generalize p.perform a = p' at hperformed
  cases hperformed with
  | nothing => exact h
  | looks hj hphase => exact h.record hj (by simp [hphase]) nofun
  | begins hj hphase => exact h.record hj (by simp [hphase]) nofun
  | ends hj hphase =>
    refine h.record hj (by simp [hphase]) fun i name command he => ?_
    cases he
    exact ⟨rfl, rfl, List.mem_append_right _ List.mem_cons_self⟩
  | stops =>
    intro k name command hmem
    exact h k name command (by simpa using hmem)

theorem TellsPanics.performAll (h : p.TellsPanics) (actions : List PlaybackAction) :
    (p.performAll actions).TellsPanics := by
  induction actions generalizing p with
  | nil => exact h
  | cons a actions ih => exact ih (h.perform a)

/-! ## The reports of a playback -/

section
variable {s : Schedule} {g : Generator} {hosts : OrderedMap Ipv4 String}

/-- Once a playback is over, the report on a demand tells of success if and only if it was played in
full. -/
theorem Follows.report_isSuccess (h : Follows s g hosts p) (hpanics : p.TellsPanics)
    (hover : p.isOver = true) {k : Nat} {d : DemandSchedule} (hd : s.demands[k]? = some d) :
    ∃ report, p.reports[k]? = some report ∧ report.source = d.source ∧
      report.destination = d.destination ∧
      (report.isSuccess = true ↔ IsPlayedInFull g hosts k d p.history) := by
  obtain ⟨j, hj, hcourse⟩ := h.course k d hd
  obtain ⟨hsource, hdestination, -⟩ := hcourse.about
  have hphase := phase_of_isOver hover hj
  refine ⟨j.report, by simp [reports, hj], hsource, hdestination, hcourse.isSuccess_iff hphase ?_⟩
  intro name command hmem
  obtain ⟨j', hj', -, htold⟩ := hpanics k name command (List.mem_filter.1 hmem).1
  cases hj.symm.trans hj'
  exact List.ne_nil_of_mem htold

/-- Once a playback is over, all reports tell of success if and only if all demands were played in
full. -/
theorem Follows.reports_all_isSuccess (h : Follows s g hosts p) (hpanics : p.TellsPanics)
    (hover : p.isOver = true) :
    p.reports.all DemandReport.isSuccess = true ↔
      ∀ k d, s.demands[k]? = some d → IsPlayedInFull g hosts k d p.history := by
  rw [List.all_eq_true]
  constructor
  · intro hall k d hd
    obtain ⟨report, hreport, -, -, hiff⟩ := h.report_isSuccess hpanics hover hd
    exact hiff.1 (hall report (List.mem_of_getElem? hreport))
  · intro hall report hmem
    obtain ⟨k, hk⟩ := List.getElem?_of_mem hmem
    have hlength : p.reports.length = s.demands.length := (List.length_map ..).trans h.length
    have hlt : k < s.demands.length := hlength ▸ (List.getElem?_eq_some_iff.1 hk).1
    obtain ⟨report', hreport, -, -, hiff⟩ :=
      h.report_isSuccess hpanics hover (List.getElem?_eq_getElem hlt)
    cases hk.symm.trans hreport
    exact hiff.2 (hall k _ (List.getElem?_eq_getElem hlt))

end

end Playback

/-- A run of an experiment that has a report has asked for one playback, and is a success if and only if all
demands of its bundle were played in full in it. -/
theorem Testbed.report_isSuccess {σ : Type} {t : Testbed σ} {b : Bundle} {s : Settings} {confDir : Path}
    {patience : Nat} {scene : Scene σ} {report : ExperimentReport} {q : Progress σ}
    (h : (t.experiment b s confDir patience).run (.ofScene scene) = (.ok report, q)) :
    ∃ p cs actions, ((Preparation.ofBundle b s confDir).run scene.files).1 = .ok p ∧
      t.Leads (.ofScene (scene.prepared b s confDir)) cs q ∧
      playsIn cs = [.play (p.playback s) actions] ∧
      (report.isSuccess = true ↔ ∀ k d, p.schedule.demands[k]? = some d →
        IsPlayedInFull s.sync.trafficTool p.network.hostNames k d
          ((p.playback s).performAll actions).history) := by
  obtain ⟨r, body, q₀, hend⟩ := experiment_end t b s confDir patience scene
  obtain ⟨stops, q', hrun, hleads, hstopped⟩ := hend.isStopped t.stopDaemon t.stopSpawned t.stopEmulator
  have hgated := hend.body.gated hstopped
  obtain ⟨hr, rfl⟩ := Prod.ext_iff.1 (h.symm.trans hrun)
  generalize body ++ stops = cs at hgated hleads
  cases hgated with
  | unstarted unstarted => cases unstarted <;> cases hr
  | stopped | playing => cases hr
  | @played p e gate stops actions prepared opened unplayed finished ended =>
    cases hr
    refine ⟨p, _, actions, prepared, hleads, ?_, ?_⟩
    · rw [playsIn_append, playsIn_append, unplayed.1, unplayed.2]
      rfl
    · exact ((Playback.follows_ofSchedule _ _ _).performAll actions).reports_all_isSuccess
        ((Playback.tellsPanics_ofSchedule _ _ _).performAll actions) finished

/-- Whatever the hosts, the results of the runs and the order of the actions, once a playback is over
there is one report for every demand, in the order of the schedule. It tells of success if and only if
all steps of the demand were carried out in their order and all runs ended well; and an experiment is a
success if and only if this holds of all demands. -/
theorem playback_isSuccess_iff (s : Schedule) (g : Generator) (hosts : OrderedMap Ipv4 String)
    (actions : List PlaybackAction) {p : Playback}
    (hp : (Playback.ofSchedule s g hosts).performAll actions = p) (hover : p.isOver = true) :
    p.reports.length = s.demands.length ∧
      (∀ k d, s.demands[k]? = some d → ∃ report, p.reports[k]? = some report ∧
        report.source = d.source ∧ report.destination = d.destination ∧
        (report.isSuccess = true ↔ IsPlayedInFull g hosts k d p.history)) ∧
      ∀ expected, (ExperimentReport.mk expected p.reports).isSuccess = true ↔
        ∀ k d, s.demands[k]? = some d → IsPlayedInFull g hosts k d p.history := by
  subst hp
  have hfollows := (Playback.follows_ofSchedule s g hosts).performAll actions
  have hpanics := (Playback.tellsPanics_ofSchedule s g hosts).performAll actions
  refine ⟨(List.length_map ..).trans hfollows.length, fun k d hd => ?_, fun _ => ?_⟩
  · exact hfollows.report_isSuccess hpanics hover hd
  · exact hfollows.reports_all_isSuccess hpanics hover

/-- The stop flag is set while the last step of one demand is run, and before the only step of another
one, so that the first demand is played in full and the second one is not. -/
theorem playback_isSuccess_iff_stopped :
    let host : Ipv4 := ⟨192, 168, 1, 1⟩
    let step : TrafficStep := ⟨⟨192, 168, 2, 1⟩, 10, .ofSeconds 1⟩
    let d : DemandSchedule := ⟨host, step.destination, [step]⟩
    let d' : DemandSchedule := ⟨host, ⟨192, 168, 3, 1⟩, [step]⟩
    let hosts : OrderedMap Ipv4 String := .ofList [(host, "h1")]
    let s := (Schedule.empty.add d).add d'
    let actions : List PlaybackAction := [.looks 0, .begins 0, .stops, .looks 1, .ends 0 .done]
    let p := (Playback.ofSchedule s .iperf3 hosts).performAll actions
    p.isOver = true ∧ IsPlayedInFull .iperf3 hosts 0 d p.history ∧
      ¬ IsPlayedInFull .iperf3 hosts 1 d' p.history := by
  intro host step d d' hosts s actions p
  have hover : p.isOver = true := by decide +kernel
  have hreports : p.reports.map DemandReport.isSuccess = [true, false] := by decide +kernel
  have hsuccess : ∀ {k : Nat} {report : DemandReport}, p.reports[k]? = some report →
      [true, false][k]? = some report.isSuccess := by
    intro k report hreport
    rw [← hreports, List.getElem?_map, hreport, Option.map_some]
  have hs : s.demands = [d, d'] := by
    rw [Schedule.demands_add (by decide), Schedule.demands_add (by decide)]
    rfl
  obtain ⟨-, hdemands, -⟩ := playback_isSuccess_iff s .iperf3 hosts actions rfl hover
  rw [hs] at hdemands
  obtain ⟨report, hreport, -, -, hiff⟩ := hdemands 0 d rfl
  obtain ⟨report', hreport', -, -, hiff'⟩ := hdemands 1 d' rfl
  refine ⟨hover, hiff.1 (Option.some.inj (hsuccess hreport)).symm, fun hfull => ?_⟩
  exact absurd (hiff'.2 hfull) (by simp [← Option.some.inj (hsuccess hreport')])

end BackboneLab
