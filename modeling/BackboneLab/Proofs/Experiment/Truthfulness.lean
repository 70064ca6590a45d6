import BackboneLab.Proofs.Experiment.Success

/-!
# What reports leave out

A report counts the steps that were carried out and holds the failures of their runs, unless a run takes
its job down: then the report of the job is made anew, and what it had counted and collected before is lost
(`JobEnd`). So a report is truthful if and only if no run but the first one of its demand took the job down
(`JobEnd.isTruthful_iff`). The main statement is `playback_isTruthful_iff`.
-/

namespace BackboneLab

/-- A report is truthful about the runs of its demand if it counts them all, where one that took the job
down need not be counted, and if it holds the failures of all of them. -/
structure DemandReport.IsTruthful (report : DemandReport) (runs : List (TrafficStep × RunResult)) :
    Prop where
  stepsRun : report.stepsRun = runs.length ∨
    report.stepsRun + 1 = runs.length ∧ ∃ run ∈ runs, run.2 = .panicked
  failures : (failuresOf runs).Sublist report.failures

/-- The runs that a job has made once it is over, and its report. -/
inductive JobEnd (d : DemandSchedule) : List (TrafficStep × RunResult) → DemandReport → Prop
  | unknown : JobEnd d [] ((DemandReport.initial d).fail (.unknownSource d.source))
  | whole (done : List (TrafficStep × RunResult)) (cancelled : Bool) :
      JobEnd d done { DemandReport.after d done with cancelled }
  | panicked (done : List (TrafficStep × RunResult)) (step : TrafficStep) :
      JobEnd d (done ++ [(step, .panicked)]) ((DemandReport.initial d).fail .panicked)

/-- The runs of a job: of the first steps of its demand in their order, on the source host. -/
structure MakesRuns (g : Generator) (d : DemandSchedule) (k : Nat) (host : Option String)
    (runs : List (TrafficStep × RunResult)) (es : List PlaybackEvent) : Prop where
  steps : runs.map Prod.fst <+: d.steps
  unhosted : host = none → runs = [] ∧ es = []
  hosted : ∀ name, host = some name → es = runs.flatMap (runEvents g d k name)

section
variable {g : Generator} {d : DemandSchedule} {k : Nat} {stopped : Bool} {host : Option String} {j : Job}
  {es : List PlaybackEvent} {runs : List (TrafficStep × RunResult)} {report : DemandReport}

theorem JobCourse.exists_jobEnd (h : JobCourse g d k stopped host j es) (hover : j.phase = .over) :
    ∃ runs, MakesRuns g d k host runs es ∧ JobEnd d runs j.report := by
  cases h with
  | unknown => exact ⟨[], ⟨List.nil_prefix, fun _ => ⟨rfl, rfl⟩, nofun⟩, .unknown⟩
  | between _ _ waiting => rcases waiting with rfl | rfl <;> cases hover
  | running => cases hover
  | @complete host done steps =>
    exact ⟨done, ⟨steps ▸ List.prefix_rfl, nofun, fun _ hname => Option.some.inj hname ▸ rfl⟩,
      .whole done false⟩
  | @cancelled host done rest steps =>
    refine ⟨done, ⟨?_, nofun, fun _ hname => Option.some.inj hname ▸ rfl⟩, .whole done true⟩
    rw [steps]
    exact List.prefix_append _ _
  | @panicked host done step rest steps =>
    refine ⟨_, ⟨?_, nofun, fun _ hname => Option.some.inj hname ▸ rfl⟩, .panicked done step⟩
    rw [steps, List.map_append]
    exact (List.prefix_append_right_inj _).2 (List.prefix_append [step] rest)

/-- The end of every run of a job is in the history. -/
theorem MakesRuns.ended_mem (h : MakesRuns g d k host runs es) {run : TrafficStep × RunResult}
    (hrun : run ∈ runs) : ∃ name command, .ended k name command run.2 ∈ es := by
  cases hhost : host with
  | none =>
    rw [(h.unhosted hhost).1] at hrun
    cases hrun
  | some name => exact ⟨name, _, h.hosted name hhost ▸ ended_mem_flatMap_runEvents g d k name hrun⟩

/-- No failure of a run tells that a job was taken down. -/
theorem panicked_not_mem_failuresOf (runs : List (TrafficStep × RunResult)) :
    .panicked ∉ failuresOf runs := by
  intro hmem
  obtain ⟨⟨step, result⟩, -, hfailure⟩ := List.mem_filterMap.1 hmem
  cases result <;> cases hfailure

/-- A report is truthful unless a run after the first one took the job down. -/
theorem JobEnd.isTruthful_iff (h : JobEnd d runs report)
    (htold : ∀ run ∈ runs, run.2 = .panicked → .panicked ∈ report.failures) :
    report.IsTruthful runs ↔ ∀ run ∈ runs.tail, run.2 ≠ .panicked := by
  cases h with
  | unknown =>
    exact iff_of_true ⟨.inl rfl, List.nil_sublist _⟩ nofun
  | whole done cancelled =>
    refine iff_of_true ⟨.inl rfl, List.Sublist.refl _⟩ fun run hrun hpanicked => ?_
    exact panicked_not_mem_failuresOf _ (htold run (List.mem_of_mem_tail hrun) hpanicked)
  | panicked done step =>
    cases done with
    | nil => exact iff_of_true ⟨.inr ⟨rfl, _, List.mem_singleton_self _, rfl⟩, List.nil_sublist _⟩ nofun
    | cons run done =>
      refine iff_of_false (fun htruthful => ?_) fun hnone => ?_
      · have hcount := htruthful.stepsRun
        simp [DemandReport.fail, DemandReport.initial] at hcount
      · exact hnone (step, .panicked) (List.mem_append_right done (List.mem_singleton_self _)) rfl

end

/-- The second of three runs takes the job down after the first one failed: neither of them is counted, and
the failure of the first one is lost. -/
theorem playback_untruthful :
    let host : Ipv4 := ⟨192, 168, 1, 1⟩
    let step : TrafficStep := ⟨⟨192, 168, 2, 1⟩, 1, .ofSeconds 1⟩
    let d : DemandSchedule := ⟨host, step.destination, [step, step, step]⟩
    let fault : ExperimentFault := .commandFailed "iperf3" "exit status: 1"
    let p := (Playback.ofSchedule (Schedule.empty.add d) .iperf3 (.ofList [(host, "h1")])).performAll
      [.looks 0, .begins 0, .ends 0 (.failed fault), .looks 0, .begins 0, .ends 0 .panicked]
    let runs := [(step, RunResult.failed fault), (step, .panicked)]
    p.isOver = true ∧ p.reports = [⟨host, step.destination, 0, 3, [.panicked], false⟩] ∧
      runsOf 0 p.history = runs.flatMap (runEvents .iperf3 d 0 "h1") ∧
      ∀ report ∈ p.reports, ¬ report.IsTruthful runs := by
  intro host step d fault p runs
  have hstart : Playback.ofSchedule (Schedule.empty.add d) .iperf3 (.ofList [(host, "h1")]) =
      ⟨.iperf3, [.ofDemand d (some "h1")], false, []⟩ := by
    have hhost : (OrderedMap.ofList [(host, "h1")]).find? d.source = some "h1" := by decide +kernel
    rw [Playback.ofSchedule, Schedule.demands_add (by decide), ← hhost]
    rfl
  have hreports : p.reports = [⟨host, step.destination, 0, 3, [.panicked], false⟩] := by decide +kernel
  refine ⟨by decide +kernel, hreports, ?_, fun report hreport htruthful => ?_⟩
  · have hp : p = Playback.performAll ⟨.iperf3, [.ofDemand d (some "h1")], false, []⟩
        [.looks 0, .begins 0, .ends 0 (.failed fault), .looks 0, .begins 0, .ends 0 .panicked] :=
      congrArg (Playback.performAll · _) hstart
    rw [hp]
    rfl
  · rw [hreports] at hreport
    cases List.mem_singleton.1 hreport
    have hcount := htruthful.stepsRun
    simp [runs] at hcount

/-- Whatever the hosts, the results of the runs and the order of the actions, once a playback is over
there is one report for every demand, in the order of the schedule. It counts all runs of the demand and
holds all their failures if and only if no run but the first one took the job down. -/
theorem playback_isTruthful_iff (s : Schedule) (g : Generator) (hosts : OrderedMap Ipv4 String)
    (actions : List PlaybackAction) {p : Playback}
    (hp : (Playback.ofSchedule s g hosts).performAll actions = p) (hover : p.isOver = true) :
    p.reports.length = s.demands.length ∧
      ∀ k d, s.demands[k]? = some d → ∃ report runs, p.reports[k]? = some report ∧
        MakesRuns g d k (hosts.find? d.source) runs (runsOf k p.history) ∧ JobEnd d runs report ∧
        (report.IsTruthful runs ↔ ∀ run ∈ runs.tail, run.2 ≠ .panicked) := by
  subst hp
  have hfollows := (Playback.follows_ofSchedule s g hosts).performAll actions
  have hpanics := (Playback.tellsPanics_ofSchedule s g hosts).performAll actions
  refine ⟨(List.length_map ..).trans hfollows.length, fun k d hd => ?_⟩
  obtain ⟨j, hj, hcourse⟩ := hfollows.course k d hd
  obtain ⟨runs, hruns, hend⟩ := hcourse.exists_jobEnd (Playback.phase_of_isOver hover hj)
  refine ⟨j.report, runs, by simp [Playback.reports, hj], hruns, hend, hend.isTruthful_iff ?_⟩
  intro run hrun hpanicked
  obtain ⟨name, command, hended⟩ := hruns.ended_mem hrun
  rw [hpanicked] at hended
  obtain ⟨j', hj', -, htold⟩ := hpanics k name command (List.mem_filter.1 hended).1
  cases hj.symm.trans hj'
  exact htold

/-- Two demands of a single step: one run takes its job down, and the other one fails. -/
theorem playback_isTruthful_single_steps :
    let host : Ipv4 := ⟨192, 168, 1, 1⟩
    let step : TrafficStep := ⟨⟨192, 168, 2, 1⟩, 1, .ofSeconds 1⟩
    let d : DemandSchedule := ⟨host, step.destination, [step]⟩
    let d' : DemandSchedule := ⟨host, ⟨192, 168, 3, 1⟩, [step]⟩
    let hosts : OrderedMap Ipv4 String := .ofList [(host, "h1")]
    let s := (Schedule.empty.add d).add d'
    let fault : ExperimentFault := .commandFailed "iperf3" "exit status: 1"
    let p := (Playback.ofSchedule s .iperf3 hosts).performAll [.looks 0, .looks 1, .begins 1, .begins 0,
      .ends 0 .panicked, .ends 1 (.failed fault)]
    p.isOver = true ∧ ∀ k e, [d, d'][k]? = some e → ∃ report runs, p.reports[k]? = some report ∧
      MakesRuns .iperf3 e k (hosts.find? e.source) runs (runsOf k p.history) ∧ report.IsTruthful runs := by
  intro host step d d' hosts s fault p
  have hover : p.isOver = true := by decide +kernel
  have hs : s.demands = [d, d'] := by
    rw [Schedule.demands_add (by decide), Schedule.demands_add (by decide)]
    rfl
  refine ⟨hover, fun k e he => ?_⟩
  have hsteps : e.steps.length = 1 := by
    rcases List.mem_cons.1 (List.mem_of_getElem? he) with rfl | he
    · rfl
    · rw [List.mem_singleton.1 he]
      rfl
  obtain ⟨-, hdemands⟩ := playback_isTruthful_iff s .iperf3 hosts _ (p := p) rfl hover
  obtain ⟨report, runs, hreport, hruns, -, hiff⟩ := hdemands k e (hs ▸ he)
  refine ⟨report, runs, hreport, hruns, hiff.2 fun run hrun => ?_⟩
  have hlength := hruns.steps.length_le
  rw [List.length_map, hsteps] at hlength
  have htail : runs.tail = [] := List.eq_nil_of_length_eq_zero (by rw [List.length_tail]; omega)
  rw [htail] at hrun
  cases hrun

end BackboneLab
