import BackboneLab.Proofs.Emulation.Hosts
import BackboneLab.Proofs.Experiment.Playback
import BackboneLab.Proofs.Traffic.Generator
import BackboneLab.Proofs.Traffic.Schedule
import Mathlib.Data.List.Induction

/-!
# Servers have one client at a time

A server that serves one client at a time turns others away, so the jobs of a playback, which run side
by side, may not ask for the same server. What is in progress is told by the history (`inProgress`). A
job has at most one run in progress (`Playback.Follows.job_nodup`), different jobs are about different
pairs of hosts, and the port of a server tells the source. The main statement is `servers_unshared`.
-/

namespace BackboneLab

/-! ## Runs in progress -/

/-- A run of a client command by the job with the given number. -/
structure ClientRun where
  job : Nat
  host : String
  command : HostCommand
deriving DecidableEq

/-- What is in progress after an event. -/
def PlaybackEvent.track (runs : List ClientRun) : PlaybackEvent → List ClientRun
  | .began k host command => runs ++ [⟨k, host, command⟩]
  | .ended k host command _ => runs.erase ⟨k, host, command⟩
  | .looked _ _ | .stopped => runs

/-- The runs that have begun and not ended, after a list of events. -/
def inProgress (es : List PlaybackEvent) : List ClientRun := es.foldl PlaybackEvent.track []

theorem inProgress_concat (es : List PlaybackEvent) (e : PlaybackEvent) :
    inProgress (es ++ [e]) = e.track (inProgress es) := by
  rw [inProgress, List.foldl_concat, inProgress]

/-- An event changes what a job has in progress only if it is about a run of this job. -/
theorem PlaybackEvent.filter_track (k : Nat) (runs : List ClientRun) (e : PlaybackEvent) :
    (e.track runs).filter (·.job == k) =
      if e.isRunOf k then e.track (runs.filter (·.job == k)) else runs.filter (·.job == k) := by
  cases e with
  | looked j stopped => rfl
  | stopped => rfl
  | began j host command =>
    cases hj : j == k with
    | true => simp [track, isRunOf, hj]
    | false => simp [track, isRunOf, hj]
  | ended j host command result =>
    rw [track, isRunOf, track, ← List.erase_filter]
    cases hj : j == k with
    | true => rfl
    | false =>
      have hother : ⟨j, host, command⟩ ∉ runs.filter (·.job == k) := fun hmem => by
        simpa [hj] using (List.mem_filter.1 hmem).2
      exact List.erase_of_not_mem hother

/-- What a job has in progress is told by its own runs, by induction from the last event. -/
theorem filter_inProgress (k : Nat) (es : List PlaybackEvent) :
    (inProgress es).filter (·.job == k) = inProgress (runsOf k es) := by
  induction es using List.reverseRecOn with
  | nil => rfl
  | append_singleton es e ih =>
    rw [inProgress_concat, PlaybackEvent.filter_track, ih, runsOf_append]
    cases he : e.isRunOf k with
    | true =>
      have hruns : runsOf k [e] = [e] := List.filter_cons_of_pos he
      rw [if_pos rfl, hruns, inProgress_concat]
    | false =>
      have hruns : runsOf k [e] = [] := List.filter_cons_of_neg (by simp [he])
      rw [hruns, List.append_nil]
      rfl

/-- Whole runs leave nothing in progress. -/
theorem inProgress_runEvents (g : Generator) (d : DemandSchedule) (k : Nat) (host : String)
    (done : List (TrafficStep × RunResult)) : inProgress (done.flatMap (runEvents g d k host)) = [] := by
  induction done with
  | nil => rfl
  | cons run done ih =>
    have hrun : (runEvents g d k host run).foldl PlaybackEvent.track [] = [] := by
      simp [runEvents, PlaybackEvent.track]
    rw [List.flatMap_cons, inProgress, List.foldl_append, hrun]
    exact ih

/-- A job has at most one run in progress, which is that of one of its steps. -/
theorem JobCourse.inProgress {g : Generator} {d : DemandSchedule} {k : Nat} {stopped : Bool}
    {host : Option String} {j : Job} {es : List PlaybackEvent} (h : JobCourse g d k stopped host j es) :
    inProgress es = [] ∨ ∃ name, ∃ step ∈ d.steps, host = some name ∧
      inProgress es = [⟨k, name, g.clientCommand d.source step⟩] := by
  cases h with
  | unknown => exact .inl rfl
  | between => exact .inl (inProgress_runEvents ..)
  | @running name done step rest steps =>
    refine .inr ⟨name, step, by simp [steps], rfl, ?_⟩
    rw [inProgress_concat, inProgress_runEvents]
    rfl
  | complete => exact .inl (inProgress_runEvents ..)
  | cancelled => exact .inl (inProgress_runEvents ..)
  | panicked => exact .inl (inProgress_runEvents ..)

namespace Playback

/-- A run that plays a step of a demand of the schedule. -/
structure IsClientRun (s : Schedule) (g : Generator) (hosts : OrderedMap Ipv4 String) (r : ClientRun)
    (d : DemandSchedule) (step : TrafficStep) : Prop where
  demand : s.demands[r.job]? = some d
  host : hosts.find? d.source = some r.host
  step_mem : step ∈ d.steps
  command : r.command = g.clientCommand d.source step

variable {s : Schedule} {g : Generator} {hosts : OrderedMap Ipv4 String} {p : Playback}

theorem Follows.inProgress_of_job (h : Follows s g hosts p) (k : Nat) :
    (inProgress p.history).filter (·.job == k) = [] ∨
      ∃ r d step, (inProgress p.history).filter (·.job == k) = [r] ∧
        IsClientRun s g hosts r d step := by
  rw [filter_inProgress]
  by_cases hk : k < s.demands.length
  · have hd := List.getElem?_eq_getElem hk
    obtain ⟨j, -, hcourse⟩ := h.course k _ hd
    rcases hcourse.inProgress with hnil | ⟨name, step, hstep, hname, hrun⟩
    · exact .inl hnil
    · exact .inr ⟨_, _, step, hrun, hd, hname, hstep, rfl⟩
  · rw [h.others k (by omega)]
    exact .inl rfl

/-- Everything in progress plays a step of the schedule. -/
theorem Follows.isClientRun (h : Follows s g hosts p) {r : ClientRun}
    (hr : r ∈ inProgress p.history) : ∃ d step, IsClientRun s g hosts r d step := by
  have hmem : r ∈ (inProgress p.history).filter (·.job == r.job) :=
    List.mem_filter.2 ⟨hr, beq_self_eq_true _⟩
  rcases h.inProgress_of_job r.job with hnil | ⟨r', d, step, hrun, hclient⟩
  · rw [hnil] at hmem
    cases hmem
  · rw [hrun] at hmem
    obtain rfl := List.mem_singleton.1 hmem
    exact ⟨d, step, hclient⟩

/-- No job has two runs in progress. -/
theorem Follows.job_nodup (h : Follows s g hosts p) :
    ((inProgress p.history).map ClientRun.job).Nodup := by
  refine List.nodup_iff_count_le_one.2 fun k => ?_
  rw [List.count_eq_countP, List.countP_map, List.countP_eq_length_filter]
  change ((inProgress p.history).filter (·.job == k)).length ≤ 1
  rcases h.inProgress_of_job k with hnil | ⟨r, d, step, hrun, -⟩
  · simp [hnil]
  · simp [hrun]

end Playback

/-! ## Servers in use -/

/-- The servers that the runs in progress ask for. -/
def serversInUse (es : List PlaybackEvent) : List (Option Server) :=
  (inProgress es).map (·.command.server?)

section
variable {m : DemandMatrix} {interval : Span} {s : Schedule} {g : Generator}
  {hosts : OrderedMap Ipv4 String}

/-- A run asks for the server at the destination of its demand with the port of the source. -/
theorem Playback.IsClientRun.server? {r : ClientRun} {d : DemandSchedule} {step : TrafficStep}
    (h : IsClientRun s g hosts r d step) (hs : Schedule.build m interval = .ok s) (hg : g ≠ .ditg) :
    r.command.server? = some ⟨d.destination, Generator.portFor d.source⟩ := by
  have hdestination := Schedule.destination_of_mem_steps hs (List.mem_of_getElem? h.demand) h.step_mem
  rw [h.command, Generator.server?_clientCommand hg, hdestination]

/-- Demands of a schedule with the same destination and the same port are the same, since the port tells
the source. -/
theorem Schedule.eq_of_server_eq {n : EmulatedNetwork} (hn : n.HasDistinctHosts)
    (hs : Schedule.build m interval = .ok s) {i j : Nat} {d d' : DemandSchedule}
    (hi : s.demands[i]? = some d) (hj : s.demands[j]? = some d')
    (hd : d.source ∈ n.hostAddrs) (hd' : d'.source ∈ n.hostAddrs)
    (hserver : (⟨d.destination, Generator.portFor d.source⟩ : Server) =
      ⟨d'.destination, Generator.portFor d'.source⟩) : i = j := by
  have hsource : d.source = d'.source := hn.portFor_inj hd hd' (congrArg Server.port hserver)
  have hdestination : d.destination = d'.destination := congrArg Server.address hserver
  have hhosts : d.hosts = d'.hosts := by
    rw [DemandSchedule.hosts, DemandSchedule.hosts, hsource, hdestination]
  have hlt := (List.getElem?_eq_some_iff.1 hi).1
  refine (List.getElem?_inj (by rwa [List.length_map]) (Schedule.hosts_nodup hs)).1 ?_
  rw [List.getElem?_map, List.getElem?_map, hi, hj, Option.map_some, Option.map_some, hhosts]

end

/-- A server never has two clients at once. Whatever the order of the actions, every command in progress
asks for a server, and no two of them ask for the same one. -/
theorem servers_unshared {n : EmulatedNetwork} (hn : n.IsLaidOut) {m : DemandMatrix} {interval : Span}
    {s : Schedule} (hs : Schedule.build m interval = .ok s) (actions : List PlaybackAction) :
    let p := (Playback.ofSchedule s .iperf3 n.hostNames).performAll actions
    none ∉ serversInUse p.history ∧ (serversInUse p.history).Nodup := by
  intro p
  have hfollows : Playback.Follows s .iperf3 n.hostNames p :=
    (Playback.follows_ofSchedule s .iperf3 n.hostNames).performAll actions
  have hport : Generator.iperf3 ≠ .ditg := by decide
  constructor
  · intro hnone
    obtain ⟨r, hr, hserver⟩ := List.mem_map.1 hnone
    obtain ⟨d, step, hclient⟩ := hfollows.isClientRun hr
    rw [hclient.server? hs hport] at hserver
    cases hserver
  · refine hfollows.job_nodup.of_map.map_on fun r hr r' hr' heq => ?_
    obtain ⟨d, step, hclient⟩ := hfollows.isClientRun hr
    obtain ⟨d', step', hclient'⟩ := hfollows.isClientRun hr'
    rw [hclient.server? hs hport, hclient'.server? hs hport] at heq
    have hjob : r.job = r'.job :=
      Schedule.eq_of_server_eq hn.distinctHosts hs hclient.demand hclient'.demand
        (EmulatedNetwork.mem_hostAddrs hclient.host) (EmulatedNetwork.mem_hostAddrs hclient'.host)
        (Option.some.inj heq)
    exact List.inj_on_of_nodup_map hfollows.job_nodup hr hr' hjob

/-- Two hosts of the tutorial send to a third one at the same time, on ports of their own. -/
theorem servers_unshared_two_sources :
    let h (k : UInt8) : Ipv4 := ⟨192, 168, k, 1⟩
    let m := DemandMatrix.ofList [⟨h 1, h 3, [10]⟩, ⟨h 2, h 3, [10]⟩]
    ∃ n s, EmulatedNetwork.tutorial .default ⟨"conf"⟩ = .ok n ∧
      Schedule.build m (.ofSeconds 1) = .ok s ∧
      let p := (Playback.ofSchedule s .iperf3 n.hostNames).performAll
        [.looks 0, .looks 1, .begins 1, .begins 0]
      serversInUse p.history = [some ⟨h 3, 5002⟩, some ⟨h 3, 5001⟩] ∧
        none ∉ serversInUse p.history ∧ (serversInUse p.history).Nodup := by
  intro h m
  let n := (EmulatedNetwork.tutorial .default ⟨"conf"⟩).toOption.get!
  let s := (Schedule.build m (.ofSeconds 1)).toOption.get!
  have hn : EmulatedNetwork.tutorial .default ⟨"conf"⟩ = .ok n := by rfl
  have hs : Schedule.build m (.ofSeconds 1) = .ok s := by
    have hsome : (Schedule.build m (.ofSeconds 1)).toOption.isSome = true := by decide +kernel
    cases hbuild : Schedule.build m (.ofSeconds 1) with
    | error f => rw [hbuild] at hsome; cases hsome
    | ok s' =>
      have heq : s = s' := by
        simp only [s, hbuild]
        rfl
      rw [heq]
  refine ⟨n, s, hn, hs, ?_, servers_unshared (.tutorial hn) hs _⟩
  decide +kernel

end BackboneLab
