import BackboneLab.Experiment.Run
import BackboneLab.Proofs.Experiment.Calls
import BackboneLab.Proofs.Experiment.Waiting
import BackboneLab.Proofs.Files.Actions
import BackboneLab.Proofs.Sequencing

/-!
# What the parts of a run do

Each part of a run is followed from the progress where it begins to the one where it ends: what it asks of
the systems, and with which result it ends. `Testbed.Leads` says that nothing else changes the progress:
the daemons that a run keeps and the history that it writes are those of which its calls tell. For the two
waits the questions that they ask are followed by `Waited`.
-/

namespace BackboneLab

variable {σ α : Type}

/-- A run comes from `q` to `q'` by asking these calls. It keeps the daemons that were started by them, and
its history tells of them and of no other calls. -/
structure Testbed.Leads (t : Testbed σ) (q : Progress σ) (cs : List Call) (q' : Progress σ) : Prop where
  asked : t.Asked q.scene cs q'.scene
  started : q'.started = q.started ++ startedIn cs
  told : toldIn q'.history = toldIn q.history ++ cs.flatMap Call.events

namespace Testbed.Leads

variable {t : Testbed σ} {q q₁ q' : Progress σ} {c : Call} {cs cs' : List Call}

theorem nil (t : Testbed σ) (q : Progress σ) : t.Leads q [] q :=
  ⟨.nil, (List.append_nil _).symm, (List.append_nil _).symm⟩

theorem trans (h : t.Leads q cs q₁) (h' : t.Leads q₁ cs' q') : t.Leads q (cs ++ cs') q' where
  asked := h.asked.append h'.asked
  started := by rw [h'.started, h.started, startedIn_append, List.append_assoc]
  told := by rw [h'.told, h.told, List.flatMap_append, List.append_assoc]

theorem toldIn_events (c : Call) : toldIn c.events = c.events := by
  cases c with
  | exchange request response =>
    simp only [Call.events]
    split <;> rfl
  | play playback actions =>
    refine List.filter_eq_self.2 fun e he => ?_
    obtain ⟨_, -, rfl⟩ := List.mem_map.1 he
    rfl
  | startEmulator | stopEmulator | startDaemon | stopDaemon | spawn | stopSpawned | now | sleep
  | isStopped | listen | receive => rfl

/-- One call, with what the run writes down of it. -/
theorem call (h : t.Answers c q.scene q'.scene) (hstarted : q'.started = q.started ++ startedIn [c])
    (hhistory : q'.history = q.history ++ c.events) : t.Leads q [c] q' where
  asked := .single h
  started := hstarted
  told := by rw [hhistory, toldIn_append, toldIn_events, List.flatMap_singleton]

/-- A call that starts no daemon. -/
theorem quiet {scene : Scene σ} (h : t.Answers c q.scene scene) (hc : startedIn [c] = []) :
    t.Leads q [c] ⟨scene, q.started, q.history ++ c.events⟩ :=
  .call h (by rw [hc, List.append_nil]) rfl

/-- What a run concludes is written down without a call. -/
theorem conclude (h : t.Leads q cs q') {e : Event} (he : e.isOfCall = false) :
    t.Leads q cs { q' with history := q'.history ++ [e] } where
  asked := h.asked
  started := h.started
  told := by
    have hquiet : toldIn [e] = [] := by simp [toldIn, he]
    rw [toldIn_append, hquiet, List.append_nil, h.told]

end Testbed.Leads

/-! ## What waits observe -/

/-- The number of intents that a response tells of. -/
def Endpoint.countOf (e : Endpoint) (r : Response) : Option Nat := (e.intentCount.read r).toOption

/-- What a wait that polls the controller observes by a call. -/
def Call.observed (e : Endpoint) : Call → Option Observation
  | .now time => some (.clock time)
  | .isStopped stopped => some (.flag stopped)
  | .exchange request response =>
    if request = e.intentCount.request then some (.answer (e.countOf response)) else none
  | .receive reception => some (.received reception)
  | .sleep nanos => some (.slept nanos)
  | _ => none

/-- Each of the calls is one by which a wait observes something, and this is what it observes. -/
def Shows (e : Endpoint) (cs : List Call) (o : List Observation) : Prop :=
  cs.map (Call.observed e) = o.map some

namespace Shows

variable {e : Endpoint} {cs cs' : List Call} {o o' : List Observation}

theorem append (h : Shows e cs o) (h' : Shows e cs' o') : Shows e (cs ++ cs') (o ++ o') := by
  rw [Shows, List.map_append, List.map_append, h, h']

theorem concat {c : Call} {x : Observation} (h : Shows e cs o) (hc : c.observed e = some x) :
    Shows e (cs ++ [c]) (o ++ [x]) :=
  h.append (congrArg (fun y => [y]) hc)

/-- A last observation comes from a last call. -/
theorem of_concat {x : Observation} (h : Shows e cs (o ++ [x])) :
    ∃ before c, cs = before ++ [c] ∧ Shows e before o ∧ c.observed e = some x := by
  rw [Shows, List.map_append] at h
  obtain ⟨before, last, rfl, hbefore, hlast⟩ := List.map_eq_append_iff.1 h
  obtain ⟨c, rfl, hc⟩ := List.map_eq_singleton_iff.1 hlast
  exact ⟨before, c, rfl, hbefore, hc⟩

/-- A wait starts, plays and stops nothing. -/
theorem tells (h : Shows e cs o) : Tells cs [] := by
  refine Tells.of_forall fun c hc => ?_
  have hobserved : c.observed e ∈ o.map some := h ▸ List.mem_map_of_mem hc
  obtain ⟨x, -, hx⟩ := List.mem_map.1 hobserved
  cases c with
  | now | isStopped | exchange | receive | sleep => exact ⟨rfl, rfl, rfl⟩
  | startEmulator | stopEmulator | startDaemon | stopDaemon | spawn | stopSpawned | listen | play =>
    cases hx

end Shows

namespace Run

/-! ## Running a part -/

@[simp] theorem run_record (e : Event) (q : Progress σ) :
    (record e).run q = (.ok (), { q with history := q.history ++ [e] }) := rfl

@[simp] theorem run_ask (a : Ask σ α) (q : Progress σ) :
    (ask a).run q = (.ok (a q.scene).1, { q with scene := (a q.scene).2 }) := rfl

@[simp] theorem run_require (x : Except ExperimentFault α) (q : Progress σ) :
    (require x).run q = (x.mapError .fault, q) := by
  cases x <;> rfl

theorem run_onFiles (a : FileAction α) (q : Progress σ) :
    (onFiles a).run q = (((a.run q.scene.files).1.mapError .preparation).mapError .fault,
      { q with scene := { q.scene with files := (a.run q.scene.files).2 } }) := by
  simp only [onFiles, run_bind, run_modifyGet, run_require]
  rfl

theorem run_attempt (a : Ask σ Answer) (e : Answer → Event) (q : Progress σ) :
    (attempt a e).run q = ((a q.scene).1.mapError .fault,
      ⟨(a q.scene).2, q.started, q.history ++ [e (a q.scene).1]⟩) := by
  simp only [attempt, run_bind, run_ask, run_record, run_require]

variable {t : Testbed σ} {q q' : Progress σ}

/-! ## Stages that do not wait -/

/-- Either all daemons start, or the first one that does not start ends the stage. -/
theorem of_startDaemons {ds : List Daemon} {r : Except Halt Unit}
    (h : (startDaemons t ds).run q = (r, q')) :
    (r = .ok () ∧ t.Leads q (Call.startAll ds) q') ∨
      ∃ before d after f, ds = before ++ d :: after ∧ r = .error (.fault f) ∧
        t.Leads q (Call.startAll before ++ [.startDaemon d (.error f)]) q' := by
  induction ds generalizing q with
  | nil =>
    cases h
    exact .inl ⟨rfl, .nil t _⟩
  | cons d ds ih =>
    rw [startDaemons, run_bind, run_attempt] at h
    cases ha : (t.startDaemon d q.scene).1 with
    | error f =>
      rw [ha] at h
      cases h
      exact .inr ⟨[], d, ds, f, rfl, rfl, .quiet (c := .startDaemon d (.error f)) (Prod.ext ha rfl) rfl⟩
    | ok _ =>
      rw [ha] at h
      have hfirst : t.Leads q [.startDaemon d (.ok ())] ⟨(t.startDaemon d q.scene).2, q.started ++ [d],
          q.history ++ [.daemonStarted d (.ok ())]⟩ := .call (Prod.ext ha rfl) rfl rfl
      rcases ih h with ⟨hr, hrest⟩ | ⟨before, d', after, f, hds, hr, hrest⟩
      · exact .inl ⟨hr, hfirst.trans hrest⟩
      · exact .inr ⟨d :: before, d', after, f, congrArg (d :: ·) hds, hr, hfirst.trans hrest⟩

/-- One document is sent, and the stage ends as the response to it is read. -/
theorem of_upload {e : Endpoint} {c : NetworkConfig} {r : Except Halt Unit}
    (h : (upload t e c).run q = (r, q')) :
    ∃ response, t.Leads q [.exchange (e.upload c).request response] q' ∧
      r = (((e.upload c).read response).mapError .controller).mapError .fault := by
  simp only [upload, run_bind, run_ask, run_record, run_require] at h
  cases h
  refine ⟨_, .quiet (c := .exchange (e.upload c).request _) rfl rfl, rfl⟩

/-- Either all commands start, or the first one that does not start ends the stage. -/
theorem of_spawnAll {cs : List (String × HostCommand)} {r : Except Halt Nat}
    (h : (spawnAll t cs).run q = (r, q')) :
    (r = .ok cs.length ∧ t.Leads q (Call.spawnAll cs) q') ∨
      ∃ before c after f, cs = before ++ c :: after ∧ r = .error (.fault f) ∧
        t.Leads q (Call.spawnAll before ++ [.spawn c.1 c.2 (.error f)]) q' := by
  induction cs generalizing q q' r with
  | nil =>
    cases h
    exact .inl ⟨rfl, .nil t q⟩
  | cons c cs ih =>
    rw [spawnAll, run_bind, run_attempt] at h
    cases ha : (t.spawn c.1 c.2 q.scene).1 with
    | error f =>
      rw [ha] at h
      cases h
      exact .inr ⟨[], c, cs, f, rfl, rfl, .quiet (c := .spawn c.1 c.2 (.error f)) (Prod.ext ha rfl) rfl⟩
    | ok _ =>
      rw [ha] at h
      have hfirst : t.Leads q [.spawn c.1 c.2 (.ok ())] ⟨(t.spawn c.1 c.2 q.scene).2, q.started,
          q.history ++ [.spawned c.1 c.2 (.ok ())]⟩ := .quiet (Prod.ext ha rfl) rfl
      rcases of_run_bind h with ⟨e, hspawn, rfl⟩ | ⟨n, q₁, hspawn, hr⟩
      · rcases ih hspawn with ⟨he, -⟩ | ⟨before, c', after, f, hcs, he, hrest⟩
        · cases he
        · cases he
          exact .inr ⟨c :: before, c', after, f, congrArg (c :: ·) hcs, rfl, hfirst.trans hrest⟩
      · rcases ih hspawn with ⟨hn, hrest⟩ | ⟨before, c', after, f, hcs, hn, hrest⟩
        · cases hn
          cases hr
          exact .inl ⟨rfl, hfirst.trans hrest⟩
        · cases hn

/-- The expected number of intents is that of the files, which are only read. -/
theorem of_readExpected {confDir : Path} {r : Except Halt Nat}
    (h : (readExpected confDir).run q = (r, q')) :
    t.Leads q [] q' ∧
      ((∃ e, ((IntentExpectation.ofDirectory confDir).run q.scene.files).1 = .ok e ∧
          r = .ok e.count) ∨
        ∃ f, ((IntentExpectation.ofDirectory confDir).run q.scene.files).1 = .error f ∧
          r = .error (.fault (.preparation f))) := by
  have hkept := IntentExpectation.keeps_ofDirectory confDir q.scene.files
  simp only [readExpected, run_bind, run_onFiles] at h
  cases ha : ((IntentExpectation.ofDirectory confDir).run q.scene.files).1 with
  | error f =>
    rw [ha, hkept] at h
    cases h
    exact ⟨.nil t q, .inr ⟨f, rfl, rfl⟩⟩
  | ok e =>
    rw [ha, hkept] at h
    cases h
    exact ⟨(Testbed.Leads.nil t q).conclude rfl, .inl ⟨e, rfl, rfl⟩⟩

/-- A playback is left to the systems, and has a result once all jobs are over. -/
theorem of_play {schedule : Schedule} {g : Generator} {hosts : OrderedMap Ipv4 String}
    {r : Except Halt (List DemandReport)} (h : (play t schedule g hosts).run q = (r, q')) :
    ∃ actions, t.Leads q [.play (.ofSchedule schedule g hosts) actions] q' ∧
      r = if ((Playback.ofSchedule schedule g hosts).performAll actions).isOver
        then .ok ((Playback.ofSchedule schedule g hosts).performAll actions).reports
        else .error .unfinished := by
  refine ⟨(t.play (.ofSchedule schedule g hosts) q.scene).1, ?_⟩
  have hplayed : t.Leads q
      [.play (.ofSchedule schedule g hosts) (t.play (.ofSchedule schedule g hosts) q.scene).1]
      ⟨(t.play (.ofSchedule schedule g hosts) q.scene).2, q.started, _⟩ := .quiet rfl rfl
  simp only [play, run_bind, run_ask, run_modify] at h
  split at h
  next hover =>
    cases h
    exact ⟨hplayed, (if_pos hover).symm⟩
  next hover =>
    cases h
    exact ⟨hplayed, (if_neg hover).symm⟩

end Run

/-! ## Waits -/

/-- A wait from `q` to `q'` with the given observations: all that it asks are the calls by which it observes
them. -/
def Waited (t : Testbed σ) (e : Endpoint) (q : Progress σ) (o : List Observation) (q' : Progress σ) :
    Prop :=
  ∃ cs, t.Leads q cs q' ∧ Shows e cs o

namespace Waited

variable {t : Testbed σ} {e : Endpoint} {q q' : Progress σ} {o : List Observation}

theorem refl (t : Testbed σ) (e : Endpoint) (q : Progress σ) : Waited t e q [] q :=
  ⟨[], .nil t q, rfl⟩

/-- One call more. -/
theorem concat {c : Call} {x : Observation} {scene : Scene σ} (h : Waited t e q o q')
    (hc : t.Answers c q'.scene scene) (hx : c.observed e = some x) (hquiet : startedIn [c] = []) :
    Waited t e q (o ++ [x]) ⟨scene, q'.started, q'.history ++ c.events⟩ := by
  obtain ⟨cs, hleads, hshows⟩ := h
  exact ⟨cs ++ [c], hleads.trans (.quiet hc hquiet), hshows.concat hx⟩

/-- A call of which the history does not tell. -/
theorem ask {c : Call} {x : Observation} {scene : Scene σ} (h : Waited t e q o q')
    (hc : t.Answers c q'.scene scene) (hx : c.observed e = some x) (hquiet : startedIn [c] = [])
    (hevents : c.events = []) : Waited t e q (o ++ [x]) { q' with scene } := by
  have hone := h.concat hc hx hquiet
  rwa [hevents, List.append_nil] at hone

end Waited

namespace Run

variable {t : Testbed σ} {q q' : Progress σ}

/-- Whatever a wait asks, it remains a wait. -/
theorem surroundings_tracks (t : Testbed σ) (e : Endpoint) (q : Progress σ) :
    (surroundings t e).Tracks (Waited t e q) where
  now h := h.ask (c := .now _) rfl rfl rfl rfl
  isStopped h := h.ask (c := .isStopped _) rfl rfl rfl rfl
  poll h := h.concat (c := .exchange e.intentCount.request _) rfl (if_pos rfl) rfl
  receive h := h.ask (c := .receive _) rfl rfl rfl rfl
  sleep n h := h.ask (c := .sleep n) rfl rfl rfl rfl

/-- The wait for the intents. -/
theorem of_awaitIntents {e : Endpoint} {expected patience : Nat} {policy : RetryPolicy}
    {r : Except Halt Unit} (h : (awaitIntents t e expected policy patience).run q = (r, q')) :
    ∃ cs o outcome, t.Leads q cs q' ∧ Shows e cs o ∧ IntentWait expected policy patience o outcome ∧
      r = match outcome with
        | some (.reached _) => .ok ()
        | some (.timedOut last) => .error (.fault (.intentTimeout expected last))
        | some .cancelled => .error (.fault .cancelled)
        | none => .error .unfinished := by
  obtain ⟨o, ⟨cs, hleads, hshows⟩, hwait⟩ := Surroundings.awaitIntents_run (surroundings_tracks t e q)
    expected policy patience (.refl t e q)
  refine ⟨cs, o, ((surroundings t e).awaitIntents expected policy patience q).1, ?_⟩
  simp only [awaitIntents, run_bind, run_modifyGet] at h
  cases houtcome : ((surroundings t e).awaitIntents expected policy patience q).1 with
  | none =>
    rw [houtcome] at h hwait
    cases h
    exact ⟨hleads, hshows, hwait, rfl⟩
  | some outcome =>
    rw [houtcome] at h hwait
    cases outcome with
    | reached | timedOut | cancelled =>
      cases h
      exact ⟨hleads, hshows, hwait, rfl⟩

/-- The wait for the trigger. Before it the socket is opened. -/
theorem of_awaitTrigger {e : Endpoint} {patience : Nat} {r : Except Halt Unit}
    (h : (awaitTrigger t e patience).run q = (r, q')) :
    (∃ f, t.Leads q [.listen (.error f)] q' ∧ r = .error (.fault f)) ∨
      ∃ cs o outcome, t.Leads q (.listen (.ok ()) :: cs) q' ∧ Shows e cs o ∧
        TriggerRun patience o outcome ∧
        r = match outcome with
          | some (.ok (some _)) => .ok ()
          | some (.ok none) => .error (.fault .cancelled)
          | some (.error f) => .error (.fault f)
          | none => .error .unfinished := by
  simp only [awaitTrigger, run_bind, run_ask, run_require, run_modifyGet] at h
  cases hlisten : (t.listen q.scene).1 with
  | error f =>
    rw [hlisten] at h
    cases h
    refine .inl ⟨f, ?_, rfl⟩
    exact .call (Prod.ext hlisten rfl) (List.append_nil _).symm (List.append_nil _).symm
  | ok _ =>
  rw [hlisten] at h
  have hlistened : t.Leads q [.listen (.ok ())] { q with scene := (t.listen q.scene).2 } :=
    .call (Prod.ext hlisten rfl) (List.append_nil _).symm (List.append_nil _).symm
  generalize ({ q with scene := (t.listen q.scene).2 } : Progress σ) = q₁ at h hlistened
  obtain ⟨o, ⟨cs, hleads, hshows⟩, hrun⟩ :=
    Surroundings.awaitTrigger_run (surroundings_tracks t e q₁) patience (.refl t e q₁)
  refine .inr ⟨cs, o, ((surroundings t e).awaitTrigger patience q₁).1, ?_⟩
  have hall := hlistened.trans hleads
  cases houtcome : ((surroundings t e).awaitTrigger patience q₁).1 with
  | none =>
    rw [houtcome] at hrun
    simp only [mapError_ok, houtcome] at h
    cases h
    exact ⟨hall, hshows, hrun, rfl⟩
  | some outcome =>
    rw [houtcome] at hrun
    simp only [mapError_ok, houtcome] at h
    rcases outcome with f | _ | sender
    · cases h
      exact ⟨hall, hshows, hrun, rfl⟩
    · cases h
      exact ⟨hall, hshows, hrun, rfl⟩
    · cases h
      exact ⟨hall.conclude rfl, hshows, hrun, rfl⟩

end Run

end BackboneLab
