import BackboneLab.Proofs.Emulation.Daemons
import BackboneLab.Proofs.Experiment.Preparation

/-!
# The course of a run

`StagesStop` says for every stage of a run that can be the last one before the playback what the systems
were asked until then, with their answers, and why the run does not go on. No stage that is not reached asks
anything. `Run.stages_end` is the only place where the stages are taken apart, and `experiment_end` adds
what comes before and after them; what holds of every run is derived from their cases.
-/

namespace BackboneLab

variable {σ : Type}

/-- The call that tells the controller the prepared configuration. -/
def Preparation.uploadCall (p : Preparation) (s : Settings) : ControllerCall Unit :=
  (Endpoint.ofSettings s.controller).upload p.networkConfig

/-- The daemons of the prepared network. -/
def Preparation.daemons (p : Preparation) (s : Settings) : List Daemon := p.network.daemons s.quagga

/-- The receivers of the prepared network. -/
def Preparation.receivers (p : Preparation) (s : Settings) : List (String × HostCommand) :=
  p.network.receivers s.sync.trafficTool

/-- The playback of the prepared schedule before anything has happened. -/
def Preparation.playback (p : Preparation) (s : Settings) : Playback :=
  .ofSchedule p.schedule s.sync.trafficTool p.network.hostNames

/-- What is asked by a set-up that succeeds with the given response to the upload. -/
def Preparation.setUpCalls (p : Preparation) (s : Settings) (response : Response) : List Call :=
  Call.startAll (p.daemons s) ++
    .exchange (p.uploadCall s).request response :: Call.spawnAll (p.receivers s)

/-! ## The stages -/

section
variable (t : Testbed σ) (p : Preparation) (s : Settings) (confDir : Path) (patience : Nat) (x : Scene σ)

/-- Asked in scene `x`, these calls set everything up, and in the scene to which they lead the configuration
makes the intents of `e` expected. -/
inductive Ready (e : IntentExpectation) : List Call → Prop
  | mk {response : Response} {y : Scene σ} (accepted : (p.uploadCall s).read response = .ok ())
      (asked : t.Asked x (p.setUpCalls s response) y)
      (expects : ((IntentExpectation.ofDirectory confDir).run y.files).1 = .ok e) :
      Ready e (p.setUpCalls s response)

/-- After the set-up these calls are a wait for the intents in which the controller comes to tell of enough
of them. -/
inductive Installed (e : IntentExpectation) : List Call → Prop
  | mk {setUp wait : List Call} {o : List Observation} {count : Nat}
      (ready : Ready t p s confDir x e setUp) (shows : Shows (.ofSettings s.controller) wait o)
      (waits : IntentWait e.count s.sync.retryPolicy patience o (some (.reached count))) :
      Installed e (setUp ++ wait)

/-- Why the stages of a run that begin in scene `x` do not come to the playback, and what they have asked:
the first stage that fails, is stopped or has used up its rounds. -/
inductive StagesStop : Halt → List Call → Prop
  | daemonFails {before after : List Daemon} {d : Daemon} {f : ExperimentFault}
      (daemons : p.daemons s = before ++ d :: after) :
      StagesStop (.fault f) (Call.startAll before ++ [.startDaemon d (.error f)])
  | uploadFails {response : Response} {f : ControllerFault}
      (refused : (p.uploadCall s).read response = .error f) :
      StagesStop (.fault (.controller f))
        (Call.startAll (p.daemons s) ++ [.exchange (p.uploadCall s).request response])
  | receiverFails {response : Response} {before after : List (String × HostCommand)}
      {c : String × HostCommand} {f : ExperimentFault}
      (accepted : (p.uploadCall s).read response = .ok ())
      (receivers : p.receivers s = before ++ c :: after) :
      StagesStop (.fault f) (Call.startAll (p.daemons s) ++
        .exchange (p.uploadCall s).request response ::
          (Call.spawnAll before ++ [.spawn c.1 c.2 (.error f)]))
  | expectationFails {response : Response} {f : Fault} {y : Scene σ}
      (accepted : (p.uploadCall s).read response = .ok ())
      (asked : t.Asked x (p.setUpCalls s response) y)
      (unreadable : ((IntentExpectation.ofDirectory confDir).run y.files).1 = .error f) :
      StagesStop (.fault (.preparation f)) (p.setUpCalls s response)
  | pollingTimedOut {e : IntentExpectation} {setUp wait : List Call} {o : List Observation}
      {last : Option Nat} (ready : Ready t p s confDir x e setUp)
      (shows : Shows (.ofSettings s.controller) wait o)
      (waits : IntentWait e.count s.sync.retryPolicy patience o (some (.timedOut last))) :
      StagesStop (.fault (.intentTimeout e.count last)) (setUp ++ wait)
  | pollingStopped {e : IntentExpectation} {setUp wait : List Call} {o : List Observation}
      (ready : Ready t p s confDir x e setUp) (shows : Shows (.ofSettings s.controller) wait o)
      (waits : IntentWait e.count s.sync.retryPolicy patience o (some .cancelled)) :
      StagesStop (.fault .cancelled) (setUp ++ wait)
  | stillPolling {e : IntentExpectation} {setUp wait : List Call} {o : List Observation}
      (ready : Ready t p s confDir x e setUp) (shows : Shows (.ofSettings s.controller) wait o)
      (waits : IntentWait e.count s.sync.retryPolicy patience o none) :
      StagesStop .unfinished (setUp ++ wait)
  | listeningFails {e : IntentExpectation} {cs : List Call} {f : ExperimentFault}
      (installed : Installed t p s confDir patience x e cs) :
      StagesStop (.fault f) (cs ++ [.listen (.error f)])
  | receptionFails {e : IntentExpectation} {cs wait : List Call} {o : List Observation}
      {f : ExperimentFault} (installed : Installed t p s confDir patience x e cs)
      (shows : Shows (.ofSettings s.controller) wait o)
      (waits : TriggerRun patience o (some (.error f))) :
      StagesStop (.fault f) (cs ++ .listen (.ok ()) :: wait)
  | triggerStopped {e : IntentExpectation} {cs wait : List Call} {o : List Observation}
      (installed : Installed t p s confDir patience x e cs)
      (shows : Shows (.ofSettings s.controller) wait o)
      (waits : TriggerRun patience o (some (.ok none))) :
      StagesStop (.fault .cancelled) (cs ++ .listen (.ok ()) :: wait)
  | stillListening {e : IntentExpectation} {cs wait : List Call} {o : List Observation}
      (installed : Installed t p s confDir patience x e cs)
      (shows : Shows (.ofSettings s.controller) wait o) (waits : TriggerRun patience o none) :
      StagesStop .unfinished (cs ++ .listen (.ok ()) :: wait)

/-- How the stages of a run that begin in scene `x` end, and what they have asked: they stop before the
playback, or they end with it. -/
inductive StagesEnd : Except Halt ExperimentReport → List Call → Prop
  | stops {h : Halt} {cs : List Call} (stop : StagesStop t p s confDir patience x h cs) :
      StagesEnd (.error h) cs
  | plays {e : IntentExpectation} {cs wait : List Call} {o : List Observation} {sender : Ipv4}
      (actions : List PlaybackAction) (installed : Installed t p s confDir patience x e cs)
      (shows : Shows (.ofSettings s.controller) wait o)
      (waits : TriggerRun patience o (some (.ok (some sender)))) :
      StagesEnd (if ((p.playback s).performAll actions).isOver
        then .ok ⟨e.count, ((p.playback s).performAll actions).reports⟩
        else .error .unfinished)
        (cs ++ .listen (.ok ()) :: (wait ++ [.play (p.playback s) actions]))

end

namespace Run

variable {t : Testbed σ} {p : Preparation} {s : Settings} {confDir : Path} {q q' : Progress σ}

/-- Either everything is set up, or the first failure ends the set-up. -/
theorem of_setUp (confDir : Path) (patience : Nat) {r : Except Halt Unit}
    (h : (setUp t p s).run q = (r, q')) :
    (r = .ok () ∧ ∃ response, (p.uploadCall s).read response = .ok () ∧
      t.Leads q (p.setUpCalls s response) q') ∨
    ∃ halt cs, r = .error halt ∧ t.Leads q cs q' ∧
      StagesStop t p s confDir patience q.scene halt cs := by
  unfold setUp at h
  rcases hdaemons : (startDaemons t (p.network.daemons s.quagga)).run q with ⟨_, q₁⟩
  rcases of_startDaemons hdaemons with ⟨rfl, hleads₁⟩ | ⟨before, d, after, f, hsplit, rfl, hleads₁⟩
  case inr =>
    rw [run_bind_error hdaemons] at h
    cases h
    exact .inr ⟨_, _, rfl, hleads₁, .daemonFails hsplit⟩
  rw [run_bind_ok hdaemons] at h
  rcases hupload : (upload t (.ofSettings s.controller) p.networkConfig).run q₁ with ⟨_, q₂⟩
  obtain ⟨response, hleads₂, rfl⟩ := of_upload hupload
  rw [← Preparation.uploadCall] at hupload hleads₂
  cases haccepted : (p.uploadCall s).read response with
  | error f =>
    rw [haccepted] at hupload
    rw [run_bind_error hupload] at h
    cases h
    exact .inr ⟨_, _, rfl, hleads₁.trans hleads₂, .uploadFails haccepted⟩
  | ok _ =>
  rw [haccepted] at hupload
  rw [run_bind_ok hupload] at h
  rcases hspawn : (spawnAll t (p.network.receivers s.sync.trafficTool)).run q₂ with ⟨_, q₃⟩
  rcases of_spawnAll hspawn with ⟨rfl, hleads₃⟩ | ⟨before, c, after, f, hsplit, rfl, hleads₃⟩
  · rw [run_bind_ok hspawn] at h
    cases h
    exact .inl ⟨rfl, response, haccepted, hleads₁.trans (hleads₂.trans hleads₃)⟩
  · rw [run_bind_error hspawn] at h
    cases h
    exact .inr ⟨_, _, rfl, hleads₁.trans (hleads₂.trans hleads₃), .receiverFails haccepted hsplit⟩

/-- Either the controller tells of enough intents, or the stages end with the polling. -/
theorem of_polling {e : IntentExpectation} {x : Scene σ} {setUp : List Call} {patience : Nat}
    {r : Except Halt Unit} (hready : Ready t p s confDir x e setUp)
    (h : (awaitIntents t (.ofSettings s.controller) e.count s.sync.retryPolicy patience).run q =
      (r, q')) :
    ∃ wait, t.Leads q wait q' ∧
      ((r = .ok () ∧ Installed t p s confDir patience x e (setUp ++ wait)) ∨
        ∃ halt, r = .error halt ∧ StagesStop t p s confDir patience x halt (setUp ++ wait)) := by
  obtain ⟨wait, o, outcome, hleads, hshows, hwait, rfl⟩ := of_awaitIntents h
  refine ⟨wait, hleads, ?_⟩
  rcases outcome with _ | count | last | _
  · exact .inr ⟨_, rfl, .stillPolling hready hshows hwait⟩
  · exact .inl ⟨rfl, .mk hready hshows hwait⟩
  · exact .inr ⟨_, rfl, .pollingTimedOut hready hshows hwait⟩
  · exact .inr ⟨_, rfl, .pollingStopped hready hshows hwait⟩

/-- Either the trigger arrives, or the stages end with the waiting for it. -/
theorem of_reception {e : IntentExpectation} {x : Scene σ} {cs : List Call} {patience : Nat}
    {r : Except Halt Unit} (hinstalled : Installed t p s confDir patience x e cs)
    (h : (awaitTrigger t (.ofSettings s.controller) patience).run q = (r, q')) :
    (r = .ok () ∧ ∃ wait o sender, t.Leads q (.listen (.ok ()) :: wait) q' ∧
      Shows (.ofSettings s.controller) wait o ∧ TriggerRun patience o (some (.ok (some sender)))) ∨
    ∃ halt wait, r = .error halt ∧ t.Leads q wait q' ∧
      StagesStop t p s confDir patience x halt (cs ++ wait) := by
  rcases of_awaitTrigger h with ⟨f, hleads, rfl⟩ | ⟨wait, o, outcome, hleads, hshows, hrun, rfl⟩
  · exact .inr ⟨_, _, rfl, hleads, .listeningFails hinstalled⟩
  rcases outcome with _ | f | _ | sender
  · exact .inr ⟨_, _, rfl, hleads, .stillListening hinstalled hshows hrun⟩
  · exact .inr ⟨_, _, rfl, hleads, .receptionFails hinstalled hshows hrun⟩
  · exact .inr ⟨_, _, rfl, hleads, .triggerStopped hinstalled hshows hrun⟩
  · exact .inl ⟨rfl, wait, o, sender, hleads, hshows, hrun⟩

/-- How the stages of every run end. -/
theorem stages_end {patience : Nat} {r : Except Halt ExperimentReport}
    (h : (stages t p s confDir patience).run q = (r, q')) :
    ∃ cs, t.Leads q cs q' ∧ StagesEnd t p s confDir patience q.scene r cs := by
  unfold stages at h
  rcases hsetUp : (setUp t p s).run q with ⟨_, q₁⟩
  rcases of_setUp confDir patience hsetUp with
    ⟨rfl, response, haccepted, hleads₁⟩ | ⟨_, _, rfl, hleads₁, hstop⟩
  case inr =>
    rw [run_bind_error hsetUp] at h
    cases h
    exact ⟨_, hleads₁, .stops hstop⟩
  rw [run_bind_ok hsetUp] at h
  rcases hreading : (readExpected confDir).run q₁ with ⟨_, q₂⟩
  obtain ⟨hquiet, ⟨e, hexpects, rfl⟩ | ⟨f, hunreadable, rfl⟩⟩ := of_readExpected (t := t) hreading
  case inr =>
    rw [run_bind_error hreading] at h
    cases h
    refine ⟨_, hleads₁.trans hquiet, ?_⟩
    rw [List.append_nil]
    exact .stops (.expectationFails haccepted hleads₁.asked hunreadable)
  rw [run_bind_ok hreading] at h
  have hready : Ready t p s confDir q.scene e (p.setUpCalls s response) :=
    .mk haccepted hleads₁.asked hexpects
  have hleads₂ := hleads₁.trans hquiet
  rw [List.append_nil] at hleads₂
  rcases hpolling : (awaitIntents t (.ofSettings s.controller) e.count s.sync.retryPolicy patience).run q₂
    with ⟨_, q₃⟩
  obtain ⟨wait, hleads₃, ⟨rfl, hinstalled⟩ | ⟨_, rfl, hstop⟩⟩ := of_polling hready hpolling
  case inr =>
    rw [run_bind_error hpolling] at h
    cases h
    exact ⟨_, hleads₂.trans hleads₃, .stops hstop⟩
  rw [run_bind_ok hpolling] at h
  rcases hreception : (awaitTrigger t (.ofSettings s.controller) patience).run q₃ with ⟨_, q₄⟩
  rcases of_reception hinstalled hreception with
    ⟨rfl, listening, o, sender, hleads₄, hshows, hrun⟩ | ⟨_, _, rfl, hleads₄, hstop⟩
  case inr =>
    rw [run_bind_error hreception] at h
    cases h
    exact ⟨_, (hleads₂.trans hleads₃).trans hleads₄, .stops hstop⟩
  rw [run_bind_ok hreception] at h
  rcases hplay : (play t p.schedule s.sync.trafficTool p.network.hostNames).run q₄ with ⟨_, q₅⟩
  obtain ⟨actions, hleads₅, rfl⟩ := of_play hplay
  have hend := StagesEnd.plays actions hinstalled hshows hrun
  have hleads := ((hleads₂.trans hleads₃).trans hleads₄).trans hleads₅
  rw [List.append_assoc, List.cons_append] at hleads
  rw [Preparation.playback] at hend
  split at hplay
  next hover =>
    rw [run_bind_ok hplay] at h
    cases h
    rw [if_pos hover] at hend
    exact ⟨_, hleads, hend⟩
  next hover =>
    rw [run_bind_error hplay] at h
    cases h
    rw [if_neg hover] at hend
    exact ⟨_, hleads, hend⟩

end Run

/-! ## Other ways of stopping -/

/-- A testbed on which everything is stopped in another way. -/
def Testbed.stopping (t : Testbed σ) (stopDaemon : Daemon → Ask σ Answer)
    (stopSpawned stopEmulator : Ask σ Answer) : Testbed σ :=
  { t with stopDaemon, stopSpawned, stopEmulator }

section
variable (t : Testbed σ) (stopDaemon : Daemon → Ask σ Answer) (stopSpawned stopEmulator : Ask σ Answer)

theorem Run.startDaemons_stopping (ds : List Daemon) :
    startDaemons (t.stopping stopDaemon stopSpawned stopEmulator) ds = startDaemons t ds := by
  induction ds with
  | nil => rfl
  | cons d ds ih =>
    rw [startDaemons, startDaemons, ih]
    rfl

theorem Run.spawnAll_stopping (cs : List (String × HostCommand)) :
    spawnAll (t.stopping stopDaemon stopSpawned stopEmulator) cs = spawnAll t cs := by
  induction cs with
  | nil => rfl
  | cons c cs ih =>
    rw [spawnAll, spawnAll, ih]
    rfl

/-- The stages ask nothing to stop. -/
theorem Run.stages_stopping (p : Preparation) (s : Settings) (confDir : Path) (patience : Nat) :
    stages (t.stopping stopDaemon stopSpawned stopEmulator) p s confDir patience =
      stages t p s confDir patience := by
  unfold stages setUp
  rw [startDaemons_stopping, spawnAll_stopping]
  rfl

/-- Calls that ask nothing to stop have the same answers. -/
theorem Testbed.Asked.stopping {t : Testbed σ} {cs : List Call} {x y : Scene σ} (h : t.Asked x cs y)
    (hstops : stopsIn cs = []) : (t.stopping stopDaemon stopSpawned stopEmulator).Asked x cs y := by
  induction h with
  | nil => exact .nil
  | @cons c cs x y z answers rest ih =>
    have hall := List.filter_eq_nil_iff.1 hstops
    refine .cons ?_ (ih (List.filter_eq_nil_iff.2 fun c' hc' => hall c' (List.mem_cons_of_mem c hc')))
    have hc := hall c List.mem_cons_self
    cases c with
    | stopDaemon | stopSpawned | stopEmulator => exact absurd rfl hc
    | startEmulator | startDaemon | spawn | exchange | now | sleep | isStopped | listen | receive
    | play => exact answers

end

/-! ## The whole run -/

/-- Whatever is prepared, the routers of the network have names of their own. -/
theorem Preparation.ofBundle_isNamed {b : Bundle} {s : Settings} {confDir : Path} {p : Preparation}
    {files files' : Store} (h : (ofBundle b s confDir).run files = (.ok p, files')) :
    p.network.IsNamed := by
  have hend := ofBundle_end b s confDir files
  rw [h] at hend
  cases hend with
  | written _ _ _ _ network => exact EmulatedNetwork.ofTopology_isNamed network
  | read _ _ network _ => exact EmulatedNetwork.tutorial_isNamed network

/-- The scene in which a preparation has been made, whether it has succeeded or not: only files can have
changed. -/
def Scene.prepared (scene : Scene σ) (b : Bundle) (s : Settings) (confDir : Path) : Scene σ :=
  { scene with files := ((Preparation.ofBundle b s confDir).run scene.files).2 }

section
variable (t : Testbed σ) (b : Bundle) (s : Settings) (confDir : Path) (patience : Nat) (scene : Scene σ)

/-- A run comes to scene `y` by starting the emulator for its preparation. -/
structure EmulatorUp (p : Preparation) (y : Scene σ) : Prop where
  prepared : ((Preparation.ofBundle b s confDir).run scene.files).1 = .ok p
  started : t.startEmulator p.network (scene.prepared b s confDir) = (.ok (), y)

/-- The result of a run that starts nothing, and what it has asked: the emulator at most. -/
inductive Unstarted : Except Halt ExperimentReport → List Call → Prop
  | unprepared {f : Fault} (refused : ((Preparation.ofBundle b s confDir).run scene.files).1 = .error f) :
      Unstarted (.error (.fault (.preparation f))) []
  | emulatorFails {p : Preparation} {f : ExperimentFault}
      (prepared : ((Preparation.ofBundle b s confDir).run scene.files).1 = .ok p) :
      Unstarted (.error (.fault f)) [.startEmulator p.network (.error f)]

/-- The result of a run, and what it has asked before anything was stopped. -/
inductive BodyEnd : Except Halt ExperimentReport → List Call → Prop
  | unstarted {r : Except Halt ExperimentReport} {cs : List Call}
      (unstarted : Unstarted b s confDir scene r cs) : BodyEnd r cs
  | staged {p : Preparation} {y : Scene σ} {r : Except Halt ExperimentReport} {cs : List Call}
      (up : EmulatorUp t b s confDir scene p y) (stages : StagesEnd t p s confDir patience y r cs) :
      BodyEnd r (.startEmulator p.network (.ok ()) :: cs)

/-- The emulator was started. -/
def IsEmulated (cs : List Call) : Prop := ∃ n, .startEmulator n (.ok ()) ∈ cs

/-- A run comes to `q` with this result by asking these calls, and however things are stopped, nothing but
the stopping follows: once the emulator was started, unless the run has no result. -/
structure ExperimentEnd (r : Except Halt ExperimentReport) (cs : List Call) (q : Progress σ) : Prop where
  leads : t.Leads (.ofScene (scene.prepared b s confDir)) cs q
  body : BodyEnd t b s confDir patience scene r cs
  stopped : IsEmulated cs → r ≠ .error .unfinished →
    ∀ (stopDaemon : Daemon → Ask σ Answer) (stopSpawned stopEmulator : Ask σ Answer),
      ((t.stopping stopDaemon stopSpawned stopEmulator).experiment b s confDir patience).run
        (.ofScene scene) = (r, Run.stopAll (t.stopping stopDaemon stopSpawned stopEmulator) q)
  kept : ¬ IsEmulated cs ∨ r = .error .unfinished →
    ∀ (stopDaemon : Daemon → Ask σ Answer) (stopSpawned stopEmulator : Ask σ Answer),
      ((t.stopping stopDaemon stopSpawned stopEmulator).experiment b s confDir patience).run
        (.ofScene scene) = (r, q)

theorem Unstarted.not_isEmulated {b s confDir scene} {r : Except Halt ExperimentReport} {cs : List Call}
    (h : Unstarted (σ := σ) b s confDir scene r cs) : ¬ IsEmulated cs := by
  rintro ⟨n, hn⟩
  cases h with
  | unprepared => cases hn
  | emulatorFails =>
    cases List.mem_singleton.1 hn

section
variable {t : Testbed σ} {p : Preparation} {y : Scene σ} {q q' : Progress σ}

/-- Stages without a result are followed by nothing. -/
theorem Run.run_emulated_unfinished
    (h : (stages t p s confDir patience).run q = (.error .unfinished, q')) :
    (emulated t p s confDir patience).run q = (.error .unfinished, q') := by
  rw [emulated, ExceptT.run_mk, h]

/-- Stages with a result are followed by the stopping. -/
theorem Run.run_emulated_ended {r : Except Halt ExperimentReport}
    (h : (stages t p s confDir patience).run q = (r, q')) (hended : r ≠ .error .unfinished) :
    (emulated t p s confDir patience).run q = (r, stopAll t q') := by
  rw [emulated, ExceptT.run_mk, h]
  rcases r with (f | _) | report
  · rfl
  · exact absurd rfl hended
  · rfl

/-- A run whose emulator does not start ends with its fault. -/
theorem Testbed.run_prepared_error {f : ExperimentFault}
    (h : t.startEmulator p.network q.scene = (.error f, y)) :
    (t.prepared p s confDir patience).run q =
      (.error (.fault f), ⟨y, q.started, q.history ++ [.emulatorStarted p.network (.error f)]⟩) := by
  refine run_bind_error ?_
  rw [Run.run_attempt, h]
  rfl

/-- A run whose emulator starts goes on with its stages. -/
theorem Testbed.run_prepared_ok (h : t.startEmulator p.network q.scene = (.ok (), y)) :
    (t.prepared p s confDir patience).run q = (Run.emulated t p s confDir patience).run
      ⟨y, q.started, q.history ++ [.emulatorStarted p.network (.ok ())]⟩ := by
  refine run_bind_ok (a := ()) ?_
  rw [Run.run_attempt, h]
  rfl

end

/-- A run without a preparation ends with the fault, in the scene that the preparation has left. -/
theorem Testbed.run_experiment_unprepared {f : Fault}
    (h : ((Preparation.ofBundle b s confDir).run scene.files).1 = .error f) :
    (t.experiment b s confDir patience).run (.ofScene scene) =
      (.error (.fault (.preparation f)), .ofScene (scene.prepared b s confDir)) := by
  rcases hprepare : (Preparation.ofBundle b s confDir).run scene.files with ⟨r, files⟩
  rw [hprepare] at h
  obtain rfl : r = .error f := h
  rw [run_experiment_error t patience hprepare, Scene.prepared, hprepare]

/-- A run with a preparation goes on in the scene that the preparation has left. -/
theorem Testbed.run_experiment_prepared {p : Preparation}
    (h : ((Preparation.ofBundle b s confDir).run scene.files).1 = .ok p) :
    (t.experiment b s confDir patience).run (.ofScene scene) =
      (t.prepared p s confDir patience).run (.ofScene (scene.prepared b s confDir)) := by
  rcases hprepare : (Preparation.ofBundle b s confDir).run scene.files with ⟨r, files⟩
  rw [hprepare] at h
  obtain rfl : r = .ok p := h
  rw [run_experiment_ok t patience hprepare, Scene.prepared, hprepare]

/-- A run without a preparation asks nothing. -/
theorem ExperimentEnd.unprepared {f : Fault}
    (hrefused : ((Preparation.ofBundle b s confDir).run scene.files).1 = .error f) :
    ExperimentEnd t b s confDir patience scene (.error (.fault (.preparation f))) []
      (.ofScene (scene.prepared b s confDir)) := by
  have hunstarted : Unstarted b s confDir scene (.error (.fault (.preparation f))) [] :=
    .unprepared hrefused
  refine ⟨.nil t _, .unstarted hunstarted, fun hemulated => absurd hemulated hunstarted.not_isEmulated, ?_⟩
  exact fun _ _ _ _ => Testbed.run_experiment_unprepared _ b s confDir patience scene hrefused

/-- A run whose emulator does not start asks nothing else. -/
theorem ExperimentEnd.emulatorFails {p : Preparation} {f : ExperimentFault} {y : Scene σ}
    (hprepared : ((Preparation.ofBundle b s confDir).run scene.files).1 = .ok p)
    (hfails : t.startEmulator p.network (scene.prepared b s confDir) = (.error f, y)) :
    ExperimentEnd t b s confDir patience scene (.error (.fault f)) [.startEmulator p.network (.error f)]
      ⟨y, [], [.emulatorStarted p.network (.error f)]⟩ := by
  have hunstarted : Unstarted b s confDir scene (.error (.fault f)) [.startEmulator p.network (.error f)] :=
    .emulatorFails hprepared
  refine ⟨.quiet (c := .startEmulator p.network (.error f)) hfails rfl, .unstarted hunstarted,
    fun hemulated => absurd hemulated hunstarted.not_isEmulated, ?_⟩
  intro _ stopDaemon stopSpawned stopEmulator
  rw [Testbed.run_experiment_prepared _ b s confDir patience scene hprepared]
  exact Testbed.run_prepared_error (t := t.stopping stopDaemon stopSpawned stopEmulator) s confDir
    patience hfails

/-- A run whose emulator is up goes through its stages. -/
theorem ExperimentEnd.staged {p : Preparation} {y : Scene σ}
    (hup : EmulatorUp t b s confDir scene p y) {r : Except Halt ExperimentReport} {q : Progress σ}
    (hstages : (Run.stages t p s confDir patience).run ⟨y, [], [.emulatorStarted p.network (.ok ())]⟩ =
      (r, q)) :
    ∃ cs, ExperimentEnd t b s confDir patience scene r (.startEmulator p.network (.ok ()) :: cs) q := by
  have hstarted : t.Leads (.ofScene (scene.prepared b s confDir)) [.startEmulator p.network (.ok ())]
      ⟨y, [], [.emulatorStarted p.network (.ok ())]⟩ :=
    .quiet (c := .startEmulator p.network (.ok ())) hup.started rfl
  have hrun (stopDaemon : Daemon → Ask σ Answer) (stopSpawned stopEmulator : Ask σ Answer) :
      ((t.stopping stopDaemon stopSpawned stopEmulator).experiment b s confDir patience).run
          (.ofScene scene) =
        (Run.emulated (t.stopping stopDaemon stopSpawned stopEmulator) p s confDir patience).run
          ⟨y, [], [.emulatorStarted p.network (.ok ())]⟩ := by
    rw [Testbed.run_experiment_prepared _ b s confDir patience scene hup.prepared]
    exact Testbed.run_prepared_ok (t := t.stopping stopDaemon stopSpawned stopEmulator) s confDir patience
      hup.started
  obtain ⟨cs, hleads, hend⟩ := Run.stages_end hstages
  refine ⟨cs, hstarted.trans hleads, .staged hup hend, fun _ hended _ _ _ => ?_, ?_⟩
  · rw [hrun]
    exact Run.run_emulated_ended s confDir patience (by rw [Run.stages_stopping, hstages]) hended
  · rintro (hidle | rfl) _ _ _
    · exact absurd ⟨p.network, List.mem_cons_self⟩ hidle
    · rw [hrun]
      exact Run.run_emulated_unfinished s confDir patience (by rw [Run.stages_stopping, hstages])

/-- How every run ends. -/
theorem experiment_end : ∃ r cs q, ExperimentEnd t b s confDir patience scene r cs q := by
  cases hprepared : ((Preparation.ofBundle b s confDir).run scene.files).1 with
  | error f => exact ⟨_, _, _, .unprepared t b s confDir patience scene hprepared⟩
  | ok p =>
  rcases hstart : t.startEmulator p.network (scene.prepared b s confDir) with ⟨f | _, y⟩
  · exact ⟨_, _, _, .emulatorFails t b s confDir patience scene hprepared hstart⟩
  · obtain ⟨cs, hend⟩ := ExperimentEnd.staged t b s confDir patience scene ⟨hprepared, hstart⟩ rfl
    exact ⟨_, _, _, hend⟩

end

end BackboneLab
