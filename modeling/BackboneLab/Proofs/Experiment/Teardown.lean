import BackboneLab.Proofs.Experiment.Course

/-!
# What is stopped after a run

The stages of a run tell of the daemons that they have started, of nothing stopped, and of nothing played
before the playback (`StagesStop.tells`, `StagesEnd.tells`). The daemons that a run keeps are those of which
its calls tell, so stopping those stops what was started. The main statement is `experiment_teardown`: once
the emulator is up, a run that ends has stopped exactly what was started, in the reverse order, and neither
its result nor what it asked before depends on how the stopping went. A run has no result only for the
reasons in `IsUnended`: it has used up its rounds, or the systems have let it down.
-/

namespace BackboneLab

variable {σ : Type}

/-! ## What the stages tell -/

section
variable {t : Testbed σ} {p : Preparation} {s : Settings} {confDir : Path} {patience : Nat} {x : Scene σ}

theorem Preparation.tells_setUpCalls (p : Preparation) (s : Settings) (response : Response) :
    Tells (p.setUpCalls s response) (p.daemons s) :=
  (Tells.startAll _).append_quiet (.cons ⟨rfl, rfl, rfl⟩ (.spawnAll _))

theorem Ready.tells {e : IntentExpectation} {cs : List Call} (h : Ready t p s confDir x e cs) :
    Tells cs (p.daemons s) := by
  cases h with
  | mk => exact p.tells_setUpCalls s _

theorem Installed.tells {e : IntentExpectation} {cs : List Call}
    (h : Installed t p s confDir patience x e cs) : Tells cs (p.daemons s) := by
  cases h with
  | mk ready shows _ => exact ready.tells.append_quiet shows.tells

/-- Whichever stage is the last one before the playback, its calls and those before it tell of the first
daemons, of nothing played and of nothing stopped. -/
theorem StagesStop.tells {halt : Halt} {cs : List Call}
    (h : StagesStop t p s confDir patience x halt cs) : ∃ ds, Tells cs ds ∧ ds <+: p.daemons s := by
  cases h with
  | daemonFails daemons =>
    exact ⟨_, (Tells.startAll _).append_quiet ⟨rfl, rfl, rfl⟩, daemons ▸ List.prefix_append _ _⟩
  | uploadFails =>
    exact ⟨_, (Tells.startAll _).append_quiet ⟨rfl, rfl, rfl⟩, List.prefix_refl _⟩
  | receiverFails =>
    refine ⟨_, (Tells.startAll _).append_quiet (.cons ⟨rfl, rfl, rfl⟩ ?_), List.prefix_refl _⟩
    exact (Tells.spawnAll _).append_quiet ⟨rfl, rfl, rfl⟩
  | expectationFails => exact ⟨_, p.tells_setUpCalls s _, List.prefix_refl _⟩
  | pollingTimedOut ready shows | pollingStopped ready shows | stillPolling ready shows =>
    exact ⟨_, ready.tells.append_quiet shows.tells, List.prefix_refl _⟩
  | listeningFails installed =>
    exact ⟨_, installed.tells.append_quiet ⟨rfl, rfl, rfl⟩, List.prefix_refl _⟩
  | receptionFails installed shows | triggerStopped installed shows | stillListening installed shows =>
    exact ⟨_, installed.tells.append_quiet (.cons ⟨rfl, rfl, rfl⟩ shows.tells), List.prefix_refl _⟩

/-- However the stages end, their calls tell of the first daemons and of nothing stopped. -/
theorem StagesEnd.tells {r : Except Halt ExperimentReport} {cs : List Call}
    (h : StagesEnd t p s confDir patience x r cs) :
    startedIn cs <+: p.daemons s ∧ stopsIn cs = [] := by
  cases h with
  | stops stop =>
    obtain ⟨ds, htells, hfirst⟩ := stop.tells
    exact ⟨htells.started ▸ hfirst, htells.unstopped⟩
  | @plays e cs wait o sender actions installed shows _ =>
    have htells : Tells (.listen (.ok ()) :: wait) [] := .cons ⟨rfl, rfl, rfl⟩ shows.tells
    have hbefore := installed.tells.append_quiet htells
    have hcalls : cs ++ .listen (.ok ()) :: (wait ++ [.play (p.playback s) actions]) =
        (cs ++ .listen (.ok ()) :: wait) ++ [.play (p.playback s) actions] := by simp
    have hplay : startedIn [.play (p.playback s) actions] = [] := rfl
    rw [hcalls, startedIn_append, stopsIn_append, hbefore.started, hbefore.unstopped, hplay,
      List.append_nil]
    exact ⟨List.prefix_refl _, rfl⟩

end

/-! ## Runs without a result -/

/-- What waits would observe by the calls. -/
def observationsIn (e : Endpoint) (cs : List Call) : List Observation := cs.filterMap (Call.observed e)

theorem observationsIn_append (e : Endpoint) (cs cs' : List Call) :
    observationsIn e (cs ++ cs') = observationsIn e cs ++ observationsIn e cs' :=
  List.filterMap_append

theorem Shows.observationsIn_eq {e : Endpoint} {cs : List Call} {o : List Observation} (h : Shows e cs o) :
    observationsIn e cs = o := by
  have hmap : (cs.map (Call.observed e)).filterMap id = (o.map some).filterMap id := congrArg _ h
  simpa [observationsIn, List.filterMap_map] using hmap

/-- Why a run that asked these calls has no result. -/
inductive IsUnended (e : Endpoint) (patience : Nat) (cs : List Call) : Prop
  /-- It has polled in all of its rounds. -/
  | polling (polled : patience ≤ (answersOf (observationsIn e cs)).length)
  /-- It has waited for the trigger in all of its rounds. -/
  | listening (idle : patience ≤ (observationsIn e cs).count (.received .nothing))
  /-- The clock did not keep up with the sleeps. -/
  | sleeping (slept : ¬ KeepsTime (observationsIn e cs))
  /-- The systems have left a playback that is not over. -/
  | playing {playback : Playback} {actions : List PlaybackAction}
      (played : .play playback actions ∈ cs) (left : (playback.performAll actions).isOver = false)

/-- A wait for the intents without an outcome, among other calls. -/
theorem IntentWait.isUnended {e : Endpoint} {expected patience : Nat} {policy : RetryPolicy}
    {o : List Observation} (h : IntentWait expected policy patience o none) {wait : List Call}
    (hshows : Shows e wait o) (before : List Call) : IsUnended e patience (before ++ wait) := by
  have hall : observationsIn e (before ++ wait) = observationsIn e before ++ o := by
    rw [observationsIn_append, hshows.observationsIn_eq]
  by_cases hkept : KeepsTime o
  · refine .polling ?_
    rw [hall, answersOf_append, List.length_append, h.usedUp rfl hkept]
    exact Nat.le_add_left _ _
  · exact .sleeping fun hkept' => hkept (hkept'.of_infix (hall ▸ (List.suffix_append _ o).isInfix))

theorem count_idleRounds (n : Nat) : (idleRounds n).count (.received .nothing) = n := by
  induction n with
  | zero => rfl
  | succ n ih => simp [ih]

/-- A wait for the trigger without an outcome, among other calls. -/
theorem TriggerRun.isUnended {e : Endpoint} {patience : Nat} {o : List Observation}
    (h : TriggerRun patience o none) {wait : List Call} (hshows : Shows e wait o) (before : List Call) :
    IsUnended e patience (before ++ wait) := by
  cases h with
  | unfinished =>
    refine .listening ?_
    rw [observationsIn_append, hshows.observationsIn_eq, List.count_append, count_idleRounds]
    exact Nat.le_add_left _ _

/-- Stages without a result end with a wait that has no outcome, or with a playback that is not over. -/
theorem StagesEnd.of_unfinished {t : Testbed σ} {p : Preparation} {s : Settings} {confDir : Path}
    {patience : Nat} {x : Scene σ} {cs : List Call}
    (h : StagesEnd t p s confDir patience x (.error .unfinished) cs) :
    (∃ before wait o, cs = before ++ wait ∧ Shows (.ofSettings s.controller) wait o ∧
      ((∃ expected, IntentWait expected s.sync.retryPolicy patience o none) ∨
        TriggerRun patience o none)) ∨
    ∃ actions, .play (p.playback s) actions ∈ cs ∧ ((p.playback s).performAll actions).isOver = false := by
  generalize hr : (Except.error Halt.unfinished : Except Halt ExperimentReport) = r at h
  cases h with
  | stops stop =>
    cases hr
    cases stop with
    | stillPolling _ shows waits => exact .inl ⟨_, _, _, rfl, shows, .inl ⟨_, waits⟩⟩
    | @stillListening _ cs wait o _ shows waits =>
      exact .inl ⟨cs ++ [.listen (.ok ())], wait, o, by simp, shows, .inr waits⟩
  | @plays _ _ _ _ _ actions installed shows waits =>
    split at hr
    next => cases hr
    next hover => exact .inr ⟨actions, by simp, Bool.eq_false_iff.2 hover⟩

/-- The stages have no result only for these reasons. -/
theorem StagesEnd.isUnended {t : Testbed σ} {p : Preparation} {s : Settings} {confDir : Path}
    {patience : Nat} {x : Scene σ} {cs : List Call}
    (h : StagesEnd t p s confDir patience x (.error .unfinished) cs) (first : Call) :
    IsUnended (.ofSettings s.controller) patience (first :: cs) := by
  rcases h.of_unfinished with ⟨before, wait, o, rfl, hshows, ⟨_, hwait⟩ | hwait⟩ | ⟨_, hplayed, hleft⟩
  · exact hwait.isUnended hshows (first :: before)
  · exact hwait.isUnended hshows (first :: before)
  · exact .playing (List.mem_cons_of_mem first hplayed) hleft

/-! ## The stopping -/

/-- The daemons are stopped from the last to the first, and then the commands in the background and the
emulator, whatever the answers are. -/
def IsTeardown (ds : List Daemon) (cs : List Call) : Prop :=
  ∃ (answers : List Answer) (spawned emulator : Answer), answers.length = ds.length ∧
    cs = List.zipWith .stopDaemon ds.reverse answers ++ [.stopSpawned spawned, .stopEmulator emulator]

namespace Run

/-- Stopping daemons one after the other asks once for each of them. -/
theorem leads_releaseAll (t : Testbed σ) (ds : List Daemon) (q : Progress σ) :
    ∃ answers : List Answer, answers.length = ds.length ∧
      t.Leads q (List.zipWith .stopDaemon ds answers)
        (ds.foldl (fun q d => release (t.stopDaemon d) (.daemonStopped d) q) q) := by
  induction ds generalizing q with
  | nil => exact ⟨[], rfl, .nil t q⟩
  | cons d ds ih =>
    obtain ⟨answers, hlength, hleads⟩ := ih (release (t.stopDaemon d) (.daemonStopped d) q)
    have hfirst : t.Leads q [.stopDaemon d (t.stopDaemon d q.scene).1]
        (release (t.stopDaemon d) (.daemonStopped d) q) := .quiet rfl rfl
    exact ⟨(t.stopDaemon d q.scene).1 :: answers, congrArg (· + 1) hlength, hfirst.trans hleads⟩

/-- Stopping everything stops what was started, and asks nothing else. -/
theorem leads_stopAll (t : Testbed σ) (q : Progress σ) :
    ∃ stops, t.Leads q stops (stopAll t q) ∧ IsTeardown q.started stops := by
  obtain ⟨answers, hlength, hleads⟩ := leads_releaseAll t q.started.reverse q
  unfold stopAll
  generalize q.started.reverse.foldl (fun q d => release (t.stopDaemon d) (.daemonStopped d) q) q =
    q₁ at hleads
  have hspawned : t.Leads q₁ [.stopSpawned (t.stopSpawned q₁.scene).1]
      (release t.stopSpawned .spawnedStopped q₁) := .quiet rfl rfl
  have hemulator : t.Leads (release t.stopSpawned .spawnedStopped q₁)
      [.stopEmulator (t.stopEmulator (t.stopSpawned q₁.scene).2).1]
      (release t.stopEmulator .emulatorStopped (release t.stopSpawned .spawnedStopped q₁)) :=
    .quiet rfl rfl
  exact ⟨_, hleads.trans (hspawned.trans hemulator), answers, _, _, hlength.trans List.length_reverse, rfl⟩

end Run

/-! ## The whole run -/

/-- What is stopped behind the other calls of a run with the given result: once the emulator is up,
everything that was started, and nothing otherwise. A run without a result stops nothing. -/
structure IsStopped (e : Endpoint) (patience : Nat) (r : Except Halt ExperimentReport)
    (body stops : List Call) : Prop where
  all : IsEmulated body → r ≠ .error .unfinished → IsTeardown (startedIn body) stops
  idle : ¬ IsEmulated body → stops = [] ∧ ∀ d a, .startDaemon d a ∉ body
  unended : r = .error .unfinished → stops = [] ∧ IsUnended e patience body

section
variable {t : Testbed σ} {b : Bundle} {s : Settings} {confDir : Path} {patience : Nat} {scene : Scene σ}
  {r : Except Halt ExperimentReport} {body : List Call} {q : Progress σ}

/-- Before the stopping nothing is stopped, and of the daemons of one router zebra is started first. -/
theorem BodyEnd.isOrderly (h : BodyEnd t b s confDir patience scene r body) :
    stopsIn body = [] ∧ (startedIn body).Pairwise Daemon.Before := by
  cases h with
  | unstarted unstarted =>
    cases unstarted with
    | unprepared => exact ⟨rfl, .nil⟩
    | emulatorFails => exact ⟨rfl, .nil⟩
  | @staged p y _ cs up stages =>
    obtain ⟨hfirst, hunstopped⟩ := stages.tells
    have hnamed := Preparation.ofBundle_isNamed (Prod.ext up.prepared rfl)
    exact ⟨hunstopped, (hnamed.daemons s.quagga).sublist hfirst.sublist⟩

/-- A run whose emulator was not started has started nothing, and has a result. -/
theorem BodyEnd.of_not_isEmulated (h : BodyEnd t b s confDir patience scene r body)
    (hidle : ¬ IsEmulated body) : (∀ d a, .startDaemon d a ∉ body) ∧ r ≠ .error .unfinished := by
  cases h with
  | unstarted unstarted =>
    cases unstarted with
    | unprepared => exact ⟨by simp, nofun⟩
    | emulatorFails => exact ⟨by simp, nofun⟩
  | @staged p _ _ _ _ _ => exact absurd ⟨p.network, List.mem_cons_self⟩ hidle

/-- Only stages leave a run without a result. -/
theorem BodyEnd.of_unfinished (h : BodyEnd t b s confDir patience scene (.error .unfinished) body) :
    ∃ p y cs, EmulatorUp t b s confDir scene p y ∧ body = .startEmulator p.network (.ok ()) :: cs ∧
      StagesEnd t p s confDir patience y (.error .unfinished) cs := by
  generalize hr : (Except.error Halt.unfinished : Except Halt ExperimentReport) = r at h
  cases h with
  | unstarted unstarted =>
    cases unstarted with
    | unprepared => cases hr
    | emulatorFails => cases hr
  | staged up stages =>
    subst hr
    exact ⟨_, _, _, up, rfl, stages⟩

/-- However things are stopped, a run has the same result, and stops behind the same calls what they have
started. -/
theorem ExperimentEnd.isStopped (h : ExperimentEnd t b s confDir patience scene r body q)
    (stopDaemon : Daemon → Ask σ Answer) (stopSpawned stopEmulator : Ask σ Answer) :
    ∃ stops q', ((t.stopping stopDaemon stopSpawned stopEmulator).experiment b s confDir patience).run
        (.ofScene scene) = (r, q') ∧
      (t.stopping stopDaemon stopSpawned stopEmulator).Leads (.ofScene (scene.prepared b s confDir))
        (body ++ stops) q' ∧
      IsStopped (.ofSettings s.controller) patience r body stops := by
  have hleads : (t.stopping stopDaemon stopSpawned stopEmulator).Leads
      (.ofScene (scene.prepared b s confDir)) body q :=
    ⟨h.leads.asked.stopping _ _ _ h.body.isOrderly.1, h.leads.started, h.leads.told⟩
  by_cases hemulated : IsEmulated body
  · by_cases hended : r = .error .unfinished
    · refine ⟨[], q, h.kept (.inr hended) _ _ _, by rwa [List.append_nil], fun _ hne => absurd hended hne,
        fun hidle => absurd hemulated hidle, fun _ => ⟨rfl, ?_⟩⟩
      subst hended
      obtain ⟨_, _, _, -, rfl, hstages⟩ := h.body.of_unfinished
      exact hstages.isUnended _
    · obtain ⟨stops, hstops, hteardown⟩ :=
        Run.leads_stopAll (t.stopping stopDaemon stopSpawned stopEmulator) q
      have hstarted : q.started = startedIn body := h.leads.started
      refine ⟨stops, _, h.stopped hemulated hended _ _ _, hleads.trans hstops,
        fun _ _ => hstarted ▸ hteardown, fun hidle => absurd hemulated hidle,
        fun hunended => absurd hunended hended⟩
  · obtain ⟨hnone, hended⟩ := h.body.of_not_isEmulated hemulated
    exact ⟨[], q, h.kept (.inl hemulated) _ _ _, by rwa [List.append_nil],
      fun hup => absurd hup hemulated, fun _ => ⟨rfl, hnone⟩, fun hunended => absurd hunended hended⟩

end

/-- Before the stopping, a run stops nothing and starts the two daemons of a router in their order. Whatever
comes of the stopping, this and the result of the run are the same, and the systems are asked to stop exactly
what was started. Only a run that has used up its rounds, or was let down by the systems, has no result. -/
theorem experiment_teardown (t : Testbed σ) (b : Bundle) (s : Settings) (confDir : Path) (patience : Nat)
    (scene : Scene σ) :
    ∃ r body, BodyEnd t b s confDir patience scene r body ∧ stopsIn body = [] ∧
      (startedIn body).Nodup ∧
      (startedIn body).reverse.Pairwise
        (fun d d' => d.router = d'.router → d.kind = .bgpd ∧ d'.kind = .zebra) ∧
      ∀ (stopDaemon : Daemon → Ask σ Answer) (stopSpawned stopEmulator : Ask σ Answer),
        ∃ stops q,
          ((t.stopping stopDaemon stopSpawned stopEmulator).experiment b s confDir patience).run
            (.ofScene scene) = (r, q) ∧
          (t.stopping stopDaemon stopSpawned stopEmulator).Leads
            (.ofScene (scene.prepared b s confDir)) (body ++ stops) q ∧
          IsStopped (.ofSettings s.controller) patience r body stops := by
  obtain ⟨r, body, q, hend⟩ := experiment_end t b s confDir patience scene
  obtain ⟨hunstopped, hordered⟩ := hend.body.isOrderly
  refine ⟨r, body, hend.body, hunstopped, ?_, ?_, hend.isStopped⟩
  · refine hordered.imp fun {d d'} hbefore heq => ?_
    cases heq
    obtain ⟨hzebra, hbgpd⟩ := hbefore rfl
    exact nomatch hzebra.symm.trans hbgpd
  · exact List.pairwise_reverse.2 (hordered.imp fun hbefore hrouter =>
      (hbefore hrouter.symm).symm)

end BackboneLab
