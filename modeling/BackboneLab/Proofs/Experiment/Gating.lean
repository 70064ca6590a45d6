import BackboneLab.Proofs.Experiment.Playback
import BackboneLab.Proofs.Experiment.Teardown

/-!
# What has to come before the traffic

The traffic of a run is played behind a gate: everything that the stages before the playback asked of the
systems, in their order, each of it with success. `experiment_gating` says that what a run asks is either the
gate, the playback and then the stopping, or holds no playback at all.
-/

namespace BackboneLab

variable {σ : Type}

/-! ## Replies of the controller -/

/-- A reply that tells of success. -/
def Response.IsSuccess (r : Response) : Prop :=
  ∃ status body, r = .replied status body ∧ 200 ≤ status ∧ status < 300

theorem Response.isSuccess_of_body? {r : Response} {text : String} (h : r.body? = .ok text) :
    r.IsSuccess := by
  cases r with
  | dropped => cases h
  | replied status body =>
    simp only [body?] at h
    split at h
    next hstatus => exact ⟨status, body, rfl, hstatus⟩
    next => cases h

/-- An upload is accepted only by a reply that tells of success. -/
theorem Endpoint.isSuccess_of_upload {e : Endpoint} {c : NetworkConfig} {r : Response}
    (h : (e.upload c).read r = .ok ()) : r.IsSuccess := by
  cases hbody : r.body? with
  | error f =>
    simp only [upload, hbody] at h
    cases h
  | ok text => exact Response.isSuccess_of_body? hbody

theorem Endpoint.isSuccess_of_intents {e : Endpoint} {r : Response} {intents : List Intent}
    (h : e.intents.read r = .ok intents) : r.IsSuccess := by
  cases hbody : r.body? with
  | error f =>
    simp only [Endpoint.intents, Response.member?, hbody] at h
    cases h
  | ok text => exact Response.isSuccess_of_body? hbody

/-- A count comes from a reply that tells of success, and is that of the listed intents. -/
theorem Endpoint.intents_of_countOf {e : Endpoint} {r : Response} {n : Nat}
    (h : e.countOf r = some n) :
    r.IsSuccess ∧ ∃ intents, e.intents.read r = .ok intents ∧ intents.length = n := by
  cases hread : e.intents.read r with
  | error f =>
    simp only [countOf, intentCount, hread] at h
    cases h
  | ok intents =>
    simp only [countOf, intentCount, hread] at h
    cases h
    exact ⟨isSuccess_of_intents hread, intents, rfl, rfl⟩

/-! ## The gate -/

/-- What is asked before the traffic of a run: the emulator, the two daemons of every router and of the
speaker, the upload and the receivers, all with success; then, while `polls` is observed, the intents, the
last time with as many of them as the configuration in place makes expected; and then the socket and the
trigger, while `listening` is observed. -/
inductive Gate (t : Testbed σ) (p : Preparation) (s : Settings) (confDir : Path) (patience : Nat)
    (x : Scene σ) (e : IntentExpectation) : List Call → Prop
  | mk {before wait : List Call} {upload last : Response} {intents : List Intent} {y : Scene σ}
      {polls listening : List Observation} {sender : Ipv4}
      (twoEach : (p.daemons s).length = 2 * (p.network.routers.length + 1))
      (uploaded : upload.IsSuccess)
      (asked : t.Asked x (.startEmulator p.network (.ok ()) :: p.setUpCalls s upload) y)
      (expects : ((IntentExpectation.ofDirectory confDir).run y.files).1 = .ok e)
      (polls_eq : Shows (.ofSettings s.controller) (before ++
        [.exchange (Endpoint.ofSettings s.controller).intents.request last]) polls)
      (waits : IntentWait e.count s.sync.retryPolicy patience polls (some (.reached intents.length)))
      (told : last.IsSuccess) (read : (Endpoint.ofSettings s.controller).intents.read last = .ok intents)
      (enough : e.count ≤ intents.length)
      (listening_eq : Shows (.ofSettings s.controller) (wait ++ [.receive (.datagram sender)]) listening)
      (triggered : TriggerRun patience listening (some (.ok (some sender)))) :
      Gate t p s confDir patience x e (.startEmulator p.network (.ok ()) :: p.setUpCalls s upload ++
        (before ++ [.exchange (Endpoint.ofSettings s.controller).intents.request last]) ++
        [.listen (.ok ())] ++ (wait ++ [.receive (.datagram sender)]))

/-- The last observation of a wait that came to enough intents is the count. -/
theorem WaitRun.of_reached {expected start count : Nat} {timeout : Option Span} {last : Option Nat}
    {o : List Observation} (h : WaitRun expected timeout start last o (some (.reached count))) :
    ∃ before, o = before ++ [.answer (some count)] ∧ expected ≤ count := by
  generalize houtcome : some (WaitOutcome.reached count) = outcome at h
  induction h with
  | unfinished | cancelled | timedOut => cases houtcome
  | reached enough =>
    cases houtcome
    exact ⟨[.flag false], rfl, enough⟩
  | @again _ a pause _ _ _ _ _ _ ih =>
    obtain ⟨before, rfl, henough⟩ := ih houtcome
    exact ⟨.flag false :: .answer a :: (pause ++ before), by simp, henough⟩

/-- The last observation of a wait that the trigger ended is the datagram. -/
theorem TriggerRun.of_datagram {rounds : Nat} {o : List Observation} {sender : Ipv4}
    (h : TriggerRun rounds o (some (.ok (some sender)))) :
    ∃ before, o = before ++ [.received (.datagram sender)] := by
  cases h with
  | @datagram n _ left => exact ⟨idleRounds n ++ [.flag false], by simp⟩

/-- Only a poll brings a count. -/
theorem Call.of_observed_answer {e : Endpoint} {c : Call} {count : Option Nat}
    (h : c.observed e = some (.answer count)) :
    ∃ response, c = .exchange e.intents.request response ∧ e.countOf response = count := by
  cases c with
  | exchange request response =>
    simp only [observed] at h
    split at h
    next heq =>
      cases h
      exact ⟨response, by rw [heq]; rfl, rfl⟩
    next => cases h
  | startEmulator | stopEmulator | startDaemon | stopDaemon | spawn | stopSpawned | now | sleep
  | isStopped | listen | receive | play => cases h

theorem Call.of_observed_received {e : Endpoint} {c : Call} {reception : Reception}
    (h : c.observed e = some (.received reception)) : c = .receive reception := by
  cases c with
  | exchange request response =>
    simp only [observed] at h
    split at h <;> cases h
  | receive =>
    cases h
    rfl
  | startEmulator | stopEmulator | startDaemon | stopDaemon | spawn | stopSpawned | now | sleep
  | isStopped | listen | play => cases h

section
variable {t : Testbed σ} {b : Bundle} {p : Preparation} {s : Settings} {confDir : Path}
  {patience : Nat} {scene x y : Scene σ}

/-- What is asked until the trigger arrives is a gate. -/
theorem Installed.gate {e : IntentExpectation} {cs wait : List Call} {o : List Observation} {sender : Ipv4}
    (hup : EmulatorUp t b s confDir scene p y) (h : Installed t p s confDir patience y e cs)
    (hshows : Shows (.ofSettings s.controller) wait o)
    (hrun : TriggerRun patience o (some (.ok (some sender)))) :
    Gate t p s confDir patience (scene.prepared b s confDir) e
      (.startEmulator p.network (.ok ()) :: (cs ++ .listen (.ok ()) :: wait)) := by
  cases h with
  | @mk setUp polling polls count ready shows waits =>
  cases ready with
  | @mk upload y' accepted asked expects =>
  have hwaits := waits
  obtain ⟨start, rest, rfl, hpolls⟩ := waits.run
  obtain ⟨earlier, rfl, henough⟩ := hpolls.of_reached
  rw [← List.cons_append] at shows
  obtain ⟨before, c, rfl, hbefore, hc⟩ := shows.of_concat
  obtain ⟨last, rfl, hcount⟩ := Call.of_observed_answer hc
  obtain ⟨hsuccess, intents, hread, rfl⟩ := Endpoint.intents_of_countOf hcount
  obtain ⟨idle, rfl⟩ := hrun.of_datagram
  obtain ⟨listening, c, rfl, hidle, hreceive⟩ := hshows.of_concat
  obtain rfl := Call.of_observed_received hreceive
  have hgate := Gate.mk (p.network.length_daemons s.quagga) (Endpoint.isSuccess_of_upload accepted)
    (.cons hup.started asked) expects shows hwaits hsuccess hread henough hshows hrun
  simpa using hgate

theorem playsIn_teardown {ds : List Daemon} {cs : List Call} (h : IsTeardown ds cs) : playsIn cs = [] := by
  obtain ⟨answers, spawned, emulator, -, rfl⟩ := h
  rw [← List.map_uncurry_zip_eq_zipWith]
  refine List.filter_eq_nil_iff.2 fun c hc => ?_
  rcases List.mem_append.1 hc with hc | hc
  · obtain ⟨x, -, rfl⟩ := List.mem_map.1 hc
    exact Bool.false_ne_true
  · simp only [List.mem_cons, List.not_mem_nil, or_false] at hc
    rcases hc with rfl | rfl <;> exact Bool.false_ne_true

theorem Unstarted.unplayed {r : Except Halt ExperimentReport} {cs : List Call}
    (h : Unstarted b s confDir scene r cs) : playsIn cs = [] := by
  cases h with
  | unprepared => rfl
  | emulatorFails => rfl

theorem Gate.unplayed {e : IntentExpectation} {gate : List Call}
    (h : Gate t p s confDir patience x e gate) : playsIn gate = [] := by
  cases h with
  | mk _ _ _ _ polls_eq _ _ _ _ listening_eq _ =>
    have hsetUp (upload : Response) :
        playsIn (.startEmulator p.network (.ok ()) :: p.setUpCalls s upload) = [] :=
      (Tells.cons ⟨rfl, rfl, rfl⟩ (p.tells_setUpCalls s upload)).unplayed
    rw [playsIn_append, playsIn_append, playsIn_append, hsetUp, polls_eq.tells.unplayed,
      listening_eq.tells.unplayed]
    rfl

end

/-! ## The whole run -/

/-- The result of a run, and what it has asked. It either asks for no playback, because its preparation, its
emulator or one of its stages has failed, was stopped or has used up its rounds; or it asks for what the
gate, the playback and the stopping consist of. -/
inductive Gated (t : Testbed σ) (b : Bundle) (s : Settings) (confDir : Path) (patience : Nat)
    (scene : Scene σ) : Except Halt ExperimentReport → List Call → Prop
  | unstarted {r : Except Halt ExperimentReport} {cs : List Call}
      (unstarted : Unstarted b s confDir scene r cs) (unplayed : playsIn cs = []) :
      Gated t b s confDir patience scene r cs
  | stopped {p : Preparation} {y : Scene σ} {halt : Halt} {cs stops : List Call}
      (up : EmulatorUp t b s confDir scene p y) (stop : StagesStop t p s confDir patience y halt cs)
      (unplayed : playsIn (.startEmulator p.network (.ok ()) :: cs ++ stops) = []) :
      Gated t b s confDir patience scene (.error halt) (.startEmulator p.network (.ok ()) :: cs ++ stops)
  /-- The systems have left the playback, so that it never ends. -/
  | playing {p : Preparation} {e : IntentExpectation} {gate : List Call} {actions : List PlaybackAction}
      (prepared : ((Preparation.ofBundle b s confDir).run scene.files).1 = .ok p)
      (opened : Gate t p s confDir patience (scene.prepared b s confDir) e gate)
      (unplayed : playsIn gate = []) (left : ((p.playback s).performAll actions).isOver = false) :
      Gated t b s confDir patience scene (.error .unfinished) (gate ++ [.play (p.playback s) actions])
  /-- Every command that has begun in the playback has also ended in it, before the stopping. -/
  | played {p : Preparation} {e : IntentExpectation} {gate stops : List Call}
      {actions : List PlaybackAction}
      (prepared : ((Preparation.ofBundle b s confDir).run scene.files).1 = .ok p)
      (opened : Gate t p s confDir patience (scene.prepared b s confDir) e gate)
      (unplayed : playsIn gate = [] ∧ playsIn stops = [])
      (finished : ((p.playback s).performAll actions).isOver = true)
      (ended : ∀ before k host command after,
        ((p.playback s).performAll actions).history = before ++ .began k host command :: after →
        ∃ result, .ended k host command result ∈ after) :
      Gated t b s confDir patience scene (.ok ⟨e.count, ((p.playback s).performAll actions).reports⟩)
        (gate ++ [.play (p.playback s) actions] ++ stops)

/-- What is behind the body of a run is no playback. -/
theorem BodyEnd.gated {t : Testbed σ} {b : Bundle} {s : Settings} {confDir : Path} {patience : Nat}
    {scene : Scene σ} {r : Except Halt ExperimentReport} {body stops : List Call}
    (h : BodyEnd t b s confDir patience scene r body)
    (hstopped : IsStopped (.ofSettings s.controller) patience r body stops) :
    Gated t b s confDir patience scene r (body ++ stops) := by
  have hquiet : playsIn stops = [] := by
    by_cases hemulated : IsEmulated body
    · by_cases hended : r = .error .unfinished
      · rw [(hstopped.unended hended).1]
        rfl
      · exact playsIn_teardown (hstopped.all hemulated hended)
    · rw [(hstopped.idle hemulated).1]
      rfl
  cases h with
  | unstarted unstarted =>
    obtain rfl := (hstopped.idle unstarted.not_isEmulated).1
    rw [List.append_nil]
    exact .unstarted unstarted unstarted.unplayed
  | @staged p y _ cs up stages =>
  cases stages with
  | stops stop =>
    obtain ⟨ds, htells, -⟩ := stop.tells
    refine .stopped up stop ?_
    rw [playsIn_append, hquiet, List.append_nil]
    exact htells.unplayed
  | @plays e cs wait o sender actions installed shows waits =>
    have hgate := installed.gate up shows waits
    have hcalls : .startEmulator p.network (.ok ()) ::
        (cs ++ .listen (.ok ()) :: (wait ++ [.play (p.playback s) actions])) =
        .startEmulator p.network (.ok ()) :: (cs ++ .listen (.ok ()) :: wait) ++
          [.play (p.playback s) actions] := by simp
    rw [hcalls]
    cases hover : ((p.playback s).performAll actions).isOver with
    | true =>
      refine .played up.prepared hgate ⟨hgate.unplayed, hquiet⟩ hover fun before k host command after hsplit => ?_
      exact ((Playback.follows_ofSchedule _ _ _).performAll actions).ended_mem hover hsplit
    | false =>
      rw [hover] at hstopped
      obtain rfl := (hstopped.unended rfl).1
      rw [List.append_nil]
      exact .playing up.prepared hgate hgate.unplayed hover

end BackboneLab
