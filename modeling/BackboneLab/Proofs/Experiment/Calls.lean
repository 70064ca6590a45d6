import BackboneLab.Experiment.Testbed

/-!
# What is asked of the systems

A `Call` is something that was asked of the systems, together with their answer. `Testbed.Asked t x cs y`
says that the systems of `t` were asked the calls `cs` in scene `x`, one after the other, that they gave
these answers, and that this led to scene `y`. So it is about the systems, whatever a run writes into its
own history: a testbed that keeps a log of its calls has just these calls in its log (`Asked.log`).

Calls tell which daemons were started, what was stopped and what was played, and which events a history
should hold. `Tells` collects what most calls tell: of some daemons, of nothing played and of nothing
stopped.
-/

namespace BackboneLab

variable {σ : Type}

/-- Something that was asked of the systems, with their answer. -/
inductive Call
  | startEmulator (network : EmulatedNetwork) (answer : Answer)
  | stopEmulator (answer : Answer)
  | startDaemon (daemon : Daemon) (answer : Answer)
  | stopDaemon (daemon : Daemon) (answer : Answer)
  | spawn (host : String) (command : HostCommand) (answer : Answer)
  | stopSpawned (answer : Answer)
  | exchange (request : Request) (response : Response)
  | now (time : Nat)
  | sleep (nanos : Nat)
  | isStopped (stopped : Bool)
  | listen (answer : Answer)
  | receive (reception : Reception)
  | play (playback : Playback) (actions : List PlaybackAction)

namespace Testbed

/-- In scene `x` the systems give this answer, which leads to scene `y`. -/
def Answers (t : Testbed σ) : Call → Scene σ → Scene σ → Prop
  | .startEmulator network answer, x, y => t.startEmulator network x = (answer, y)
  | .stopEmulator answer, x, y => t.stopEmulator x = (answer, y)
  | .startDaemon daemon answer, x, y => t.startDaemon daemon x = (answer, y)
  | .stopDaemon daemon answer, x, y => t.stopDaemon daemon x = (answer, y)
  | .spawn host command answer, x, y => t.spawn host command x = (answer, y)
  | .stopSpawned answer, x, y => t.stopSpawned x = (answer, y)
  | .exchange request response, x, y => t.exchange request x = (response, y)
  | .now time, x, y => t.now x = (time, y)
  | .sleep nanos, x, y => t.sleep nanos x = ((), y)
  | .isStopped stopped, x, y => t.isStopped x = (stopped, y)
  | .listen answer, x, y => t.listen x = (answer, y)
  | .receive reception, x, y => t.receive x = (reception, y)
  | .play playback actions, x, y => t.play playback x = (actions, y)

/-- Asked these calls one after the other, the systems give the answers in them, which leads from one scene
to another. -/
inductive Asked (t : Testbed σ) : Scene σ → List Call → Scene σ → Prop
  | nil {x : Scene σ} : Asked t x [] x
  | cons {c : Call} {cs : List Call} {x y z : Scene σ} (answers : t.Answers c x y)
      (rest : Asked t y cs z) : Asked t x (c :: cs) z

namespace Asked

variable {t : Testbed σ} {c : Call} {cs cs' : List Call} {x y z : Scene σ}

theorem single (h : t.Answers c x y) : t.Asked x [c] y := .cons h .nil

theorem append (h : t.Asked x cs y) (h' : t.Asked y cs' z) : t.Asked x (cs ++ cs') z := by
  induction h with
  | nil => exact h'
  | cons answers _ ih => exact .cons answers (ih h')

/-- What is asked in two parts is asked in the scene between them. -/
theorem of_append (h : t.Asked x (cs ++ cs') z) : ∃ y, t.Asked x cs y ∧ t.Asked y cs' z := by
  induction cs generalizing x with
  | nil => exact ⟨x, .nil, h⟩
  | cons c cs ih =>
    cases h with
    | cons answers rest =>
      obtain ⟨y, hfirst, hlast⟩ := ih rest
      exact ⟨y, .cons answers hfirst, hlast⟩

end Asked

end Testbed

/-! ## A log of all calls -/

/-- Asks the systems that are kept beside a log, and adds a call to the log. -/
def Ask.logged {α : Type} (a : Ask σ α) (call : α → Call) : Ask (σ × List Call) α := fun x =>
  match a ⟨x.files, x.systems.1⟩ with
  | (answer, y) => (answer, ⟨y.files, y.systems, x.systems.2 ++ [call answer]⟩)

namespace Testbed

/-- The testbed with a log of all calls. -/
def logged (t : Testbed σ) : Testbed (σ × List Call) where
  startEmulator network := (t.startEmulator network).logged (.startEmulator network)
  stopEmulator := t.stopEmulator.logged .stopEmulator
  startDaemon daemon := (t.startDaemon daemon).logged (.startDaemon daemon)
  stopDaemon daemon := (t.stopDaemon daemon).logged (.stopDaemon daemon)
  spawn host command := (t.spawn host command).logged (.spawn host command)
  stopSpawned := t.stopSpawned.logged .stopSpawned
  exchange request := (t.exchange request).logged (.exchange request)
  now := t.now.logged .now
  sleep nanos := (t.sleep nanos).logged fun _ => .sleep nanos
  isStopped := t.isStopped.logged .isStopped
  listen := t.listen.logged .listen
  receive := t.receive.logged .receive
  play playback := (t.play playback).logged (.play playback)

theorem log_of_logged {α : Type} {a : Ask σ α} {f : α → Call} {x y : Scene (σ × List Call)} {answer : α}
    (h : a.logged f x = (answer, y)) : y.systems.2 = x.systems.2 ++ [f answer] := by
  simp only [Ask.logged] at h
  cases h
  rfl

/-- What was asked is what is in the log, with its answers. -/
theorem Asked.log {t : Testbed σ} {cs : List Call} {x y : Scene (σ × List Call)}
    (h : t.logged.Asked x cs y) : y.systems.2 = x.systems.2 ++ cs := by
  induction h with
  | nil => exact (List.append_nil _).symm
  | @cons c cs x y z answers _ ih =>
    have hone : y.systems.2 = x.systems.2 ++ [c] := by
      cases c with
      | sleep nanos => exact log_of_logged (f := fun _ => .sleep nanos) answers
      | startEmulator | stopEmulator | startDaemon | stopDaemon | spawn | stopSpawned | exchange | now
      | isStopped | listen | receive | play => exact log_of_logged answers
    rw [ih, hone, List.append_assoc]
    rfl

end Testbed

/-! ## What calls tell -/

namespace Call

/-- The daemon that was started. -/
def started? : Call → Option Daemon
  | .startDaemon d (.ok _) => some d
  | _ => none

/-- Whether something was to be stopped. -/
def isStop : Call → Bool
  | .stopDaemon _ _ | .stopSpawned _ | .stopEmulator _ => true
  | _ => false

/-- Whether something was to be played. -/
def isPlay : Call → Bool
  | .play _ _ => true
  | _ => false

/-- What a history should hold of the call. -/
def events : Call → List Event
  | .startEmulator network answer => [.emulatorStarted network answer]
  | .stopEmulator answer => [.emulatorStopped answer]
  | .startDaemon daemon answer => [.daemonStarted daemon answer]
  | .stopDaemon daemon answer => [.daemonStopped daemon answer]
  | .spawn host command answer => [.spawned host command answer]
  | .stopSpawned answer => [.spawnedStopped answer]
  | .exchange request response =>
    match request.method with
    | .post _ => [.uploaded request response]
    | .get => [.polled request response]
  | .play playback actions => (playback.performAll actions).history.map .played
  | .now _ | .sleep _ | .isStopped _ | .listen _ | .receive _ => []

/-- All of the daemons started. -/
def startAll (ds : List Daemon) : List Call := ds.map (.startDaemon · (.ok ()))

/-- All of the commands started in the background. -/
def spawnAll (cs : List (String × HostCommand)) : List Call := cs.map fun c => .spawn c.1 c.2 (.ok ())

end Call

/-- Whether an event tells of a call. The others tell what a run has concluded. -/
def Event.isOfCall : Event → Bool
  | .expecting _ | .triggered _ => false
  | _ => true

/-- The daemons that were started, in this order. -/
def startedIn (cs : List Call) : List Daemon := cs.filterMap Call.started?

/-- What was to be stopped. -/
def stopsIn (cs : List Call) : List Call := cs.filter Call.isStop

/-- What was to be played. -/
def playsIn (cs : List Call) : List Call := cs.filter Call.isPlay

/-- The events that tell of calls. -/
def toldIn (es : List Event) : List Event := es.filter Event.isOfCall

section
variable (cs cs' : List Call)

@[simp] theorem startedIn_append : startedIn (cs ++ cs') = startedIn cs ++ startedIn cs' :=
  List.filterMap_append

@[simp] theorem stopsIn_append : stopsIn (cs ++ cs') = stopsIn cs ++ stopsIn cs' :=
  List.filter_append ..

@[simp] theorem playsIn_append : playsIn (cs ++ cs') = playsIn cs ++ playsIn cs' :=
  List.filter_append ..

@[simp] theorem toldIn_append (es es' : List Event) : toldIn (es ++ es') = toldIn es ++ toldIn es' :=
  List.filter_append ..

end

/-- The calls tell that these daemons were started, and of nothing played and nothing stopped. -/
structure Tells (cs : List Call) (ds : List Daemon) : Prop where
  started : startedIn cs = ds
  unplayed : playsIn cs = []
  unstopped : stopsIn cs = []

namespace Tells

variable {cs cs' : List Call} {ds ds' : List Daemon}

theorem nil : Tells [] [] := ⟨rfl, rfl, rfl⟩

theorem append (h : Tells cs ds) (h' : Tells cs' ds') : Tells (cs ++ cs') (ds ++ ds') where
  started := by rw [startedIn_append, h.started, h'.started]
  unplayed := by rw [playsIn_append, h.unplayed, h'.unplayed, List.append_nil]
  unstopped := by rw [stopsIn_append, h.unstopped, h'.unstopped, List.append_nil]

/-- Calls that tell of no start, behind others. -/
theorem append_quiet (h : Tells cs ds) (h' : Tells cs' []) : Tells (cs ++ cs') ds :=
  List.append_nil ds ▸ h.append h'

/-- A call that tells nothing of these, before others. -/
theorem cons {c : Call} (hc : Tells [c] []) (h : Tells cs ds) : Tells (c :: cs) ds := hc.append h

theorem startAll (ds : List Daemon) : Tells (Call.startAll ds) ds := by
  induction ds with
  | nil => exact .nil
  | cons d ds ih =>
    have hone : Tells [.startDaemon d (.ok ())] [d] := ⟨rfl, rfl, rfl⟩
    exact hone.append ih

/-- Calls of which none tells anything of these. -/
theorem of_forall (h : ∀ c ∈ cs, Tells [c] []) : Tells cs [] := by
  induction cs with
  | nil => exact .nil
  | cons c cs ih =>
    exact .cons (h c List.mem_cons_self) (ih fun c' hc' => h c' (List.mem_cons_of_mem c hc'))

theorem spawnAll (cs : List (String × HostCommand)) : Tells (Call.spawnAll cs) [] := by
  refine of_forall fun c hc => ?_
  obtain ⟨_, -, rfl⟩ := List.mem_map.1 hc
  exact ⟨rfl, rfl, rfl⟩

end Tells

end BackboneLab
