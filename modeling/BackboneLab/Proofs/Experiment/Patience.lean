import BackboneLab.Proofs.Experiment.Teardown

/-!
# Patience

A run is given a number of rounds that it has patience for. More patience changes nothing once a run has
ended (`experiment_add`), so a run has one result at most, whatever its patience is. It has one if the
systems do not let it down: if the clock goes on with the sleeps, if the playback comes to its end, and if
the stop flag is set at last. Then a patience of more rounds than looks at the flag see it unset is enough
(`experiment_ends`).
-/

namespace BackboneLab

variable {σ : Type}

/-! ## More patience -/

namespace Run

variable {t : Testbed σ} {q q' : Progress σ}

/-- A sequence that has ended in a result ends in it as well if its parts do so with more patience. -/
theorem bind_add {α β : Type} {m m' : Run σ α} {f f' : α → Run σ β} {r : Except Halt β}
    (h : (m >>= f).run q = (r, q')) (hended : r ≠ .error .unfinished)
    (hm : ∀ r₁ q₁, m.run q = (r₁, q₁) → r₁ ≠ .error .unfinished → m'.run q = (r₁, q₁))
    (hf : ∀ a q₁, (f a).run q₁ = (r, q') → (f' a).run q₁ = (r, q')) : (m' >>= f').run q = (r, q') := by
  rcases of_run_bind h with ⟨e, hfirst, rfl⟩ | ⟨a, q₁, hfirst, hrest⟩
  · refine run_bind_error (hm _ _ hfirst fun he => hended ?_)
    cases he
    rfl
  · rw [run_bind_ok (hm _ _ hfirst nofun)]
    exact hf a q₁ hrest

/-- The first part of the sequence does not depend on the patience. -/
theorem bind_add_of_eq {α β : Type} {m : Run σ α} {f f' : α → Run σ β} {r : Except Halt β}
    (h : (m >>= f).run q = (r, q')) (hended : r ≠ .error .unfinished)
    (hf : ∀ a q₁, (f a).run q₁ = (r, q') → (f' a).run q₁ = (r, q')) : (m >>= f').run q = (r, q') :=
  bind_add h hended (fun _ _ hfirst _ => hfirst) hf

theorem awaitIntents_add {e : Endpoint} {expected patience : Nat} {policy : RetryPolicy}
    {r : Except Halt Unit} (h : (awaitIntents t e expected policy patience).run q = (r, q'))
    (hended : r ≠ .error .unfinished) (more : Nat) :
    (awaitIntents t e expected policy (patience + more)).run q = (r, q') := by
  simp only [awaitIntents, run_bind, run_modifyGet] at h ⊢
  rcases hwait : (surroundings t e).awaitIntents expected policy patience q with ⟨_ | outcome, q₁⟩
  · rw [hwait] at h
    cases h
    exact absurd rfl hended
  · have hmore := Surroundings.awaitWithin_add hwait 0 more
    rw [Nat.add_zero, ← Surroundings.awaitIntents_eq_awaitWithin] at hmore
    rwa [hmore, ← hwait]

theorem awaitTrigger_add {e : Endpoint} {patience : Nat} {r : Except Halt Unit}
    (h : (awaitTrigger t e patience).run q = (r, q')) (hended : r ≠ .error .unfinished) (more : Nat) :
    (awaitTrigger t e (patience + more)).run q = (r, q') := by
  refine bind_add_of_eq h hended fun answer q₁ h => bind_add_of_eq h hended fun _ q₂ hwait => ?_
  simp only [run_bind, run_modifyGet] at hwait ⊢
  rcases houtcome : (surroundings t e).awaitTrigger patience q₂ with ⟨_ | outcome, q₃⟩
  · rw [houtcome] at hwait
    cases hwait
    exact absurd rfl hended
  · rwa [Surroundings.awaitTrigger_add houtcome more, ← houtcome]

theorem stages_add {p : Preparation} {s : Settings} {confDir : Path} {patience : Nat}
    {r : Except Halt ExperimentReport} (h : (stages t p s confDir patience).run q = (r, q'))
    (hended : r ≠ .error .unfinished) (more : Nat) :
    (stages t p s confDir (patience + more)).run q = (r, q') := by
  refine bind_add_of_eq h hended fun _ q₁ h => bind_add_of_eq h hended fun expected q₂ h => ?_
  refine bind_add h hended (fun _ _ hpolling hpolled => awaitIntents_add hpolling hpolled more) ?_
  intro _ q₃ h
  exact bind_add h hended (fun _ _ hlistening hlistened => awaitTrigger_add hlistening hlistened more)
    fun _ _ hplay => hplay

theorem emulated_add {p : Preparation} {s : Settings} {confDir : Path} {patience : Nat}
    {r : Except Halt ExperimentReport} (h : (emulated t p s confDir patience).run q = (r, q'))
    (hended : r ≠ .error .unfinished) (more : Nat) :
    (emulated t p s confDir (patience + more)).run q = (r, q') := by
  rcases hstages : (stages t p s confDir patience).run q with ⟨r₁, q₁⟩
  by_cases hunended : r₁ = .error .unfinished
  · rw [run_emulated_unfinished s confDir patience (hunended ▸ hstages)] at h
    cases h
    exact absurd rfl hended
  · rw [run_emulated_ended s confDir patience hstages hunended] at h
    rw [run_emulated_ended s confDir _ (stages_add hstages hunended more) hunended, h]

end Run

/-- A run that has ended is not changed by more patience. -/
theorem experiment_add {t : Testbed σ} {b : Bundle} {s : Settings} {confDir : Path} {patience : Nat}
    {q q' : Progress σ} {r : Except Halt ExperimentReport}
    (h : (t.experiment b s confDir patience).run q = (r, q')) (hended : r ≠ .error .unfinished)
    (more : Nat) : (t.experiment b s confDir (patience + more)).run q = (r, q') :=
  Run.bind_add_of_eq h hended fun _ _ h => Run.bind_add_of_eq h hended fun _ _ h =>
    Run.emulated_add h hended more

/-! ## Systems that do not let a run down -/

/-- How long a call was to sleep. -/
def Call.slept : Call → Nat
  | .sleep nanos => nanos
  | _ => 0

namespace Testbed

/-- The clock does not go back, whatever is asked, and goes on in every sleep at least as far as was asked
for. -/
def HasClock (t : Testbed σ) : Prop :=
  ∃ time : Scene σ → Nat, (∀ x, (t.now x).1 = time x) ∧
    ∀ c x y, t.Answers c x y → time x + c.slept ≤ time y

/-- From scene `x` on, a wait sees the flag unset at most so many times, whatever is asked. -/
def StopsWithin (t : Testbed σ) (e : Endpoint) (n : Nat) (x : Scene σ) : Prop :=
  ∀ cs y, t.Asked x cs y → (observationsIn e cs).count (.flag false) ≤ n

/-- A call that was asked was answered. -/
theorem Asked.answers_of_mem {t : Testbed σ} {cs : List Call} {x y : Scene σ} (h : t.Asked x cs y)
    {c : Call} (hc : c ∈ cs) : ∃ x' y', t.Answers c x' y' := by
  induction h with
  | nil => cases hc
  | cons answers _ ih =>
    rcases List.mem_cons.1 hc with rfl | hc
    · exact ⟨_, _, answers⟩
    · exact ih hc

end Testbed

theorem Call.of_observed_clock {e : Endpoint} {c : Call} {time : Nat}
    (h : c.observed e = some (.clock time)) : c = .now time := by
  cases c with
  | exchange request response =>
    simp only [observed] at h
    split at h <;> cases h
  | now =>
    cases h
    rfl
  | startEmulator | stopEmulator | startDaemon | stopDaemon | spawn | stopSpawned | sleep | isStopped
  | listen | receive | play => cases h

/-- With a clock, what is observed keeps time. -/
theorem Testbed.HasClock.keepsTime {t : Testbed σ} (ht : t.HasClock) (e : Endpoint) {cs : List Call}
    {x y : Scene σ} (h : t.Asked x cs y) : KeepsTime (observationsIn e cs) := by
  obtain ⟨time, hnow, htime⟩ := ht
  have hsum {cs : List Call} {x y : Scene σ} (h : t.Asked x cs y) :
      time x + (sleepsOf (observationsIn e cs)).sum ≤ time y := by
    induction h with
    | nil => exact Nat.le_refl _
    | @cons c cs x y z answers _ ih =>
      have hone : (sleepsOf (observationsIn e [c])).sum = c.slept := by
        cases c with
        | exchange request response =>
          by_cases hpoll : request = e.intentCount.request <;>
            simp [observationsIn, Call.observed, hpoll, sleepsOf, Call.slept]
        | startEmulator | stopEmulator | startDaemon | stopDaemon | spawn | stopSpawned | now | sleep
        | isStopped | listen | receive | play => rfl
      have hfirst := htime c x y answers
      rw [← List.singleton_append, observationsIn_append, sleepsOf_append, List.sum_append, hone]
      omega
  intro before first mid last after ho
  -- the two readings are two calls, and what was slept between them was slept between these
  obtain ⟨cs₁, _, rfl, -, ho⟩ := List.filterMap_eq_append_iff.1 ho
  obtain ⟨cs₂, c, _, rfl, -, hc, ho⟩ := List.filterMap_eq_cons_iff.1 ho
  obtain ⟨cs₃, _, rfl, hslept, ho⟩ := List.filterMap_eq_append_iff.1 ho
  obtain ⟨cs₄, c', cs₅, rfl, -, hc', -⟩ := List.filterMap_eq_cons_iff.1 ho
  obtain rfl := Call.of_observed_clock hc
  obtain rfl := Call.of_observed_clock hc'
  obtain ⟨x₁, -, h⟩ := h.of_append
  obtain ⟨x₂, -, h⟩ := h.of_append
  cases h with
  | @cons _ _ _ x₃ _ hfirst h =>
  obtain ⟨x₄, hmid, h⟩ := h.of_append
  obtain ⟨x₅, hidle, h⟩ := h.of_append
  cases h with
  | cons hlast _ =>
  have hshown : (t.now x₂).1 = first := congrArg Prod.fst hfirst
  have hshown' : (t.now x₅).1 = last := congrArg Prod.fst hlast
  rw [hnow] at hshown hshown'
  have hbegun := htime _ _ _ hfirst
  have hwaited := hsum hmid
  have hidled := hsum hidle
  rw [observationsIn, hslept] at hwaited
  omega

/-! ## Enough patience -/

/-- Every poll comes after a look at the flag that saw it unset. -/
theorem WaitRun.length_answersOf_le {expected start : Nat} {timeout : Option Span} {last : Option Nat}
    {o : List Observation} {outcome : Option WaitOutcome}
    (h : WaitRun expected timeout start last o outcome) :
    (answersOf o).length ≤ o.count (.flag false) := by
  induction h with
  | unfinished | cancelled | reached | timedOut => simp [answersOf]
  | @again _ a pause o _ _ quiet _ _ ih =>
    have hanswers : answersOf (.flag false :: .answer a :: (pause ++ o)) = a :: answersOf o := by
      simp [quiet]
    have hlooks : (Observation.flag false :: .answer a :: (pause ++ o)).count (.flag false) =
        pause.count (.flag false) + o.count (.flag false) + 1 := by simp
    rw [hanswers, hlooks, List.length_cons]
    omega

/-- A wait for the intents without an outcome has looked at the flag in all of its rounds. -/
theorem IntentWait.rounds_le {expected rounds : Nat} {policy : RetryPolicy} {o : List Observation}
    (h : IntentWait expected policy rounds o none) (hkept : KeepsTime o) :
    rounds ≤ o.count (.flag false) := by
  obtain ⟨start, rest, rfl, hrun⟩ := h.run
  have hpolls := hrun.length_answersOf_le
  have hrounds := h.usedUp rfl hkept
  rw [answersOf_clock_cons] at hrounds
  have hlooks := (List.sublist_cons_self (Observation.clock start) rest).count_le (.flag false)
  omega

/-- A wait for the trigger without an outcome has looked at the flag in all of its rounds. -/
theorem TriggerRun.rounds_le {rounds : Nat} {o : List Observation} (h : TriggerRun rounds o none) :
    rounds ≤ o.count (.flag false) := by
  cases h with
  | unfinished =>
    induction rounds with
    | zero => exact Nat.zero_le _
    | succ n ih =>
      have hlooks : (idleRounds (n + 1)).count (.flag false) = (idleRounds n).count (.flag false) + 1 := by
        simp
      omega

/-- On a testbed with a clock, on which the flag is set at last and the playback comes to its end, a run
ends, and has one result for every patience of more rounds than looks at the flag see it unset. -/
theorem experiment_ends {t : Testbed σ} {b : Bundle} {s : Settings} {confDir : Path} {scene : Scene σ}
    {n : Nat} (hclock : t.HasClock)
    (hstops : t.StopsWithin (.ofSettings s.controller) n (scene.prepared b s confDir))
    (hplays : ∀ p, ((Preparation.ofBundle b s confDir).run scene.files).1 = .ok p →
      ∀ x, ((p.playback s).performAll (t.play (p.playback s) x).1).isOver = true) :
    ∃ r q, r ≠ .error .unfinished ∧ ∀ patience, n < patience →
      (t.experiment b s confDir patience).run (.ofScene scene) = (r, q) := by
  obtain ⟨r, body, q₀, hend⟩ := experiment_end t b s confDir (n + 1) scene
  obtain ⟨stops, q, hrun, -, hstopped⟩ := hend.isStopped t.stopDaemon t.stopSpawned t.stopEmulator
  have hended : r ≠ .error .unfinished := by
    rintro rfl
    have hlooks := hstops _ _ hend.leads.asked
    have hkept := hclock.keepsTime (.ofSettings s.controller) hend.leads.asked
    obtain ⟨p, y, cs, hup, rfl, hstages⟩ := hend.body.of_unfinished
    rcases hstages.of_unfinished with ⟨before, wait, o, rfl, hshows, hwait⟩ | ⟨actions, hplayed, hleft⟩
    · have hall : observationsIn (.ofSettings s.controller)
          (.startEmulator p.network (.ok ()) :: (before ++ wait)) =
          observationsIn (.ofSettings s.controller) (.startEmulator p.network (.ok ()) :: before) ++ o := by
        rw [← List.cons_append, observationsIn_append, hshows.observationsIn_eq]
      have hrounds : n + 1 ≤ o.count (.flag false) := by
        rcases hwait with ⟨_, hwait⟩ | hwait
        · exact hwait.rounds_le (hkept.of_infix (hall ▸ (List.suffix_append _ o).isInfix))
        · exact hwait.rounds_le
      rw [hall, List.count_append] at hlooks
      omega
    · obtain ⟨x, x', hplay⟩ := hend.leads.asked.answers_of_mem (List.mem_cons_of_mem _ hplayed)
      have hover := hplays p hup.prepared x
      rw [show (t.play (p.playback s) x).1 = actions from congrArg Prod.fst hplay, hleft] at hover
      cases hover
  refine ⟨r, q, hended, fun patience hpatience => ?_⟩
  obtain ⟨more, rfl⟩ := Nat.exists_eq_add_of_lt hpatience
  rw [Nat.add_right_comm]
  exact experiment_add hrun hended more

end BackboneLab
