import BackboneLab.Proofs.Experiment.Waiting
import Mathlib.Data.List.Infix

/-!
# The outcome of a wait for the intents

A wait along a course observes what the course answers (`Course.Follows`). If the clock never goes back and
a stop flag that is set remains set (`Course.IsSteady`), then the order in which the questions are asked
(`WaitRun`) settles what its outcome means: `WaitVerdict` collects what then holds of the answers, of the
times that were read after them and of the flag. The main statement is `wait_verdict`.
-/

namespace BackboneLab

/-! ## Steady courses -/

namespace Course

variable {c : Course}

/-- The clock does not go back, and a stop flag that is set remains set, whatever happens. -/
structure IsSteady (c : Course) : Prop where
  time (x : Observation) (h : List Observation) : c.time h ≤ c.time (x :: h)
  stopped (x : Observation) (h : List Observation) : c.stopped h = true → c.stopped (x :: h) = true

theorem IsSteady.time_append (hc : c.IsSteady) (later h : List Observation) :
    c.time h ≤ c.time (later ++ h) := by
  induction later with
  | nil => exact Nat.le_refl _
  | cons x later ih => exact ih.trans (hc.time x _)

theorem IsSteady.stopped_append (hc : c.IsSteady) (later : List Observation) {h : List Observation}
    (hset : c.stopped h = true) : c.stopped (later ++ h) = true := by
  induction later with
  | nil => exact hset
  | cons x later ih => exact hc.stopped x _ ih

/-- What a course answers after the given questions, of which the latest stands first. -/
def Gives (c : Course) (h : List Observation) : Observation → Prop
  | .clock time => c.time h = time
  | .flag stopped => c.stopped h = stopped
  | .answer count => c.count h = count
  | .received reception => c.reception h = reception
  | .slept _ => True

/-- Observations, each of which is what the course answers after those before it. -/
def Follows (c : Course) (o : List Observation) : Prop :=
  ∀ before x, before ++ [x] <+: o → c.Gives before.reverse x

namespace Follows

variable {before after o : List Observation} {x : Observation}

theorem nil : c.Follows [] := fun before x h => by
  simp at h

theorem concat (h : c.Follows o) (hx : c.Gives o.reverse x) : c.Follows (o ++ [x]) := by
  intro before y hprefix
  rcases List.prefix_concat_iff.1 hprefix with heq | hprefix
  · obtain ⟨rfl, hy⟩ := List.append_inj' heq rfl
    obtain rfl := List.singleton_inj.1 hy
    exact hx
  · exact h before y hprefix

theorem gives (h : c.Follows (before ++ x :: after)) : c.Gives before.reverse x :=
  h before x ⟨after, List.append_assoc ..⟩

/-- After the flag was seen set, it is never seen unset. -/
theorem flag_false_notMem (hc : c.IsSteady) (h : c.Follows (before ++ .flag true :: after)) :
    .flag false ∉ after := by
  intro hmem
  obtain ⟨mid, rest, rfl⟩ := List.append_of_mem hmem
  have hset : c.stopped before.reverse = true := h.gives
  rw [← List.cons_append, ← List.append_assoc] at h
  have hunset : c.stopped (before ++ .flag true :: mid).reverse = false := h.gives
  rw [List.reverse_append, hc.stopped_append _ hset] at hunset
  cases hunset

/-- No time that is read later is before the time that is read first. -/
theorem le_of_clock_mem (hc : c.IsSteady) {time : Nat} (h : c.Follows (.clock (c.time []) :: o))
    (hmem : .clock time ∈ o) : c.time [] ≤ time := by
  obtain ⟨mid, rest, rfl⟩ := List.append_of_mem hmem
  rw [← List.cons_append] at h
  have htime : c.time (.clock (c.time []) :: mid).reverse = time := h.gives
  rw [← htime, ← List.append_nil (List.reverse _)]
  exact hc.time_append _ []

end Follows

/-- A record of what was observed along a course. -/
structure Recorded (c : Course) (o h : List Observation) : Prop where
  follows : c.Follows o
  reversed : h = o.reverse

theorem Recorded.nil (c : Course) : c.Recorded [] [] := ⟨.nil, rfl⟩

theorem Recorded.ask {o h : List Observation} {x : Observation} (hr : c.Recorded o h)
    (hx : c.Gives h x) : c.Recorded (o ++ [x]) (x :: h) :=
  ⟨hr.follows.concat (hr.reversed ▸ hx), by rw [List.reverse_concat, hr.reversed]⟩

/-- Whatever is asked along a course, the course answers it and it is recorded. -/
theorem surroundings_tracks (c : Course) : c.surroundings.Tracks c.Recorded where
  now h := h.ask rfl
  isStopped h := h.ask rfl
  poll h := h.ask rfl
  receive h := h.ask rfl
  sleep _ h := h.ask trivial

end Course

/-! ## Answers of a wait -/

theorem latestCount_eq_none_iff {answers : List (Option Nat)} :
    latestCount answers = none ↔ ∀ a ∈ answers, a = none := by
  simp [latestCount]

/-- Short answers do not end with a sufficient count. -/
theorem not_enough_of_short {expected count : Nat} {answers : List (Option Nat)}
    (h : ∀ a ∈ answers, IsShort expected a) :
    ¬ (answers.getLast? = some (some count) ∧ expected ≤ count) := by
  rintro ⟨hlast, henough⟩
  have hcount := h _ (List.mem_of_getLast? hlast) count rfl
  omega

section
variable {expected start : Nat} {timeout : Option Span} {o : List Observation} {outcome : WaitOutcome}

/-- Only the last answer can be sufficient. -/
theorem WaitEnded.short_dropLast (h : WaitEnded expected timeout start o outcome) :
    ∀ a ∈ (answersOf o).dropLast, IsShort expected a := by
  cases h with
  | reached short _ => simpa using short
  | timedOut short _ _ _ | cancelled short =>
    exact fun a ha => short a (by simpa using List.mem_of_mem_dropLast ha)

/-- The number is reached just if the last answer is sufficient. -/
theorem WaitEnded.reached_iff (h : WaitEnded expected timeout start o outcome) (count : Nat) :
    outcome = .reached count ↔ (answersOf o).getLast? = some (some count) ∧ expected ≤ count := by
  cases h with
  | reached _ enough =>
    simp only [answersOf_append, answersOf_answer_cons, answersOf_nil, List.getLast?_concat,
      WaitOutcome.reached.injEq, Option.some.injEq]
    exact ⟨fun h => ⟨h, h ▸ enough⟩, And.left⟩
  | timedOut short _ _ _ | cancelled short =>
    exact iff_of_false nofun (not_enough_of_short (by simpa using short))

theorem WaitEnded.of_timedOut {last : Option Nat}
    (h : WaitEnded expected timeout start o (.timedOut last)) :
    ∃ limit, timeout = some limit ∧ last = latestCount (answersOf o) := by
  cases h with
  | timedOut _ _ limited _ => exact ⟨_, limited, by simp⟩

theorem WaitEnded.of_cancelled (h : WaitEnded expected timeout start o .cancelled) :
    ∃ before, o = before ++ [.flag true] := by
  cases h with
  | cancelled _ => exact ⟨_, rfl⟩

end

/-! ## Times and flags between the answers -/

/-- No answer stands in the observations of a pause. -/
theorem answer_suffix_append {a : Option Nat} {pause o after : List Observation}
    (hquiet : answersOf pause = []) (h : .answer a :: after <:+ pause ++ o) : .answer a :: after <:+ o := by
  induction pause with
  | nil => exact h
  | cons x pause ih =>
    rcases List.suffix_cons_iff.1 h with heq | h
    · cases heq
      cases hquiet
    · refine ih ?_ h
      rw [← List.singleton_append, answersOf_append, List.append_eq_nil_iff] at hquiet
      exact hquiet.2

/-- The clock is read after every answer, and only after the last one does it show the deadline. -/
def IsLateAfterLast (deadline : Nat) (o : List Observation) : Prop :=
  ∀ a after, .answer a :: after <:+ o →
    ∃ time rest, after = .clock time :: rest ∧ (deadline ≤ time ↔ answersOf rest = [])

namespace IsLateAfterLast

variable {deadline time : Nat} {o : List Observation}

theorem nil : IsLateAfterLast deadline [] := fun _ _ h => nomatch List.suffix_nil.1 h

theorem append (h : IsLateAfterLast deadline o) (pause : List Observation)
    (hquiet : answersOf pause = []) : IsLateAfterLast deadline (pause ++ o) :=
  fun a after hafter => h a after (answer_suffix_append hquiet hafter)

theorem answer (h : IsLateAfterLast deadline o) (a : Option Nat)
    (htime : deadline ≤ time ↔ answersOf o = []) :
    IsLateAfterLast deadline (.answer a :: .clock time :: o) := by
  intro a' after hafter
  rcases List.suffix_cons_iff.1 hafter with heq | hafter
  · cases heq
    exact ⟨time, o, rfl, htime⟩
  · exact h.append [.clock time] rfl a' after hafter

end IsLateAfterLast

namespace WaitRun

variable {expected start : Nat} {timeout : Option Span} {last latest : Option Nat}
  {o after : List Observation} {outcome : Option WaitOutcome}

/-- A wait that ends looks at the flag first, and asks for no count just if it is set. -/
theorem unpolled {outcome : WaitOutcome} (h : WaitRun expected timeout start last o (some outcome)) :
    ∃ stopped rest, o = .flag stopped :: rest ∧ (answersOf o = [] ↔ stopped = true) := by
  cases h with
  | cancelled => exact ⟨true, _, rfl, by simp⟩
  | reached | timedOut | again => exact ⟨false, _, rfl, by simp⟩

/-- The time is never up before the first poll. -/
theorem polled (h : WaitRun expected timeout start last o (some (.timedOut latest))) :
    answersOf o ≠ [] := by
  cases h with
  | timedOut | again => exact List.cons_ne_nil _ _

/-- Before every poll, the flag was seen unset. -/
theorem answersOf_eq_nil (h : WaitRun expected timeout start last o outcome) (hset : .flag false ∉ o) :
    answersOf o = [] := by
  cases h with
  | unfinished | cancelled => rfl
  | reached | timedOut | again => exact absurd List.mem_cons_self hset

/-- If the flag remains set once it was seen set, then there is no poll any more. -/
theorem quiet (h : WaitRun expected timeout start last o outcome) (hafter : .flag true :: after <:+ o)
    (hset : .flag false ∉ after) : answersOf after = [] := by
  induction h with
  | unfinished => simp at hafter
  | cancelled =>
    obtain rfl : after = [] := by simpa [List.suffix_cons_iff] using hafter
    rfl
  | reached | timedOut => simp [List.suffix_cons_iff] at hafter
  | @again last a pause o outcome _ hquiet _ rest ih =>
    rcases List.suffix_cons_iff.1 hafter with heq | hafter
    · cases heq
    rcases List.suffix_cons_iff.1 hafter with heq | ⟨before, heq⟩
    · cases heq
    rcases List.append_eq_append_iff.1 heq with ⟨mid, hpause, ho⟩ | ⟨mid, -, ho⟩
    · cases mid with
      | nil => exact ih (ho ▸ List.suffix_rfl)
      | cons x mid =>
        -- the flag was seen set during the pause
        rw [List.cons_append, List.cons.injEq] at ho
        obtain ⟨rfl, rfl⟩ := ho
        have hmid : answersOf mid = [] := by
          rw [hpause, answersOf_append, List.append_eq_nil_iff] at hquiet
          exact hquiet.2
        rw [answersOf_append, hmid, rest.answersOf_eq_nil fun h => hset (List.mem_append_right _ h)]
        rfl
    · exact ih ⟨mid, ho.symm⟩

/-- If the time is up in the end, then it was up after the last poll only. -/
theorem isLateAfterLast {limit : Span}
    (h : WaitRun expected (some limit) start last o (some (.timedOut latest)))
    (hstart : ∀ time, .clock time ∈ o → start ≤ time) : IsLateAfterLast (start + limit.nanos) o := by
  generalize houtcome : some (WaitOutcome.timedOut latest) = outcome at h
  induction h with
  | unfinished | cancelled | reached => cases houtcome
  | @timedOut last a limit' time short limited late =>
    cases limited
    have htime : start + limit.nanos ≤ time := by
      have hread := hstart time (by simp)
      omega
    exact (IsLateAfterLast.nil.answer a (by simpa using htime)).append [.flag false] rfl
  | @again last a pause o outcome short quiet early rest ih =>
    subst houtcome
    obtain ⟨time, nap, rfl, hlt⟩ := early limit rfl
    have htime : ¬ start + limit.nanos ≤ time := by
      have hread := hstart time (by simp)
      omega
    have hrest := ih (fun t ht => hstart t (by simp [ht])) rfl
    have hpolled : answersOf (nap ++ o) ≠ [] := by
      simp [rest.polled]
    exact ((hrest.append nap quiet).answer a (iff_of_false htime hpolled)).append [.flag false] rfl

end WaitRun

/-! ## The verdict -/

/-- What the outcome of a wait says about what was observed. -/
structure WaitVerdict (c : Course) (expected : Nat) (timeout : Option Span) (o : List Observation)
    (outcome : WaitOutcome) : Prop where
  follows : c.Follows o
  /-- Every answer but the last one is an error or too small a count. -/
  short : ∀ a ∈ (answersOf o).dropLast, IsShort expected a
  reached (count : Nat) :
    outcome = .reached count ↔ (answersOf o).getLast? = some (some count) ∧ expected ≤ count
  timedOut (last : Option Nat) : outcome = .timedOut last →
    ∃ limit, timeout = some limit ∧ answersOf o ≠ [] ∧
      IsLateAfterLast (c.time [] + limit.nanos) o ∧ last = latestCount (answersOf o) ∧
      (last = none ↔ ∀ a ∈ answersOf o, a = none)
  cancelled : outcome = .cancelled → ∃ before, o = before ++ [.flag true] ∧ c.stopped before.reverse = true
  /-- No answer follows a look at the flag that saw it set. -/
  quiet : ∀ after, .flag true :: after <:+ o → answersOf after = []
  /-- There is no answer just if the flag is set at the first look, right after the clock was read. -/
  unpolled : answersOf o = [] ↔ c.stopped [.clock (c.time [])] = true

/-- A wait along a course that ends has read the clock and then gone through its rounds. -/
theorem Course.of_awaitWithin {c : Course} {expected naps rounds : Nat} {policy : RetryPolicy}
    {o : List Observation} {outcome : WaitOutcome}
    (h : c.surroundings.awaitWithin expected policy naps rounds [] = (some outcome, o.reverse)) :
    c.Follows o ∧ ∃ o', o = .clock (c.time []) :: o' ∧
      WaitRun expected policy.timeout (c.time []) none o' (some outcome) := by
  obtain ⟨o', hrecorded, hrun, -⟩ :=
    Surroundings.awaitWithin_run c.surroundings_tracks expected policy naps rounds (.nil c)
  rw [h] at hrecorded hrun
  obtain rfl := List.reverse_injective hrecorded.reversed
  exact ⟨hrecorded.follows, o', rfl, hrun⟩

/-- However many rounds and sleeps it takes, a wait along a steady course that ends is judged rightly: a
sufficient answer decides at once, the time decides after an answer that is not enough, and the flag
decides before the next poll. -/
theorem wait_verdict {c : Course} (hc : c.IsSteady) {expected naps rounds : Nat} {policy : RetryPolicy}
    {o : List Observation} {outcome : WaitOutcome}
    (h : c.surroundings.awaitWithin expected policy naps rounds [] = (some outcome, o.reverse)) :
    WaitVerdict c expected policy.timeout o outcome := by
  obtain ⟨hfollows, o', rfl, hrun⟩ := Course.of_awaitWithin h
  have hended : WaitEnded expected policy.timeout (c.time []) (.clock (c.time []) :: o') outcome :=
    hrun.ended [.clock (c.time [])] nofun rfl
  refine ⟨hfollows, hended.short_dropLast, hended.reached_iff, ?_, ?_, ?_, ?_⟩
  · rintro last rfl
    obtain ⟨limit, hlimited, rfl⟩ := hended.of_timedOut
    rw [hlimited] at hrun
    have hlate := hrun.isLateAfterLast fun time hmem => hfollows.le_of_clock_mem hc hmem
    exact ⟨limit, hlimited, hrun.polled, hlate.append [.clock (c.time [])] rfl, rfl,
      latestCount_eq_none_iff⟩
  · rintro rfl
    obtain ⟨before, ho⟩ := hended.of_cancelled
    rw [ho] at hfollows
    exact ⟨before, ho, hfollows.gives⟩
  · intro after hafter
    rcases List.suffix_cons_iff.1 hafter with heq | hafter
    · cases heq
    obtain ⟨before, rfl⟩ := hafter
    rw [← List.cons_append] at hfollows
    exact hrun.quiet (List.suffix_append ..) (hfollows.flag_false_notMem hc)
  · obtain ⟨stopped, rest, rfl, hpolled⟩ := hrun.unpolled
    rw [← List.singleton_append] at hfollows
    have hflag : c.stopped [.clock (c.time [])] = stopped := hfollows.gives
    rw [hflag]
    exact hpolled

/-- A course on which every question takes a tenth of a second and the first poll fails. -/
def Course.halting : Course where
  time h := h.length * 100000000
  stopped _ := false
  count h := if h.length < 3 then none else some 1
  reception _ := .nothing

/-- Of three intents only one is installed after one second. -/
theorem wait_verdict_one_second :
    Course.halting.IsSteady ∧
      WaitVerdict Course.halting 3 (some (.ofMillis 1000))
        [.clock 0, .flag false, .answer none, .clock 300000000, .clock 400000000, .clock 500000000,
          .flag false, .slept 100000000, .clock 800000000, .flag false, .answer (some 1),
          .clock 1100000000]
        (.timedOut (some 1)) := by
  have hsteady : Course.halting.IsSteady :=
    ⟨fun _ h => Nat.mul_le_mul_right _ (Nat.le_succ h.length), fun _ _ hset => hset⟩
  -- two sleeps a nap and three rounds are enough
  exact ⟨hsteady, @wait_verdict _ hsteady 3 2 3 ⟨.ofMillis 200, some (.ofMillis 1000)⟩ _ _ (by decide)⟩

end BackboneLab
