import BackboneLab.Proofs.Experiment.WaitOutcome
import Mathlib.Algebra.Order.Floor.Div

/-!
# Naps along a course

A nap has no counter: it goes on until the clock shows the deadline or the flag is set. `NapRun` is what it
observes along a course, and `Course.napUntil_run` says that it observes just this. If no sleep is shorter
than it should be (`Course.SleepsFully`), then each sleep takes a whole step off the time that is left or
ends it, however far the clock runs past the end of a sleep (`NapRun.length_sleepsOf_le`). So a nap always
ends, and `nap_verdict` collects what then holds of its sleeps, of the flag and of the deadline.
-/

namespace BackboneLab

/-- In every sleep the clock goes on at least as far as was asked for. -/
def Course.SleepsFully (c : Course) : Prop :=
  ∀ n h, c.time h + n ≤ c.time (.slept n :: h)

/-- The number of sleeps of a nap is its length divided by the step, rounded up. -/
theorem napSleeps_eq_ceilDiv (d : Span) : napSleeps d = d.nanos ⌈/⌉ napStep := by
  rw [napSleeps, Nat.ceilDiv_eq_add_pred_div, Nat.add_sub_assoc (by decide)]

/-- The sleep that is asked for at a time before the deadline. -/
def napSleep (deadline time : Nat) : Nat := min napStep (deadline - time)

/-- What a nap observes along a course after the given questions, and whether it comes to its end. -/
inductive NapRun (c : Course) (deadline : Nat) :
    List Observation → List Observation → Bool → Prop
  | unfinished {h : List Observation} : NapRun c deadline h [] false
  | late {h : List Observation} (late : deadline ≤ c.time h) :
      NapRun c deadline h [.clock (c.time h)] true
  | stopped {h : List Observation} (early : c.time h < deadline)
      (set : c.stopped (.clock (c.time h) :: h) = true) :
      NapRun c deadline h [.clock (c.time h), .flag true] true
  | sleeps {h o : List Observation} {ended : Bool} (early : c.time h < deadline)
      (unset : c.stopped (.clock (c.time h) :: h) = false)
      (rest : NapRun c deadline
        (.slept (napSleep deadline (c.time h)) :: .flag false :: .clock (c.time h) :: h) o ended) :
      NapRun c deadline h
        (.clock (c.time h) :: .flag false :: .slept (napSleep deadline (c.time h)) :: o) ended

namespace Course

/-- Observations after the given questions, each of which is what the course answers (`Follows` is about
observations from the beginning). -/
def FollowsFrom (c : Course) (h o : List Observation) : Prop :=
  ∀ before x, before ++ [x] <+: o → c.Gives (before.reverse ++ h) x

theorem FollowsFrom.nil {c : Course} {h : List Observation} : c.FollowsFrom h [] := fun before x hprefix => by
  simp at hprefix

theorem FollowsFrom.cons {c : Course} {h o : List Observation} {x : Observation} (hx : c.Gives h x)
    (ho : c.FollowsFrom (x :: h) o) : c.FollowsFrom h (x :: o) := by
  intro before y hprefix
  cases before with
  | nil =>
    obtain ⟨rfl, -⟩ := List.cons_prefix_cons.1 hprefix
    exact hx
  | cons z before =>
    obtain ⟨rfl, hrest⟩ := List.cons_prefix_cons.1 hprefix
    simpa using ho before y hrest

/-- One round of a nap. -/
theorem napUntil_succ (c : Course) (deadline rounds : Nat) (h : List Observation) :
    c.surroundings.napUntil deadline (rounds + 1) h =
      if deadline ≤ c.time h then (true, .clock (c.time h) :: h)
      else if c.stopped (.clock (c.time h) :: h) then (true, .flag true :: .clock (c.time h) :: h)
      else c.surroundings.napUntil deadline rounds
        (.slept (napSleep deadline (c.time h)) :: .flag false :: .clock (c.time h) :: h) := by
  by_cases hlate : deadline ≤ c.time h
  · simp [Surroundings.napUntil, surroundings, hlate]
  cases hflag : c.stopped (.clock (c.time h) :: h) with
  | true => simp [Surroundings.napUntil, surroundings, hlate, hflag]
  | false => simp [Surroundings.napUntil, surroundings, hlate, hflag, napSleep]

/-- The order in which a nap asks its questions. Unless it ends, every round is a sleep. -/
theorem napUntil_run (c : Course) (deadline rounds : Nat) (h : List Observation) :
    ∃ o ended, c.surroundings.napUntil deadline rounds h = (ended, o.reverse ++ h) ∧
      NapRun c deadline h o ended ∧ (ended = false → (sleepsOf o).length = rounds) := by
  induction rounds generalizing h with
  | zero => exact ⟨[], false, rfl, .unfinished, fun _ => rfl⟩
  | succ rounds ih =>
    rw [napUntil_succ]
    split
    next hlate => exact ⟨_, true, rfl, .late hlate, nofun⟩
    next hlate =>
    have hearly : c.time h < deadline := Nat.lt_of_not_le hlate
    split
    next hset => exact ⟨_, true, rfl, .stopped hearly hset, nofun⟩
    next hset =>
    obtain ⟨o, ended, hnap, hrun, hrounds⟩ :=
      ih (.slept (napSleep deadline (c.time h)) :: .flag false :: .clock (c.time h) :: h)
    refine ⟨_, ended, ?_, .sleeps hearly (Bool.eq_false_iff.2 hset) hrun, fun hended => ?_⟩
    · simpa using hnap
    · simp [hrounds hended]

end Course

namespace NapRun

variable {c : Course} {deadline : Nat} {h o : List Observation} {ended : Bool}

/-- A nap that begins when the flag is set does not sleep. -/
theorem sleepsOf_eq_nil (hc : c.IsSteady) (hrun : NapRun c deadline h o ended)
    (hset : c.stopped h = true) : sleepsOf o = [] := by
  cases hrun with
  | unfinished | late | stopped => rfl
  | sleeps _ unset _ =>
    rw [hc.stopped _ h hset] at unset
    cases unset

/-- Every sleep takes a step off the time that is left, or leaves nothing of it. The induction is on the
run; the clock may have gone further than the sleep at any round. -/
theorem length_sleepsOf_le (hc : c.IsSteady) (hs : c.SleepsFully) (hrun : NapRun c deadline h o ended) :
    (sleepsOf o).length ≤ (deadline - c.time h) ⌈/⌉ napStep := by
  induction hrun with
  | unfinished | late | stopped => exact Nat.zero_le _
  | @sleeps h o ended early unset rest ih =>
    have hbefore : c.time h ≤ c.time (.flag false :: .clock (c.time h) :: h) :=
      hc.time_append [_, _] h
    have hslept := hs (napSleep deadline (c.time h)) (.flag false :: .clock (c.time h) :: h)
    simp only [sleepsOf_clock_cons, sleepsOf_flag_cons, sleepsOf_slept_cons, List.length_cons]
    rw [Nat.ceilDiv_eq_add_pred_div] at ih ⊢
    simp only [napSleep, napStep] at hslept ih ⊢
    omega

/-- What is observed is what the course answers. -/
theorem followsFrom (hrun : NapRun c deadline h o ended) : c.FollowsFrom h o := by
  induction hrun with
  | unfinished => exact .nil
  | late _ => exact .cons rfl .nil
  | stopped _ set => exact .cons rfl (.cons set .nil)
  | sleeps _ unset _ ih => exact .cons rfl (.cons unset (.cons trivial ih))

/-- Right before a sleep the clock was read, which was early, and then the flag, which was not set. -/
theorem of_slept (hrun : NapRun c deadline h o ended) {before after : List Observation} {n : Nat}
    (ho : o = before ++ .slept n :: after) :
    ∃ earlier time, before = earlier ++ [.clock time, .flag false] ∧ time < deadline ∧
      n = napSleep deadline time := by
  induction hrun generalizing before with
  | unfinished | late | stopped => simp [List.cons_eq_append_iff] at ho
  | @sleeps h o ended early unset rest ih =>
    rcases before with _ | ⟨x, _ | ⟨y, _ | ⟨z, before⟩⟩⟩
    · cases ho
    · cases ho
    · cases ho
      exact ⟨[], _, rfl, early, rfl⟩
    · simp only [List.cons_append, List.cons.injEq] at ho
      obtain ⟨rfl, rfl, rfl, ho⟩ := ho
      obtain ⟨earlier, time, rfl, hrest⟩ := ih ho
      exact ⟨_ :: _ :: _ :: earlier, time, rfl, hrest⟩

/-- After the flag was set, which may be between the look at it and a sleep, that is the last sleep. -/
theorem length_sleepsOf_le_one (hc : c.IsSteady) (hrun : NapRun c deadline h o ended)
    {before after : List Observation} (ho : o = before ++ after)
    (hset : c.stopped (before.reverse ++ h) = true) : (sleepsOf after).length ≤ 1 := by
  induction hrun generalizing before with
  | unfinished | late | stopped =>
    have hnone := congrArg sleepsOf ho
    rw [sleepsOf_append] at hnone
    rw [(List.append_eq_nil_iff.1 hnone.symm).2]
    exact Nat.zero_le 1
  | @sleeps h o ended early unset rest ih =>
    rcases before with _ | ⟨x, _ | ⟨y, _ | ⟨z, before⟩⟩⟩
    · rw [hc.stopped _ h hset] at unset
      cases unset
    · obtain ⟨rfl, -⟩ := List.cons.inj ho
      rw [show c.stopped (.clock (c.time h) :: h) = true from hset] at unset
      cases unset
    · -- the flag was set after it was seen unset, so that one sleep is asked for
      cases ho
      rw [sleepsOf_slept_cons, rest.sleepsOf_eq_nil hc (hc.stopped _ _ hset)]
      exact Nat.le_refl 1
    · simp only [List.cons_append, List.cons.injEq] at ho
      obtain ⟨rfl, rfl, rfl, ho⟩ := ho
      exact ih ho (by simpa using hset)

/-- A nap that ends before the deadline has seen the flag set. -/
theorem of_early (hc : c.IsSteady) (hrun : NapRun c deadline h o true)
    (hearly : c.time (o.reverse ++ h) < deadline) :
    ∃ before, o = before ++ [.flag true] ∧ c.stopped (before.reverse ++ h) = true := by
  generalize hended : true = ended at hrun
  induction hrun with
  | unfinished => cases hended
  | @late h late =>
    have hlater : c.time h ≤ c.time (.clock (c.time h) :: h) := hc.time _ h
    exact absurd (late.trans hlater) (Nat.not_le.2 hearly)
  | stopped _ set => exact ⟨[.clock _], rfl, set⟩
  | sleeps _ _ _ ih =>
    obtain ⟨before, rfl, hset⟩ := ih (by simpa using hearly) hended
    exact ⟨_ :: _ :: _ :: before, rfl, by simpa using hset⟩

end NapRun

/-! ## The verdict -/

/-- What holds of a nap that has observed the given things after the given questions and has ended. -/
structure NapVerdict (c : Course) (d : Span) (h o : List Observation) : Prop where
  followsFrom : c.FollowsFrom h o
  /-- Right before every sleep the flag was seen unset, and before that the clock was read. It showed a
  time before the deadline, and the sleep is neither longer than a step nor than what was left then. -/
  slept (before : List Observation) (n : Nat) (after : List Observation) :
    o = before ++ .slept n :: after →
      ∃ earlier time, before = earlier ++ [.clock time, .flag false] ∧ time < c.time h + d.nanos ∧
        n ≤ napStep ∧ n ≤ c.time h + d.nanos - time
  length_sleepsOf : (sleepsOf o).length ≤ d.nanos ⌈/⌉ napStep
  /-- At whatever moment the flag is set, at most one sleep follows. -/
  stopped (before after : List Observation) :
    o = before ++ after → c.stopped (before.reverse ++ h) = true → (sleepsOf after).length ≤ 1
  /-- Only the flag ends a nap before the deadline. -/
  early : c.time (o.reverse ++ h) < c.time h + d.nanos →
    ∃ before, o = before ++ [.flag true] ∧ c.stopped (before.reverse ++ h) = true

/-- A nap along a steady course ends within its rounds if no sleep is shorter than it should be. -/
theorem Course.napUntil_ended {c : Course} (hc : c.IsSteady) (hs : c.SleepsFully) (d : Span)
    (h : List Observation) :
    ∃ o, c.surroundings.napUntil (c.time h + d.nanos) (napSleeps d + 1) (.clock (c.time h) :: h) =
        (true, o.reverse ++ .clock (c.time h) :: h) ∧
      NapRun c (c.time h + d.nanos) (.clock (c.time h) :: h) o true ∧
      (sleepsOf o).length ≤ d.nanos ⌈/⌉ napStep := by
  obtain ⟨o, ended, hnap, hrun, hrounds⟩ :=
    c.napUntil_run (c.time h + d.nanos) (napSleeps d + 1) (.clock (c.time h) :: h)
  have hleft : c.time h + d.nanos - c.time (.clock (c.time h) :: h) ≤ d.nanos := by
    have := hc.time (.clock (c.time h)) h
    omega
  have hcount : (sleepsOf o).length ≤ d.nanos ⌈/⌉ napStep :=
    (hrun.length_sleepsOf_le hc hs).trans ((gc_smul_ceilDiv (by decide)).monotone_l hleft)
  cases ended with
  | true => exact ⟨o, hnap, hrun, hcount⟩
  | false =>
    -- a nap that does not end has slept in every round, which is once too often
    have hfull := hrounds rfl
    rw [napSleeps_eq_ceilDiv] at hfull
    omega

/-- A nap along a steady course on which no sleep is shorter than it should be ends, and more rounds do
not change how. Until then it has slept no longer and no more often than it should. -/
theorem nap_verdict {c : Course} (hc : c.IsSteady) (hs : c.SleepsFully) (d : Span)
    (h : List Observation) :
    ∃ o, c.surroundings.nap d h = (true, o.reverse ++ h) ∧
      (∀ more, c.surroundings.napWithin d (napSleeps d + 1 + more) h = (true, o.reverse ++ h)) ∧
      NapVerdict c d h o := by
  obtain ⟨o, hnap, hrun, hcount⟩ := Course.napUntil_ended hc hs d h
  have hrecord : (Observation.clock (c.time h) :: o).reverse ++ h = o.reverse ++ .clock (c.time h) :: h := by
    simp
  refine ⟨.clock (c.time h) :: o, hrecord ▸ hnap, fun more => ?_, ?_, ?_, hcount, ?_, ?_⟩
  · rw [hrecord]
    exact Surroundings.napUntil_add hnap more
  · exact .cons rfl hrun.followsFrom
  · rintro (_ | ⟨x, before⟩) n after ho
    · cases ho
    · obtain ⟨rfl, hrest⟩ := List.cons.inj ho
      obtain ⟨earlier, time, rfl, hearly, rfl⟩ := hrun.of_slept hrest
      exact ⟨_ :: earlier, time, rfl, hearly, Nat.min_le_left .., Nat.min_le_right ..⟩
  · rintro (_ | ⟨x, before⟩) after ho hset
    · obtain rfl := ho.symm
      rw [sleepsOf_clock_cons, hrun.sleepsOf_eq_nil hc (hc.stopped _ h hset)]
      exact Nat.zero_le 1
    · obtain ⟨rfl, hrest⟩ := List.cons.inj ho
      exact hrun.length_sleepsOf_le_one hc hrest (by simpa using hset)
  · intro hearly
    obtain ⟨before, rfl, hset⟩ := hrun.of_early hc (by rwa [hrecord] at hearly)
    exact ⟨_ :: before, rfl, by simpa using hset⟩

/-- A course on which every question takes twenty milliseconds, and the flag is set during the second
sleep. -/
def Course.dozing : Course where
  time h := (sleepsOf h).sum + h.length * 20000000
  stopped h := 7 ≤ h.length
  count _ := none
  reception _ := .nothing

/-- Half a second would have been five sleeps. -/
theorem nap_verdict_stopped :
    Course.dozing.IsSteady ∧ Course.dozing.SleepsFully ∧
      NapVerdict Course.dozing (.ofMillis 500) []
        [.clock 0, .clock 20000000, .flag false, .slept 100000000, .clock 180000000, .flag false,
          .slept 100000000, .clock 340000000, .flag true] := by
  have hsteady : Course.dozing.IsSteady := by
    refine ⟨fun x h => ?_, fun _ h hset => ?_⟩
    · have hsum : (sleepsOf h).sum ≤ (sleepsOf (x :: h)).sum := by
        cases x <;> simp [sleepsOf]
      simp only [Course.dozing, List.length_cons]
      omega
    · simp only [Course.dozing, List.length_cons, decide_eq_true_eq] at hset ⊢
      omega
  have hfully : Course.dozing.SleepsFully := by
    intro n h
    simp only [Course.dozing, sleepsOf_slept_cons, List.sum_cons, List.length_cons]
    omega
  obtain ⟨o, hnap, -, hverdict⟩ := nap_verdict hsteady hfully (.ofMillis 500) []
  have hrun : (Course.dozing.surroundings.nap (.ofMillis 500) []).2 = [.flag true, .clock 340000000,
      .slept 100000000, .flag false, .clock 180000000, .slept 100000000, .flag false, .clock 20000000,
      .clock 0] := by decide
  rw [hnap, List.append_nil] at hrun
  obtain rfl := List.reverse_eq_iff.1 hrun
  exact ⟨hsteady, hfully, hverdict⟩

end BackboneLab
