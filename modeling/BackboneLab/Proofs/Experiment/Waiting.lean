import BackboneLab.Experiment.IntentWait
import BackboneLab.Experiment.Trigger
import Mathlib.Algebra.GroupWithZero.Nat

/-!
# What is observed during a wait

A wait asks its surroundings one question after the other. `Surroundings.Tracks w P` says that a relation
`P` between the observations and the state of the surroundings goes on to hold whatever is asked next; it
is what an instance has to show. From it `awaitFrom_run` derives the order in which a wait for the intents
asks its questions (`WaitRun`), and `awaitIntents_run` and `awaitTrigger_run` derive what has been observed
when a wait ends or is out of rounds, and that the relation still holds there.

A wait without an outcome has used up its rounds: as long as the clock goes on at least as far as was slept
(`KeepsTime`), no nap in it is broken off. More rounds and sleeps change nothing once a wait has ended
(`awaitWithin_add`, `awaitTrigger_add`).
-/

namespace BackboneLab

/-- The answers of the controller among the observations. -/
def answersOf (o : List Observation) : List (Option Nat) :=
  o.filterMap fun
    | .answer count => some count
    | _ => none

@[simp] theorem answersOf_append (o o' : List Observation) :
    answersOf (o ++ o') = answersOf o ++ answersOf o' :=
  List.filterMap_append

@[simp] theorem answersOf_nil : answersOf [] = [] := rfl

@[simp] theorem answersOf_answer_cons (count : Option Nat) (o : List Observation) :
    answersOf (.answer count :: o) = count :: answersOf o := rfl

@[simp] theorem answersOf_clock_cons (time : Nat) (o : List Observation) :
    answersOf (.clock time :: o) = answersOf o := rfl

@[simp] theorem answersOf_flag_cons (stopped : Bool) (o : List Observation) :
    answersOf (.flag stopped :: o) = answersOf o := rfl

@[simp] theorem answersOf_slept_cons (nanos : Nat) (o : List Observation) :
    answersOf (.slept nanos :: o) = answersOf o := rfl

/-- The lengths of the sleeps among the observations. -/
def sleepsOf (o : List Observation) : List Nat :=
  o.filterMap fun
    | .slept nanos => some nanos
    | _ => none

@[simp] theorem sleepsOf_append (o o' : List Observation) :
    sleepsOf (o ++ o') = sleepsOf o ++ sleepsOf o' :=
  List.filterMap_append

@[simp] theorem sleepsOf_nil : sleepsOf [] = [] := rfl

@[simp] theorem sleepsOf_slept_cons (nanos : Nat) (o : List Observation) :
    sleepsOf (.slept nanos :: o) = nanos :: sleepsOf o := rfl

@[simp] theorem sleepsOf_clock_cons (time : Nat) (o : List Observation) :
    sleepsOf (.clock time :: o) = sleepsOf o := rfl

@[simp] theorem sleepsOf_flag_cons (stopped : Bool) (o : List Observation) :
    sleepsOf (.flag stopped :: o) = sleepsOf o := rfl

/-- Between any two readings the clock goes on at least as far as was slept. -/
def KeepsTime (o : List Observation) : Prop :=
  ∀ before time mid time' after, o = before ++ .clock time :: (mid ++ .clock time' :: after) →
    time + (sleepsOf mid).sum ≤ time'

theorem KeepsTime.of_infix {o o' : List Observation} (h : KeepsTime o) (hpart : o' <:+: o) :
    KeepsTime o' := by
  rintro before time mid time' after rfl
  obtain ⟨first, last, rfl⟩ := hpart
  exact h (first ++ before) time mid time' (after ++ last) (by simp)

theorem KeepsTime.of_cons {x : Observation} {o : List Observation} (h : KeepsTime (x :: o)) :
    KeepsTime o :=
  h.of_infix (List.suffix_cons x o).isInfix

/-- Rounds of a nap that goes on after each of them: the clock is early, the flag is not set, and a sleep
follows. -/
inductive NapRounds (deadline : Nat) : Nat → List Observation → Prop
  | nil : NapRounds deadline 0 []
  | cons {n time : Nat} {o : List Observation} (early : time < deadline)
      (rest : NapRounds deadline n o) :
      NapRounds deadline (n + 1)
        (.clock time :: .flag false :: .slept (min napStep (deadline - time)) :: o)

namespace NapRounds

variable {deadline n : Nat} {o : List Observation}

/-- If the clock keeps up with the sleeps, then every round but the last one takes a whole step off the
time that is left. -/
theorem early (h : NapRounds deadline (n + 1) o) (hkept : KeepsTime o) :
    ∃ time rest, o = .clock time :: rest ∧ time + n * napStep < deadline := by
  induction n generalizing o with
  | zero =>
    cases h with
    | cons early _ => exact ⟨_, _, rfl, by omega⟩
  | succ n ih =>
    cases h with
    | @cons _ time o early rest =>
      obtain ⟨time', rest', rfl, hearly'⟩ := ih rest hkept.of_cons.of_cons.of_cons
      have hslept := hkept [] time [.flag false, .slept (min napStep (deadline - time))] time' rest' rfl
      simp only [sleepsOf_flag_cons, sleepsOf_slept_cons, sleepsOf_nil, List.sum_cons, List.sum_nil]
        at hslept
      refine ⟨time, _, rfl, ?_⟩
      simp only [napStep] at hslept hearly' ⊢
      omega

/-- So a nap is only broken off if the clock does not keep up with its sleeps. -/
theorem not_keepsTime {start : Nat} {d : Span}
    (h : NapRounds (start + d.nanos) (napSleeps d + 1) o) : ¬ KeepsTime (.clock start :: o) := by
  intro hkept
  obtain ⟨time, rest, rfl, hearly⟩ := h.early hkept.of_cons
  have hbegun := hkept [] start [] time rest rfl
  have hsleeps : d.nanos ≤ napSleeps d * napStep := by
    simp only [napSleeps, napStep]
    omega
  simp only [sleepsOf_nil, List.sum_nil] at hbegun
  omega

end NapRounds

/-- The last count that the controller told. -/
def latestCount (answers : List (Option Nat)) : Option Nat := (answers.filterMap id).getLast?

@[simp] theorem latestCount_append_singleton (answers : List (Option Nat)) (a : Option Nat) :
    latestCount (answers ++ [a]) = a.or (latestCount answers) := by
  cases a <;> simp [latestCount, List.filterMap_append]

/-- An answer that tells of less than the expected number, or of no number at all. -/
def IsShort (expected : Nat) (answer : Option Nat) : Prop := ∀ count, answer = some count → count < expected

theorem isShort_iff_filter {expected : Nat} {answer : Option Nat} :
    IsShort expected answer ↔ answer.filter (expected ≤ ·) = none := by
  cases answer <;> simp [IsShort]

/-- What has been observed when a wait for the intents ends: all answers but a last sufficient one are
short, and the last observation is the reason for the end. -/
inductive WaitEnded (expected : Nat) (timeout : Option Span) (start : Nat) :
    List Observation → WaitOutcome → Prop
  | reached {o : List Observation} {count : Nat} (short : ∀ a ∈ answersOf o, IsShort expected a)
      (enough : expected ≤ count) :
      WaitEnded expected timeout start (o ++ [.answer (some count)]) (.reached count)
  | timedOut {o : List Observation} {limit : Span} {time : Nat}
      (short : ∀ a ∈ answersOf o, IsShort expected a) (polled : answersOf o ≠ [])
      (limited : timeout = some limit) (late : limit.nanos ≤ time - start) :
      WaitEnded expected timeout start (o ++ [.clock time]) (.timedOut (latestCount (answersOf o)))
  | cancelled {o : List Observation} (short : ∀ a ∈ answersOf o, IsShort expected a) :
      WaitEnded expected timeout start (o ++ [.flag true]) .cancelled

/-- What a wait for the intents observes from the beginning of a round on, given the last count before,
and how it ends, if its rounds are enough for that. -/
inductive WaitRun (expected : Nat) (timeout : Option Span) (start : Nat) :
    Option Nat → List Observation → Option WaitOutcome → Prop
  | unfinished {last : Option Nat} : WaitRun expected timeout start last [] none
  | cancelled {last : Option Nat} : WaitRun expected timeout start last [.flag true] (some .cancelled)
  | reached {last : Option Nat} {count : Nat} (enough : expected ≤ count) :
      WaitRun expected timeout start last [.flag false, .answer (some count)] (some (.reached count))
  | timedOut {last a : Option Nat} {limit : Span} {time : Nat} (short : IsShort expected a)
      (limited : timeout = some limit) (late : limit.nanos ≤ time - start) :
      WaitRun expected timeout start last [.flag false, .answer a, .clock time]
        (some (.timedOut (a.or last)))
  /-- The answer is short, and if there is a timeout, then the clock is read next and it is early. -/
  | again {last a : Option Nat} {pause o : List Observation} {outcome : Option WaitOutcome}
      (short : IsShort expected a) (quiet : answersOf pause = [])
      (early : ∀ limit, timeout = some limit →
        ∃ time nap, pause = .clock time :: nap ∧ time - start < limit.nanos)
      (rest : WaitRun expected timeout start (a.or last) o outcome) :
      WaitRun expected timeout start last (.flag false :: .answer a :: (pause ++ o)) outcome

/-- What has been observed after some rounds: they ended the wait, or all answers are short. -/
def WaitEndedOrShort (expected : Nat) (timeout : Option Span) (start : Nat) (o : List Observation) :
    Option WaitOutcome → Prop
  | some outcome => WaitEnded expected timeout start o outcome
  | none => ∀ a ∈ answersOf o, IsShort expected a

/-- How a run of rounds ends after short answers. The induction is on the rounds; what carries it is that
`last` is the latest count of the answers so far. -/
theorem WaitRun.ended {expected : Nat} {timeout : Option Span} {start : Nat} {last : Option Nat}
    {o : List Observation} {outcome : Option WaitOutcome}
    (h : WaitRun expected timeout start last o outcome) (before : List Observation)
    (hshort : ∀ a ∈ answersOf before, IsShort expected a) (hlast : last = latestCount (answersOf before)) :
    WaitEndedOrShort expected timeout start (before ++ o) outcome := by
  induction h generalizing before with
  | unfinished => rwa [List.append_nil]
  | cancelled => exact .cancelled hshort
  | reached enough =>
    rw [List.append_cons]
    exact .reached (by simpa using hshort) enough
  | @timedOut last a limit time short limited late =>
    have hanswers : answersOf (before ++ [.flag false, .answer a]) = answersOf before ++ [a] := by simp
    have hlatest : a.or last = latestCount (answersOf (before ++ [.flag false, .answer a])) := by
      rw [hanswers, latestCount_append_singleton, hlast]
    rw [hlatest, List.append_cons, List.append_cons, List.append_assoc before]
    refine .timedOut ?_ (by simp) limited late
    simpa [or_imp, forall_and] using ⟨hshort, short⟩
  | @again last a pause o outcome short quiet early rest ih =>
    have hanswers : answersOf (before ++ .flag false :: .answer a :: pause) = answersOf before ++ [a] := by
      simp [quiet]
    have hrest := ih (before ++ .flag false :: .answer a :: pause)
      (by simpa [quiet, or_imp, forall_and] using ⟨hshort, short⟩)
      (by rw [hanswers, latestCount_append_singleton, hlast])
    rwa [List.append_assoc] at hrest

/-- What a wait for the intents observes with so many rounds, and how it ends: it reads the clock and goes
through its rounds, and there is no outcome only if all of them are used up, each with a poll, or if the
clock does not keep up with the sleeps. -/
structure IntentWait (expected : Nat) (policy : RetryPolicy) (rounds : Nat) (o : List Observation)
    (outcome : Option WaitOutcome) : Prop where
  run : ∃ start rest, o = .clock start :: rest ∧
    WaitRun expected policy.timeout start none rest outcome
  usedUp : outcome = none → KeepsTime o → (answersOf o).length = rounds

/-- Rounds of a wait for the trigger that bring nothing. -/
def idleRounds (n : Nat) : List Observation :=
  (List.replicate n [Observation.flag false, .received .nothing]).flatten

@[simp] theorem idleRounds_zero : idleRounds 0 = [] := rfl

@[simp] theorem idleRounds_succ (n : Nat) :
    idleRounds (n + 1) = .flag false :: .received .nothing :: idleRounds n := rfl

/-- What a wait for the trigger observes with so many rounds, and how it ends: after some rounds that bring
nothing, with the flag, with a datagram or with a socket that cannot be read. There is no outcome only if
all of its rounds bring nothing. -/
inductive TriggerRun (rounds : Nat) :
    List Observation → Option (Except ExperimentFault (Option Ipv4)) → Prop
  | unfinished : TriggerRun rounds (idleRounds rounds) none
  | stopped {n : Nat} (left : n < rounds) :
      TriggerRun rounds (idleRounds n ++ [.flag true]) (some (.ok none))
  | datagram {n : Nat} {sender : Ipv4} (left : n < rounds) :
      TriggerRun rounds (idleRounds n ++ [.flag false, .received (.datagram sender)])
        (some (.ok (some sender)))
  | failed {n : Nat} (left : n < rounds) :
      TriggerRun rounds (idleRounds n ++ [.flag false, .received .failed])
        (some (.error .inaccessible))

/-- A round that brings nothing, before the others. -/
theorem TriggerRun.idle {rounds : Nat} {o : List Observation}
    {outcome : Option (Except ExperimentFault (Option Ipv4))} (h : TriggerRun rounds o outcome) :
    TriggerRun (rounds + 1) (.flag false :: .received .nothing :: o) outcome := by
  cases h with
  | unfinished => exact .unfinished
  | @stopped n left => exact .stopped (n := n + 1) (Nat.succ_lt_succ left)
  | @datagram n _ left => exact .datagram (n := n + 1) (Nat.succ_lt_succ left)
  | @failed n left => exact .failed (n := n + 1) (Nat.succ_lt_succ left)

namespace Surroundings

variable {σ : Type}

/-- A relation between observations and states that every question keeps. -/
structure Tracks (w : Surroundings σ) (P : List Observation → σ → Prop) : Prop where
  now {o : List Observation} {s : σ} : P o s → P (o ++ [.clock (w.now s).1]) (w.now s).2
  isStopped {o : List Observation} {s : σ} :
    P o s → P (o ++ [.flag (w.isStopped s).1]) (w.isStopped s).2
  poll {o : List Observation} {s : σ} : P o s → P (o ++ [.answer (w.poll s).1]) (w.poll s).2
  receive {o : List Observation} {s : σ} :
    P o s → P (o ++ [.received (w.receive s).1]) (w.receive s).2
  sleep {o : List Observation} {s : σ} (n : Nat) : P o s → P (o ++ [.slept n]) (w.sleep n s)

variable {w : Surroundings σ} {P : List Observation → σ → Prop}

/-- A nap asks for no count, and goes through all of its rounds unless it comes to its end. -/
theorem napUntil_tracks (hw : w.Tracks P) (deadline rounds : Nat) {o : List Observation} {s : σ}
    (h : P o s) :
    ∃ nap, P (o ++ nap) (w.napUntil deadline rounds s).2 ∧ answersOf nap = [] ∧
      ((w.napUntil deadline rounds s).1 = false → NapRounds deadline rounds nap) := by
  induction rounds generalizing o s with
  | zero => exact ⟨[], by rwa [List.append_nil], rfl, fun _ => .nil⟩
  | succ rounds ih =>
    simp only [napUntil]
    have hnow := hw.now h
    split
    · exact ⟨_, hnow, rfl, nofun⟩
    next hearly =>
    have hflag := hw.isStopped hnow
    rw [List.append_assoc] at hflag
    split
    next s' heq =>
      rw [heq] at hflag
      exact ⟨_, hflag, rfl, nofun⟩
    next s' heq =>
      rw [heq] at hflag
      obtain ⟨nap, hnap, hquiet, hrounds⟩ := ih (hw.sleep _ hflag)
      rw [List.append_assoc, List.append_assoc] at hnap
      exact ⟨_, hnap, by simpa using hquiet, fun hended => .cons (Nat.lt_of_not_le hearly) (hrounds hended)⟩

/-- A nap with any number of rounds. -/
def napWithin (w : Surroundings σ) (d : Span) (rounds : Nat) (s : σ) : Bool × σ :=
  match w.now s with
  | (time, s) => w.napUntil (time + d.nanos) rounds s

/-- What a nap observes if it is broken off after so many rounds. -/
def NapBrokenOff (d : Span) (rounds : Nat) (o : List Observation) : Prop :=
  ∃ start rest, o = .clock start :: rest ∧ NapRounds (start + d.nanos) rounds rest

theorem napWithin_tracks (hw : w.Tracks P) (d : Span) (rounds : Nat) {o : List Observation} {s : σ}
    (h : P o s) :
    ∃ nap, P (o ++ nap) (w.napWithin d rounds s).2 ∧ answersOf nap = [] ∧
      ((w.napWithin d rounds s).1 = false → NapBrokenOff d rounds nap) := by
  obtain ⟨nap, hnap, hquiet, hrounds⟩ := napUntil_tracks hw ((w.now s).1 + d.nanos) rounds (hw.now h)
  rw [List.append_assoc] at hnap
  exact ⟨_, hnap, by simpa using hquiet, fun hended => ⟨_, nap, rfl, hrounds hended⟩⟩

/-- If the time is up, then there is a timeout and the clock is late. Otherwise it is early, if there is
a timeout. -/
theorem isTimeUp_tracks (hw : w.Tracks P) (start : Nat) (timeout : Option Span)
    {o : List Observation} {s : σ} (h : P o s) :
    ∃ reading, P (o ++ reading) (w.isTimeUp start timeout s).2 ∧ answersOf reading = [] ∧
      ((w.isTimeUp start timeout s).1 = true →
        ∃ limit time, timeout = some limit ∧ limit.nanos ≤ time - start ∧ reading = [.clock time]) ∧
      ((w.isTimeUp start timeout s).1 = false → ∀ limit, timeout = some limit →
        ∃ time, reading = [.clock time] ∧ time - start < limit.nanos) := by
  cases timeout with
  | none => exact ⟨[], by rwa [List.append_nil], rfl, nofun, fun _ _ h => nomatch h⟩
  | some limit =>
    refine ⟨_, hw.now h, rfl, fun hup => ⟨limit, _, rfl, of_decide_eq_true hup, rfl⟩, ?_⟩
    rintro hearly _ ⟨⟩
    exact ⟨_, rfl, Nat.lt_of_not_le (of_decide_eq_false hearly)⟩

/-- The order in which a wait for the intents asks its questions. Without an outcome it has polled in all
of its rounds, or a pause was broken off. -/
theorem awaitFrom_run (hw : w.Tracks P) {pause : σ → Bool × σ} {brokenOff : List Observation → Prop}
    (hpause : ∀ {o s}, P o s → ∃ nap, P (o ++ nap) (pause s).2 ∧ answersOf nap = [] ∧
      ((pause s).1 = false → brokenOff nap))
    (expected : Nat) (timeout : Option Span) (start rounds : Nat) {o : List Observation}
    {last : Option Nat} {s : σ} (h : P o s) :
    ∃ o', P (o ++ o') (w.awaitFrom pause expected timeout start rounds last s).2 ∧
      WaitRun expected timeout start last o'
        (w.awaitFrom pause expected timeout start rounds last s).1 ∧
      ((w.awaitFrom pause expected timeout start rounds last s).1 = none →
        (answersOf o').length = rounds ∨ ∃ nap, nap <:+: o' ∧ brokenOff nap) := by
  induction rounds generalizing o last s with
  | zero => exact ⟨[], by rwa [List.append_nil], .unfinished, fun _ => .inl rfl⟩
  | succ rounds ih =>
    simp only [awaitFrom]
    have hflag := hw.isStopped h
    split
    next s₁ heq =>
      rw [heq] at hflag
      exact ⟨_, hflag, .cancelled, nofun⟩
    next s₁ heq =>
    rw [heq] at hflag
    have hpoll := hw.poll hflag
    rw [List.append_assoc] at hpoll
    split
    next count hcount =>
      obtain ⟨hc, henough⟩ := Option.filter_eq_some_iff.1 hcount
      rw [hc] at hpoll
      exact ⟨_, hpoll, .reached (of_decide_eq_true henough), nofun⟩
    next hcount =>
    have hshort := isShort_iff_filter.2 hcount
    obtain ⟨reading, htime, hreading, hup, hearly⟩ := isTimeUp_tracks hw start timeout hpoll
    rw [List.append_assoc] at htime
    split
    next s₃ heq₃ =>
      rw [heq₃] at htime
      obtain ⟨limit, time, hlimited, hlate, rfl⟩ := hup (by rw [heq₃])
      exact ⟨_, htime, .timedOut hshort hlimited hlate, nofun⟩
    next s₃ heq₃ =>
    rw [heq₃] at htime
    obtain ⟨nap, hnap, hquiet, hbroken⟩ := hpause htime
    have hpauseQuiet : answersOf (reading ++ nap) = [] := by simp [hreading, hquiet]
    have hpauseEarly : ∀ limit, timeout = some limit →
        ∃ time rest, reading ++ nap = .clock time :: rest ∧ time - start < limit.nanos := by
      intro limit hlimited
      obtain ⟨time, rfl, hlt⟩ := hearly (by rw [heq₃]) limit hlimited
      exact ⟨time, nap, rfl, hlt⟩
    split
    next s₄ heq₄ =>
      rw [heq₄] at hnap
      obtain ⟨o', ho', hrun, hend⟩ := ih hnap
      refine ⟨_, by simpa using ho', .again hshort hpauseQuiet hpauseEarly hrun, fun hnone => ?_⟩
      rcases hend hnone with hlength | ⟨nap', hpart, hnap'⟩
      · left
        simp [hreading, hquiet, hlength]
      · refine .inr ⟨nap', hpart.trans (List.IsSuffix.isInfix ?_), hnap'⟩
        exact List.suffix_append (.flag false :: .answer (w.poll s₁).1 :: (reading ++ nap)) o'
    next s₄ heq₄ =>
      rw [heq₄] at hnap hbroken
      refine ⟨_, by simpa using hnap, .again hshort hpauseQuiet hpauseEarly .unfinished, fun _ => .inr ?_⟩
      exact ⟨nap, ⟨.flag false :: .answer (w.poll s₁).1 :: reading, [], by simp⟩, hbroken rfl⟩

/-- A wait for the intents in which a nap may consist of any number of sleeps. -/
def awaitWithin (w : Surroundings σ) (expected : Nat) (policy : RetryPolicy) (naps rounds : Nat) (s : σ) :
    Option WaitOutcome × σ :=
  match w.now s with
  | (start, s) =>
    w.awaitFrom (w.napWithin policy.interval naps) expected policy.timeout start rounds none s

theorem napUntil_add {deadline rounds : Nat} {s s' : σ} (h : w.napUntil deadline rounds s = (true, s'))
    (more : Nat) : w.napUntil deadline (rounds + more) s = (true, s') := by
  induction rounds generalizing s with
  | zero => cases h
  | succ rounds ih =>
    rw [Nat.add_right_comm]
    simp only [napUntil] at h ⊢
    split at h
    next hlate => rwa [if_pos hlate]
    next hearly =>
    rw [if_neg hearly]
    split at h
    next => exact h
    next => exact ih h

theorem awaitFrom_add {pause pause' : σ → Bool × σ}
    (hpause : ∀ {s s'}, pause s = (true, s') → pause' s = (true, s')) {expected start rounds : Nat}
    {timeout : Option Span} {last : Option Nat} {outcome : WaitOutcome} {s s' : σ}
    (h : w.awaitFrom pause expected timeout start rounds last s = (some outcome, s')) (more : Nat) :
    w.awaitFrom pause' expected timeout start (rounds + more) last s = (some outcome, s') := by
  induction rounds generalizing last s with
  | zero => cases h
  | succ rounds ih =>
    rw [Nat.add_right_comm]
    simp only [awaitFrom] at h ⊢
    split at h
    next => exact h
    split at h
    next => exact h
    split at h
    next => exact h
    split at h
    next hnap =>
      rw [hpause hnap]
      exact ih h
    next => cases h

/-- More sleeps and more rounds do not change how a wait ends. -/
theorem awaitWithin_add {expected naps rounds : Nat} {policy : RetryPolicy} {outcome : WaitOutcome}
    {s s' : σ} (h : w.awaitWithin expected policy naps rounds s = (some outcome, s'))
    (moreNaps moreRounds : Nat) :
    w.awaitWithin expected policy (naps + moreNaps) (rounds + moreRounds) s = (some outcome, s') :=
  awaitFrom_add (fun hnap => napUntil_add hnap moreNaps) h moreRounds

/-- A wait expects that no sleep is shorter than it should be. -/
theorem awaitIntents_eq_awaitWithin (w : Surroundings σ) (expected : Nat) (policy : RetryPolicy) :
    w.awaitIntents expected policy = w.awaitWithin expected policy (napSleeps policy.interval + 1) := rfl

theorem awaitWithin_run (hw : w.Tracks P) (expected : Nat) (policy : RetryPolicy) (naps rounds : Nat)
    {s : σ} (h : P [] s) :
    ∃ o, P (.clock (w.now s).1 :: o) (w.awaitWithin expected policy naps rounds s).2 ∧
      WaitRun expected policy.timeout (w.now s).1 none o
        (w.awaitWithin expected policy naps rounds s).1 ∧
      ((w.awaitWithin expected policy naps rounds s).1 = none →
        (answersOf o).length = rounds ∨ ∃ nap, nap <:+: o ∧ NapBrokenOff policy.interval naps nap) :=
  awaitFrom_run hw (napWithin_tracks hw policy.interval naps) expected policy.timeout _ rounds (hw.now h)

/-- The wait for the expected number of intents. Its naps have enough rounds for a clock that keeps up with
the sleeps. -/
theorem awaitIntents_run (hw : w.Tracks P) (expected : Nat) (policy : RetryPolicy) (rounds : Nat)
    {s : σ} (h : P [] s) :
    ∃ o, P o (w.awaitIntents expected policy rounds s).2 ∧
      IntentWait expected policy rounds o (w.awaitIntents expected policy rounds s).1 := by
  rw [awaitIntents_eq_awaitWithin]
  obtain ⟨o, ho, hrun, hnone⟩ :=
    awaitWithin_run hw expected policy (napSleeps policy.interval + 1) rounds h
  refine ⟨_, ho, ⟨_, o, rfl, hrun⟩, fun hunended hkept => ?_⟩
  rcases hnone hunended with hlength | ⟨nap, hpart, start, rest, rfl, hrounds⟩
  · exact hlength
  · exact absurd (hkept.of_cons.of_infix hpart) hrounds.not_keepsTime

/-- The wait for the trigger. -/
theorem awaitTrigger_run (hw : w.Tracks P) (rounds : Nat) {o : List Observation} {s : σ}
    (h : P o s) :
    ∃ o', P (o ++ o') (w.awaitTrigger rounds s).2 ∧ TriggerRun rounds o' (w.awaitTrigger rounds s).1 := by
  induction rounds generalizing o s with
  | zero => exact ⟨[], by rwa [List.append_nil], .unfinished⟩
  | succ rounds ih =>
    simp only [awaitTrigger]
    have hflag := hw.isStopped h
    split
    next s₁ heq =>
      rw [heq] at hflag
      exact ⟨_, hflag, .stopped (Nat.succ_pos rounds)⟩
    next s₁ heq =>
    rw [heq] at hflag
    have hreceive := hw.receive hflag
    rw [List.append_assoc] at hreceive
    split
    next sender s₂ heq₂ =>
      rw [heq₂] at hreceive
      exact ⟨_, hreceive, .datagram (Nat.succ_pos rounds)⟩
    next s₂ heq₂ =>
      rw [heq₂] at hreceive
      exact ⟨_, hreceive, .failed (Nat.succ_pos rounds)⟩
    next s₂ heq₂ =>
      rw [heq₂] at hreceive
      obtain ⟨o', ho', hrun⟩ := ih hreceive
      exact ⟨_, by simpa using ho', hrun.idle⟩

/-- More rounds do not change how a wait for the trigger ends. -/
theorem awaitTrigger_add {rounds : Nat} {outcome : Except ExperimentFault (Option Ipv4)} {s s' : σ}
    (h : w.awaitTrigger rounds s = (some outcome, s')) (more : Nat) :
    w.awaitTrigger (rounds + more) s = (some outcome, s') := by
  induction rounds generalizing s with
  | zero => cases h
  | succ rounds ih =>
    rw [Nat.add_right_comm]
    simp only [awaitTrigger] at h ⊢
    split at h
    next => exact h
    split at h
    next => exact h
    next => exact h
    next => exact ih h

end Surroundings

end BackboneLab
