import BackboneLab.Proofs.Experiment.Patience
import BackboneLab.Proofs.Experiment.Playback
import BackboneLab.Rehearsal.Script

/-!
# The end of rehearsals

A rehearsed playback takes at most so many actions as its limit says. Each of them brings it nearer to its
end or sets the flag, so what is left to do never exceeds the limit, and the playback is over when no action
follows (`RunRule.isOver_playback`). With it a rehearsal is a testbed on which runs end
(`Script.rehearsal_ends`).
-/

namespace BackboneLab

/-! ## Rehearsed playbacks -/

/-- What a rehearsed playback has left to do: the work of its jobs, and setting the flag. -/
def Playback.left (p : Playback) : Nat := p.work + if p.stopped then 0 else 1

namespace RunRule

variable {s : Schedule} {g : Generator} {hosts : OrderedMap Ipv4 String} {p : Playback}

/-- An action that is work of the jobs leaves less to do. -/
theorem left_lt_of_work_lt {a : PlaybackAction} (ha : a ≠ .stops) (h : (p.perform a).work < p.work) :
    (p.perform a).left < p.left := by
  rw [Playback.left, Playback.left, Playback.stopped_perform ha]
  exact Nat.add_lt_add_right h _

/-- Setting the flag leaves less to do. -/
theorem left_stop_lt (hunset : p.stopped = false) : (p.perform .stops).left < p.left := by
  have hstop : p.perform .stops = { p with stopped := true, history := p.history ++ [.stopped] } := by
    simp [Playback.perform, Playback.stop, hunset]
  rw [hstop, Playback.left, Playback.left, hunset]
  exact Nat.lt_succ_self p.work

/-- What a job does in a rehearsal leaves less to do. -/
theorem left_actionOf_lt (r : RunRule) (h : p.Follows s g hosts) {k : Nat} {j : Job}
    (hj : p.jobs[k]? = some j) (hactive : j.phase ≠ .over) :
    (p.perform (r.actionOf p k j)).left < p.left := by
  match hphase : j.phase with
  | .ready =>
    rw [actionOf, hphase]
    exact left_lt_of_work_lt nofun (h.work_looks_lt hj hphase)
  | .cleared =>
    rw [actionOf, hphase]
    exact left_lt_of_work_lt nofun (h.work_begins_lt hj hphase)
  | .running =>
    simp only [actionOf, hphase]
    split
    next hstops =>
      exact left_stop_lt (by simpa using hstops.2)
    next =>
      split <;> exact left_lt_of_work_lt nofun (h.work_ends_lt hj hphase _)
  | .over => exact absurd hphase hactive

/-- As long as a playback is not over, a job that is not over does something next. -/
theorem next?_of_active (r : RunRule) (hover : p.isOver = false) :
    ∃ k j, p.jobs[k]? = some j ∧ j.phase ≠ .over ∧ r.next? p = some (r.actionOf p k j) := by
  cases hfirst : p.jobs.findIdx? (·.phase ≠ .over) with
  | none =>
    obtain ⟨k, j, hj, hactive⟩ := Playback.exists_active hover
    have hdone := List.findIdx?_eq_none_iff.1 hfirst j (List.mem_of_getElem? hj)
    exact absurd (by simpa using hdone) hactive
  | some k =>
    obtain ⟨hlt, hactive, -⟩ := List.findIdx?_eq_some_iff_getElem.1 hfirst
    have hj : p.jobs[k]? = some p.jobs[k] := List.getElem?_eq_getElem hlt
    refine ⟨k, p.jobs[k], hj, by simpa using hactive, ?_⟩
    simp only [next?, hfirst, hj, bind, pure, Option.bind_some]

/-- When a playback is over, nothing happens next. -/
theorem next?_of_isOver (r : RunRule) (hover : p.isOver = true) : r.next? p = none := by
  have hdone : p.jobs.findIdx? (·.phase ≠ .over) = none :=
    List.findIdx?_eq_none_iff.2 fun j hj => by simpa using List.all_eq_true.1 hover j hj
  simp only [next?, hdone, bind, Option.bind_none]

/-- A playback is over after as many actions as it has left to do. -/
theorem isOver_take (r : RunRule) (n : Nat) (h : p.Follows s g hosts) (hleft : p.left ≤ n) :
    (p.performAll (r.take n p)).isOver = true := by
  induction n generalizing p with
  | zero =>
    cases hover : p.isOver with
    | true => exact hover
    | false =>
      obtain ⟨k, j, hj, hactive, -⟩ := r.next?_of_active hover
      have hless := r.left_actionOf_lt h hj hactive
      omega
  | succ n ih =>
    cases hover : p.isOver with
    | true =>
      rw [take, r.next?_of_isOver hover]
      exact hover
    | false =>
      obtain ⟨k, j, hj, hactive, hnext⟩ := r.next?_of_active hover
      have hless := r.left_actionOf_lt h hj hactive
      rw [take, hnext]
      exact ih (h.perform _) (by omega)

/-- What is left to do is no more than the limit. -/
theorem left_le_actionLimit (p : Playback) : p.left ≤ actionLimit p := by
  have hjob (j : Job) : j.work ≤ 3 * j.remaining.length := by
    rw [Job.work]
    split <;> omega
  have hjobs (js : List Job) : (js.map Job.work).sum ≤ 3 * (js.flatMap (·.remaining)).length := by
    induction js with
    | nil => exact Nat.le_refl 0
    | cons j js ih =>
      have := hjob j
      rw [List.map_cons, List.sum_cons, List.flatMap_cons, List.length_append]
      omega
  have hwork : p.work ≤ 3 * (p.jobs.flatMap (·.remaining)).length := hjobs p.jobs
  rw [Playback.left, actionLimit]
  split <;> omega

/-- A rehearsed playback comes to its end. -/
theorem isOver_playback (r : RunRule) (h : p.Follows s g hosts) :
    (p.performAll (r.playback p)).isOver = true :=
  isOver_take r _ h (left_le_actionLimit p)

end RunRule

/-! ## Rehearsed runs -/

namespace Script

/-- In a rehearsal time passes only in sleeps, and a flag that is set remains set. -/
theorem of_answers {script : Script} {c : Call} {x y : Scene ScriptState}
    (h : script.testbed.Answers c x y) :
    y.systems.clock = x.systems.clock + c.slept ∧
      (x.systems.stopped = true → y.systems.stopped = true) := by
  cases c with
  | exchange request response =>
    cases hmethod : request.method with
    | get =>
      simp only [Testbed.Answers, testbed, hmethod] at h
      cases h
      exact ⟨rfl, fun hset => by simp [hset]⟩
    | post body =>
      simp only [Testbed.Answers, testbed, hmethod] at h
      cases h
      exact ⟨rfl, id⟩
  | startEmulator | stopEmulator | startDaemon | stopDaemon | spawn | stopSpawned | now | sleep | isStopped
  | listen | receive | play =>
    cases h
    exact ⟨rfl, id⟩

theorem hasClock (script : Script) : script.testbed.HasClock :=
  ⟨fun x => x.systems.clock, fun _ => rfl, fun _ _ _ h => Nat.le_of_eq (of_answers h).1.symm⟩

/-- Once the flag is set, it is never seen unset. -/
theorem stopsWithin (script : Script) (e : Endpoint) {x : Scene ScriptState}
    (hset : x.systems.stopped = true) : script.testbed.StopsWithin e 0 x := by
  intro cs y h
  induction h with
  | nil => exact Nat.le_refl 0
  | @cons c cs x y z answers _ ih =>
    have hrest := ih ((of_answers answers).2 hset)
    have hone : (observationsIn e [c]).count (.flag false) = 0 := by
      cases c with
      | isStopped stopped =>
        obtain rfl : x.systems.stopped = stopped := congrArg Prod.fst answers
        rw [hset]
        rfl
      | exchange request response =>
        by_cases hpoll : request = e.intentCount.request <;>
          simp [observationsIn, Call.observed, hpoll]
      | startEmulator | stopEmulator | startDaemon | stopDaemon | spawn | stopSpawned | now | sleep
      | listen | receive | play => rfl
    rw [← List.singleton_append, observationsIn_append, List.count_append]
    omega

/-- Whether the flag is set before or not, what a script lets happen brings a playback to its end. -/
theorem isOver_play (script : Script) {s : Schedule} {g : Generator} {hosts : OrderedMap Ipv4 String}
    {p : Playback} (h : p.Follows s g hosts) (x : Scene ScriptState) :
    (p.performAll (script.testbed.play p x).1).isOver = true := by
  have hplay : (script.testbed.play p x).1 = if x.systems.stopped
      then .stops :: script.runs.playback (p.perform .stops) else script.runs.playback p := rfl
  rw [hplay]
  split
  · exact script.runs.isOver_playback (h.perform .stops)
  · exact script.runs.isOver_playback h

/-- A rehearsal in which the flag is set from the beginning ends, whatever else its script says. -/
theorem rehearsal_ends (script : Script) (hset : script.stoppedBefore = true) (b : Bundle) (s : Settings)
    (confDir : Path) (files : Store) :
    ∃ r q, r ≠ .error .unfinished ∧ ∀ patience, 0 < patience →
      (script.testbed.experiment b s confDir patience).run (.ofScene ⟨files, script.initial⟩) = (r, q) :=
  experiment_ends script.hasClock (script.stopsWithin _ hset) fun _ _ x =>
    script.isOver_play (Playback.follows_ofSchedule ..) x

end Script

end BackboneLab
