/-!
# Sequences of actions that may fail

The actions of the lab keep a state, whether they fail or not: the files, or the progress of a run. What
a sequence of two such actions does is said by `run_bind`, and `of_run_bind` takes it apart.
-/

namespace BackboneLab

variable {ε τ α β : Type}

theorem mapError_ok {ε' : Type} (f : ε → ε') (a : α) :
    (Except.ok a : Except ε α).mapError f = .ok a := rfl

/-- What is made of a result has a result only if there was one. -/
theorem ok_of_map {x : Except ε α} {f : α → β} {b : β} (h : x.map f = .ok b) :
    ∃ a, x = .ok a ∧ b = f a := by
  cases x with
  | error e => cases h
  | ok a =>
    cases h
    exact ⟨a, rfl, rfl⟩

theorem run_bind (m : ExceptT ε (StateM τ) α) (f : α → ExceptT ε (StateM τ) β) (q : τ) :
    (m >>= f).run q =
      match m.run q with
      | (.ok a, q) => (f a).run q
      | (.error e, q) => (.error e, q) := by
  change ExceptT.bindCont f (m.run q).1 (m.run q).2 = _
  rcases m.run q with ⟨_ | _, _⟩ <;> rfl

/-- A sequence of two actions goes on where the first one ended. -/
theorem run_bind_ok {m : ExceptT ε (StateM τ) α} {f : α → ExceptT ε (StateM τ) β} {q q' : τ} {a : α}
    (h : m.run q = (.ok a, q')) : (m >>= f).run q = (f a).run q' := by
  rw [run_bind, h]

/-- A sequence of two actions fails as the first one does. -/
theorem run_bind_error {m : ExceptT ε (StateM τ) α} {f : α → ExceptT ε (StateM τ) β} {q q' : τ} {e : ε}
    (h : m.run q = (.error e, q')) : (m >>= f).run q = (.error e, q') := by
  rw [run_bind, h]

/-- A sequence of two actions ends with the first one, or goes on where the first one ended. -/
theorem of_run_bind {m : ExceptT ε (StateM τ) α} {f : α → ExceptT ε (StateM τ) β} {q q' : τ}
    {r : Except ε β} (h : (m >>= f).run q = (r, q')) :
    (∃ e, m.run q = (.error e, q') ∧ r = .error e) ∨
      ∃ a q₁, m.run q = (.ok a, q₁) ∧ (f a).run q₁ = (r, q') := by
  rw [run_bind] at h
  split at h
  next a q₁ hm => exact .inr ⟨a, q₁, hm, h⟩
  next e q₁ hm =>
    cases h
    exact .inl ⟨e, hm, rfl⟩

/-- A sequence of two actions has a result only if both have one. -/
theorem ok_of_run_bind {m : ExceptT ε (StateM τ) α} {f : α → ExceptT ε (StateM τ) β} {q q' : τ} {b : β}
    (h : (m >>= f).run q = (.ok b, q')) :
    ∃ a q₁, m.run q = (.ok a, q₁) ∧ (f a).run q₁ = (.ok b, q') := by
  rcases of_run_bind h with ⟨e, -, he⟩ | hok
  · cases he
  · exact hok

@[simp] theorem run_pure (a : α) (q : τ) : (pure a : ExceptT ε (StateM τ) α).run q = (.ok a, q) := rfl

@[simp] theorem run_get (q : τ) : (get : ExceptT ε (StateM τ) τ).run q = (.ok q, q) := rfl

@[simp] theorem run_throw (e : ε) (q : τ) :
    (throw e : ExceptT ε (StateM τ) α).run q = (.error e, q) := rfl

@[simp] theorem run_modifyGet (f : τ → α × τ) (q : τ) :
    (modifyGet f : ExceptT ε (StateM τ) α).run q = (.ok (f q).1, (f q).2) := rfl

@[simp] theorem run_modify (f : τ → τ) (q : τ) :
    (modify f : ExceptT ε (StateM τ) Unit).run q = (.ok (), f q) := rfl

@[simp] theorem run_ofExcept (x : Except ε α) (q : τ) :
    (MonadExcept.ofExcept x : ExceptT ε (StateM τ) α).run q = (x, q) := by
  cases x <;> rfl

end BackboneLab
