import Mathlib.Logic.Basic

/-! Fallible methods on a mutable receiver, as `fn f(&mut self) -> Result<T, E>`
is written: the method returns a value or an error, and leaves the receiver as
it has changed it, changes made before an error included. Such a method is a
computation in `ExceptT ε (StateM σ)`; `exec` runs it on a receiver. The
lemmas run the monad's operations one at a time, so that a method is executed
symbolically by rewriting, and take apart a method that succeeded. -/

namespace Oak.Lib

variable {σ ε α β : Type}

/-- anyhow's `context` on an `Option`: the value, or an error with the message. -/
def context (o : Option α) (msg : ε) : Except ε α :=
  match o with
  | some a => .ok a
  | none => .error msg

@[simp] theorem context_some (a : α) (msg : ε) : context (some a) msg = .ok a := rfl

@[simp] theorem context_none (msg : ε) : context (none : Option α) msg = .error msg := rfl

@[simp] theorem Except.ok_bind (a : α) (f : α → Except ε β) : (Except.ok a >>= f) = f a := rfl

@[simp] theorem Except.error_bind (e : ε) (f : α → Except ε β) : (Except.error e >>= f) = .error e := rfl

theorem Except.bind_eq_ok {x : Except ε α} {f : α → Except ε β} {b : β} (h : x.bind f = .ok b) :
    ∃ a, x = .ok a ∧ f a = .ok b := by
  cases x with
  | error e => cases h
  | ok a => exact ⟨a, rfl, h⟩

theorem Except.forM_eq_ok {xs : List α} {g : α → Except ε Unit} :
    forM xs g = .ok () ↔ ∀ x ∈ xs, g x = .ok () := by
  induction xs with
  | nil => simp [pure, Except.pure]
  | cons x xs ih =>
    rw [List.forM_cons, List.forall_mem_cons, ← ih]
    cases g x <;> simp

/-- The result of a method run on the receiver `s`, and the receiver after it. -/
def exec (x : ExceptT ε (StateM σ) α) (s : σ) : Except ε α × σ := x.run.run s

@[simp] theorem exec_pure (a : α) (s : σ) : exec (pure a : ExceptT ε (StateM σ) α) s = (.ok a, s) :=
  rfl

@[simp] theorem exec_throw (e : ε) (s : σ) : exec (throw e : ExceptT ε (StateM σ) α) s = (.error e, s) :=
  rfl

@[simp] theorem exec_get (s : σ) : exec (get : ExceptT ε (StateM σ) σ) s = (.ok s, s) := rfl

@[simp] theorem exec_set (s' s : σ) : exec (set s' : ExceptT ε (StateM σ) PUnit) s = (.ok ⟨⟩, s') :=
  rfl

@[simp] theorem exec_modify (f : σ → σ) (s : σ) :
    exec (modify f : ExceptT ε (StateM σ) PUnit) s = (.ok ⟨⟩, f s) := rfl

@[simp] theorem exec_liftM (e : Except ε α) (s : σ) :
    exec (liftM e : ExceptT ε (StateM σ) α) s = (e, s) := by
  cases e <;> rfl

theorem exec_liftM_eq_ok {e : Except ε α} {s s' : σ} {a : α}
    (h : exec (liftM e : ExceptT ε (StateM σ) α) s = (.ok a, s')) : e = .ok a ∧ s' = s := by
  rw [exec_liftM] at h
  cases h
  exact ⟨rfl, rfl⟩

theorem exec_bind (x : ExceptT ε (StateM σ) α) (f : α → ExceptT ε (StateM σ) β) (s : σ) :
    exec (x >>= f) s =
      match exec x s with
      | (.ok a, s') => exec (f a) s'
      | (.error e, s') => (.error e, s') := by
  simp only [exec, ExceptT.run_bind, StateT.run_bind]
  change (x.run.run s >>= _) = _
  rcases x.run.run s with ⟨_ | _, s'⟩ <;> rfl

theorem exec_bind_ok {x : ExceptT ε (StateM σ) α} {s s' : σ} {a : α} (h : exec x s = (.ok a, s'))
    (f : α → ExceptT ε (StateM σ) β) : exec (x >>= f) s = exec (f a) s' := by
  rw [exec_bind, h]

theorem exec_bind_error {x : ExceptT ε (StateM σ) α} {s s' : σ} {e : ε} (h : exec x s = (.error e, s'))
    (f : α → ExceptT ε (StateM σ) β) : exec (x >>= f) s = (.error e, s') := by
  rw [exec_bind, h]

theorem exec_map (f : α → β) (x : ExceptT ε (StateM σ) α) (s : σ) :
    exec (f <$> x) s =
      match exec x s with
      | (.ok a, s') => (.ok (f a), s')
      | (.error e, s') => (.error e, s') := by
  rw [← bind_pure_comp, exec_bind]
  rcases exec x s with ⟨_ | _, s'⟩ <;> rfl

theorem exec_bind_eq_ok {x : ExceptT ε (StateM σ) α} {f : α → ExceptT ε (StateM σ) β} {s s'' : σ}
    {b : β} (h : exec (x >>= f) s = (.ok b, s'')) :
    ∃ a s', exec x s = (.ok a, s') ∧ exec (f a) s' = (.ok b, s'') := by
  rw [exec_bind] at h
  rcases hx : exec x s with ⟨_ | a, s'⟩
  · rw [hx] at h
    cases h
  · rw [hx] at h
    exact ⟨a, s', rfl, h⟩

theorem exec_tryCatch (x : ExceptT ε (StateM σ) α) (handler : ε → ExceptT ε (StateM σ) α) (s : σ) :
    exec (tryCatch x handler) s =
      match exec x s with
      | (.ok a, s') => (.ok a, s')
      | (.error e, s') => exec (handler e) s' := by
  change (ExceptT.tryCatch x handler).run.run s = _
  simp only [ExceptT.tryCatch, ExceptT.run_mk, StateT.run_bind]
  change (x.run.run s >>= _) = _
  unfold exec
  rcases x.run.run s with ⟨_ | _, s'⟩ <;> rfl

theorem exec_tryCatch_modify (x : ExceptT ε (StateM σ) α) (f : σ → σ) (s : σ) :
    exec (tryCatch x fun e => do modify f; throw e) s =
      match exec x s with
      | (.ok a, s') => (.ok a, s')
      | (.error e, s') => (.error e, f s') := by
  rw [exec_tryCatch]
  rcases exec x s with ⟨_ | _, s'⟩
  · exact (exec_bind_ok (exec_modify f s') _).trans (exec_throw _ _)
  · rfl

end Oak.Lib
