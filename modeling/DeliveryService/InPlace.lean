import Mathlib.Control.Basic

/-- Programs that change a state in place and may raise: a state written before an exception
stays written. -/
abbrev InPlace (ε σ : Type) := ExceptT ε (StateM σ)

namespace InPlace

variable {ε σ α β : Type}

def exec (x : InPlace ε σ α) (s : σ) : Except ε α × σ := x.run.run s

@[simp]
theorem exec_pure (a : α) (s : σ) : exec (pure a : InPlace ε σ α) s = (.ok a, s) := rfl

@[simp]
theorem exec_throw (e : ε) (s : σ) : exec (throw e : InPlace ε σ α) s = (.error e, s) := rfl

@[simp]
theorem exec_get (s : σ) : exec (getThe σ : InPlace ε σ σ) s = (.ok s, s) := rfl

@[simp]
theorem exec_set (s s' : σ) : exec (set s' : InPlace ε σ PUnit) s = (.ok ⟨⟩, s') := rfl

@[simp]
theorem exec_modify (f : σ → σ) (s : σ) : exec (modify f : InPlace ε σ PUnit) s = (.ok ⟨⟩, f s) := rfl

@[simp]
theorem exec_ofExcept (r : Except ε α) (s : σ) :
    exec (MonadExcept.ofExcept r : InPlace ε σ α) s = (r, s) := by
  cases r <;> rfl

theorem exec_bind (x : InPlace ε σ α) (f : α → InPlace ε σ β) (s : σ) :
    exec (x >>= f) s = match exec x s with
      | (.ok a, s') => exec (f a) s'
      | (.error e, s') => (.error e, s') := by
  change StateT.run (ExceptT.run x >>= ExceptT.bindCont f) s = _
  rw [StateT.run_bind]
  change (ExceptT.bindCont f (exec x s).1).run (exec x s).2 = _
  rcases exec x s with ⟨_ | _, _⟩ <;> rfl

@[simp]
theorem exec_map (f : α → β) (x : InPlace ε σ α) (s : σ) :
    exec (f <$> x) s = ((exec x s).1.map f, (exec x s).2) := by
  rw [← bind_pure_comp, exec_bind]
  rcases exec x s with ⟨_ | _, _⟩ <;> rfl

end InPlace
