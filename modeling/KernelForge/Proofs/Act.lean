import KernelForge.Act

/-!
# Runs of composite actions

What an action made of others does from a state, said by what its parts do. Every action of the
library is put together from the ones below, so that its run is found by these equations alone.
-/

namespace KernelForge.Act

variable {σ τ ε ζ α β : Type}

theorem exists_ok_of_isOk {r : Except ε α} (h : r.isOk) : ∃ a, r = .ok a := by
  cases r with
  | ok a => exact ⟨a, rfl⟩
  | error e => cases h

theorem exists_error_of_isOk_eq_false {r : Except ε α} (h : r.isOk = false) :
    ∃ e, r = .error e := by
  cases r with
  | ok a => cases h
  | error e => exact ⟨e, rfl⟩

@[simp] theorem runFrom_pure (a : α) (s : σ) : (pure a : Act σ ε α).runFrom s = (.ok a, s) := rfl

@[simp] theorem runFrom_throw (e : ε) (s : σ) :
    (throw e : Act σ ε α).runFrom s = (.error e, s) := rfl

/-- A sequence goes on from the state its first action leaves, if that one gives an answer. -/
theorem runFrom_bind (act : Act σ ε α) (next : α → Act σ ε β) (s : σ) :
    (act >>= next).runFrom s =
      match act.runFrom s with
      | (.ok a, s') => (next a).runFrom s'
      | (.error e, s') => (.error e, s') := by
  show StateT.run (ExceptT.run (ExceptT.bind act next)) s = _
  simp only [ExceptT.bind, ExceptT.run, ExceptT.mk, StateT.run, runFrom, bind, StateT.bind]
  rcases act s with ⟨_ | _, s'⟩ <;> rfl

/-- A sequence whose first action answers. -/
theorem runFrom_bind_ok {act : Act σ ε α} {s s' : σ} {a : α} (h : act.runFrom s = (.ok a, s'))
    (next : α → Act σ ε β) : (act >>= next).runFrom s = (next a).runFrom s' := by
  rw [runFrom_bind, h]

/-- A sequence whose first action fails. -/
theorem runFrom_bind_error {act : Act σ ε α} {s s' : σ} {e : ε}
    (h : act.runFrom s = (.error e, s')) (next : α → Act σ ε β) :
    (act >>= next).runFrom s = (.error e, s') := by
  rw [runFrom_bind, h]

@[simp] theorem runFrom_reads (f : σ → α) (s : σ) :
    (reads f : Act σ ε α).runFrom s = (.ok (f s), s) := rfl

@[simp] theorem runFrom_changes (f : σ → σ) (s : σ) :
    (changes f : Act σ ε Unit).runFrom s = (.ok (), f s) := rfl

@[simp] theorem runFrom_ofExcept (r : Except ε α) (s : σ) :
    (ofExcept r : Act σ ε α).runFrom s = (r, s) := rfl

@[simp] theorem runFrom_attempt (act : Act σ ε α) (s : σ) :
    (attempt act : Act σ ζ (Except ε α)).runFrom s =
      (.ok (act.runFrom s).1, (act.runFrom s).2) := rfl

@[simp] theorem runFrom_mapError (f : ε → ζ) (act : Act σ ε α) (s : σ) :
    (mapError f act).runFrom s = ((act.runFrom s).1.mapError f, (act.runFrom s).2) := rfl

@[simp] theorem runFrom_andFinally (act : Act σ ε α) (last : σ → σ) (s : σ) :
    (andFinally act last).runFrom s = ((act.runFrom s).1, last (act.runFrom s).2) := rfl

end KernelForge.Act
