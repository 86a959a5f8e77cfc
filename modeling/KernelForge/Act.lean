/-!
# Actions

An action reads and changes a state and ends with an answer or a failure. What it changed before a
failure stays changed. Main statement: an action on a part of a state leaves the rest alone
(`run_within`).
-/

namespace KernelForge

/-- An action on states of type `σ` that answers an `α` or fails with an `ε`. -/
abbrev Act (σ ε α : Type) : Type := ExceptT ε (StateM σ) α

namespace Act

variable {σ τ ε ζ α β : Type}

/-- Runs `act` from `s`: its answer or failure, and the state it leaves. -/
def runFrom (act : Act σ ε α) (s : σ) : Except ε α × σ := StateT.run (ExceptT.run act) s

/-- The action with the given runs. -/
def ofRun (run : σ → Except ε α × σ) : Act σ ε α := ExceptT.mk (run : StateT σ Id (Except ε α))

@[simp] theorem runFrom_ofRun (run : σ → Except ε α × σ) (s : σ) :
    (ofRun run).runFrom s = run s := rfl

/-- The answer that the state itself gives. -/
def reads (f : σ → α) : Act σ ε α := ofRun fun s ↦ (.ok (f s), s)

/-- Changes the state and cannot fail. -/
def changes (f : σ → σ) : Act σ ε Unit := ofRun fun s ↦ (.ok (), f s)

/-- Fails or answers, and changes nothing. -/
def ofExcept (r : Except ε α) : Act σ ε α := ofRun fun s ↦ (r, s)

/-- Runs `act` and answers how it ended. -/
def attempt (act : Act σ ε α) : Act σ ζ (Except ε α) := ofRun fun s ↦
  let (r, s') := act.runFrom s
  (.ok r, s')

/-- Says in other words why `act` failed. -/
def mapError (f : ε → ζ) (act : Act σ ε α) : Act σ ζ α := ofRun fun s ↦
  let (r, s') := act.runFrom s
  (r.mapError f, s')

/-- Runs `act`, then `last` whether it failed or not. -/
def andFinally (act : Act σ ε α) (last : σ → σ) : Act σ ε α := ofRun fun s ↦
  let (r, s') := act.runFrom s
  (r, last s')

/-- Runs `act` on a part of the state. -/
def within (part : τ → σ) (put : σ → τ → τ) (act : Act σ ε α) : Act τ ε α := ofRun fun t ↦
  let (r, s') := act.runFrom (part t)
  (r, put s' t)

/-- An action on a part changes that part only. -/
theorem run_within (part : τ → σ) (put : σ → τ → τ) (act : Act σ ε α) (t : τ) :
    (within part put act).runFrom t =
      ((act.runFrom (part t)).1, put (act.runFrom (part t)).2 t) := rfl

end Act

end KernelForge
