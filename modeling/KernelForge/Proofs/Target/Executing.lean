import KernelForge.Proofs.Tool.Ledger
import KernelForge.Target.Adapter

/-!
# Executing for a target

An execution makes a native call or simulates, and tells events besides. So what neither of these
changes in a host, an execution does not change. Main statements: `execute_keeps` and, for the
ledger, `execute_ledger`. For the vector extension an execution never fails: it is completed if the
simulator reports success, and degraded else (`execute_rvv`).
-/

namespace KernelForge.Adapter

variable {a : Adapter} {t : Toolchain} {β : Type}

/-- A native call leaves the ledger alone. -/
def KeepsLedger : Adapter → Prop
  | tpu _ native => ∀ call (w : World),
      ((native.execute call).runFrom w).2.host.ledger = w.host.ledger
  | rvv _ => True

private theorem simulate_keeps (view : Host → β)
    (htell : ∀ (h : Host) events, view { h with events } = view h)
    (hsimulate : ∀ r h, view ((t.simulate r).runFrom h).2 = view h) (executable : Path) (h : Host) :
    view ((simulate t executable).runFrom h).2 = view h := by
  have hview := hsimulate ⟨executable, []⟩ h
  rw [simulate, Act.runFrom_bind, Act.runFrom_attempt]
  rcases hr : (t.simulate ⟨executable, []⟩).runFrom h with ⟨error | run, h'⟩
  · rw [hr] at hview
    exact (htell h' _).trans hview
  · rw [hr] at hview
    simp only
    split
    · exact (htell h' _).trans hview
    · exact (htell h' _).trans hview

/-- What neither native calls nor simulations nor events change, an execution leaves alone. -/
theorem execute_keeps (view : Host → β)
    (htell : ∀ (h : Host) events, view { h with events } = view h)
    (hnative : ∀ config native, a = .tpu config native → ∀ call (w : World),
      view ((native.execute call).runFrom w).2.host = view w.host)
    (hsimulate : ∀ r h, view ((t.simulate r).runFrom h).2 = view h) (record : ArtifactRecord)
    (groups : ArgumentGroups) (w : World) :
    view ((a.execute t record groups).runFrom w).2.host = view w.host := by
  cases a with
  | tpu config native =>
    have hview := hnative config native rfl (groups.call record.path record.symbol) w
    rw [execute, Act.runFrom_bind, Act.runFrom_mapError]
    rcases hr : (native.execute (groups.call record.path record.symbol)).runFrom w with
      ⟨error | _, w'⟩
    · rw [hr] at hview
      exact hview
    · rw [hr] at hview
      exact hview
  | rvv config =>
    rw [execute, World.onHost, Act.run_within]
    exact (simulate_keeps view htell hsimulate record.path _).trans (htell w.host _)

/-- Executing an artifact leaves the ledger alone if native calls do. -/
theorem execute_ledger (ha : a.KeepsLedger) (t : Toolchain) (record : ArtifactRecord)
    (groups : ArgumentGroups) (w : World) :
    ((a.execute t.booked record groups).runFrom w).2.host.ledger = w.host.ledger :=
  execute_keeps Host.ledger (fun _ _ ↦ rfl) (fun _ _ he ↦ by subst he; exact ha)
    (fun r h ↦ t.ledger_simulate h r) record groups w

private theorem simulate_run (t : Toolchain) (executable : Path) (h : Host) :
    ∃ outcome events, (simulate t executable).runFrom h =
        (.ok outcome, { ((t.simulate ⟨executable, []⟩).runFrom h).2 with events }) ∧
      (outcome.isCompleted ↔
        ∃ run, ((t.simulate ⟨executable, []⟩).runFrom h).1 = .ok run ∧ run.success) := by
  rw [simulate, Act.runFrom_bind, Act.runFrom_attempt]
  rcases (t.simulate ⟨executable, []⟩).runFrom h with ⟨error | run, h'⟩
  · exact ⟨.degraded error.message, _, rfl, by simp [Outcome.isCompleted]⟩
  · by_cases hsuccess : run.success
    · simp only [if_pos hsuccess]
      exact ⟨.completed, _, rfl, by simp [Outcome.isCompleted, hsuccess]⟩
    · simp only [if_neg hsuccess]
      exact ⟨.degraded _, _, rfl, by simp [Outcome.isCompleted, hsuccess]⟩

/-- An execution for the vector extension simulates once and does not fail. It is completed exactly
if the simulation ran and reported success. -/
theorem execute_rvv (config : ToolConfig) (t : Toolchain) (record : ArtifactRecord)
    (groups : ArgumentGroups) (w : World) :
    ∃ outcome events events', ((rvv config).execute t record groups).runFrom w = (.ok outcome,
        { w with host := { ((t.simulate ⟨record.path, []⟩).runFrom { w.host with events }).2 with
          events := events' } }) ∧
      (outcome.isCompleted ↔ ∃ run,
        ((t.simulate ⟨record.path, []⟩).runFrom { w.host with events }).1 = .ok run ∧
          run.success) := by
  obtain ⟨outcome, events, hrun, houtcome⟩ := simulate_run t record.path { w.host with
    events := ⟨.debug, "arguments are not forwarded to the simulator",
      [("kernel.symbol", record.symbol), ("kernel.num_args", toString groups.size)]⟩ ::
        w.host.events }
  refine ⟨outcome, _, events, ?_, houtcome⟩
  rw [execute, World.onHost, Act.run_within, Act.runFrom_bind, Host.tell, Act.runFrom_changes]
  simp only [hrun]

end KernelForge.Adapter
