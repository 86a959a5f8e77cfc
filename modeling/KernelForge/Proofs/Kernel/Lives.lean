import KernelForge.Proofs.Kernel.Operating

/-!
# The life of a kernel

Between two operations a kernel has not been prepared yet, is ready, or has failed, and it keeps a
prepared artifact in the second case alone and a reason in the third alone. One that has failed
refuses every operation, and nothing is done. Main statements: `Operation.after_sound`,
`Operation.of_failed` and `Operation.fails`.
-/

namespace KernelForge

/-- A life as it is between operations. -/
structure Lifecycle.Sound (l : Lifecycle) : Prop where
  /-- No stage of a preparation that is going on. -/
  settled : l.stage = .uninitialized ∨ l.stage = .ready ∨ l.stage = .failed
  /-- A kernel that is ready keeps its artifact in mind. -/
  ready : l.stage = .ready ↔ l.prepared.isSome
  /-- A kernel that has failed keeps the reason in mind. -/
  failed : l.stage = .failed ↔ l.failure.isSome
  /-- Not both. -/
  apart : l.prepared = none ∨ l.failure = none

namespace Lifecycle

theorem sound_fresh : Sound {} where
  settled := Or.inl rfl
  ready := by decide
  failed := by decide
  apart := Or.inl rfl

theorem sound_ready (p : Prepared) : Sound ⟨.ready, some p, none⟩ where
  settled := Or.inr (Or.inl rfl)
  ready := by simp
  failed := by simp
  apart := Or.inr rfl

theorem sound_failed (reason : String) : Sound ⟨.failed, none, some reason⟩ where
  settled := Or.inr (Or.inr rfl)
  ready := by simp
  failed := by simp
  apart := Or.inl rfl

end Lifecycle

namespace Kernel

variable {k : Kernel} {l : Lifecycle} {h : Host}

/-- After a preparation, the life is as between operations. -/
theorem prepare_sound (hl : l.Sound) : (k.prepare.runFrom (l, h)).2.1.Sound := by
  have hpreparing := prepare_preparing k l h
  generalize k.prepare.runFrom (l, h) = result at hpreparing ⊢
  cases hpreparing with
  | refused => exact hl
  | present => exact hl
  | unopened => exact Lifecycle.sound_failed _
  | cached => exact Lifecycle.sound_ready _
  | failed => exact Lifecycle.sound_failed _
  | compiled => exact Lifecycle.sound_ready _

/-- A kernel that has failed is not prepared again. -/
theorem prepare_of_failed {reason : String} (hl : l.failure = some reason) :
    k.prepare.runFrom (l, h) = (.error (.preparationFailed k.entry reason), (l, h)) := by
  rw [prepare, Act.runFrom_bind, Act.runFrom_reads]
  simp only [hl]
  rw [Act.runFrom_throw]

/-- A preparation that fails for the first time keeps the text of what it answers in mind, and
otherwise none is kept. -/
theorem prepare_fails (hl : l.failure = none) :
    match (k.prepare.runFrom (l, h)).1 with
    | .ok _ => (k.prepare.runFrom (l, h)).2.1.failure = none
    | .error error => (k.prepare.runFrom (l, h)).2.1.failure = some error.message := by
  have hpreparing := prepare_preparing k l h
  generalize k.prepare.runFrom (l, h) = result at hpreparing ⊢
  cases hpreparing with
  | refused failure =>
    rw [hl] at failure
    cases failure
  | present => exact hl
  | unopened => rfl
  | cached => rfl
  | failed => rfl
  | compiled => rfl

end Kernel

namespace Operation

variable {k : Kernel} {l : Lifecycle} {w : World}

/-- Whether an operation succeeds, and why not. -/
def answer (k : Kernel) (s : Lifecycle × World) : Operation → Except KernelError Unit
  | prepare => (k.prepareIn.runFrom s).1.map fun _ ↦ ()
  | call args => ((k.call args).runFrom s).1.map fun _ ↦ ()
  | launch grid args => ((k.launch grid args).runFrom s).1.map fun _ ↦ ()
  | invoke args => ((k.invokeIn args).runFrom s).1.map fun _ ↦ ()
  | benchmarkWith args plan clock => ((k.benchmarkWith args plan clock).runFrom s).1.map fun _ ↦ ()
  | benchmark supply draws plan clock =>
    ((k.benchmark supply draws plan clock).runFrom s).1.map fun _ ↦ ()

/-- The world at the outset of an operation: a launch has told its grid, and a benchmark has made
its inputs. -/
def outset (k : Kernel) (w : World) : Operation → World
  | launch grid _ => { w with host := { w.host with events :=
      ⟨.trace, "grid launch", [("kernel.name", k.entry), ("grid", shapeText grid)]⟩ ::
        w.host.events } }
  | benchmark supply draws _ _ => { w with heap := ((supply.arguments draws k).runFrom w.heap).2 }
  | prepare | call _ | invoke _ | benchmarkWith .. => w

/-- What a kernel that failed for `reason` answers to an operation. -/
def refusal (k : Kernel) (reason : String) (w : World) : Operation → KernelError
  | prepare | call _ | launch .. => .preparationFailed k.entry reason
  | invoke _ => .notPrepared k.entry
  | benchmarkWith _ plan _ =>
    if plan.timed = 0 then .emptyBenchmark else .preparationFailed k.entry reason
  | benchmark supply draws plan _ =>
    match ((supply.arguments draws k).runFrom w.heap).1 with
    | .ok _ => if plan.timed = 0 then .emptyBenchmark else .preparationFailed k.entry reason
    | .error error => error

/-- An operation changes neither the files nor the rehearsals at its outset. -/
theorem outset_host (op : Operation) : ∃ events, (op.outset k w).host = { w.host with events } := by
  cases op with
  | launch grid args => exact ⟨_, rfl⟩
  | _ => exact ⟨w.host.events, rfl⟩

/-! ### Operations that come to a preparation -/

section Prepares

variable {l' : Lifecycle} {h h' : Host} {error : KernelError}

theorem prepareIn_bind_error {α : Type} (next : Prepared → Kernel.Run α)
    (hfail : k.prepare.runFrom (l, w.host) = (.error error, (l', h'))) :
    (k.prepareIn >>= next).runFrom (l, w) = (.error error, (l', { w with host := h' })) := by
  have hprepare : k.prepareIn.runFrom (l, w) = (.error error, (l', { w with host := h' })) := by
    rw [Kernel.prepareIn, Act.run_within, hfail]
  exact Act.runFrom_bind_error hprepare next

/-- An operation whose preparation fails ends with it. -/
theorem of_prepare_error {op : Operation} (hop : op.preparesOn k w = some h)
    (hfail : k.prepare.runFrom (l, h) = (.error error, (l', h'))) :
    op.answer k (l, w) = .error error ∧
      op.after k (l, w) = (l', { op.outset k w with host := h' }) := by
  have hbenchmark : ∀ args (plan : BenchmarkPlan) clock (w : World), plan.timed ≠ 0 →
      w.host = h → (k.benchmarkWith args plan clock).runFrom (l, w) =
        (.error error, (l', { w with host := h' })) := by
    intro args plan clock w htimed hw
    rw [Kernel.benchmarkWith, if_neg htimed]
    exact prepareIn_bind_error _ (hw ▸ hfail)
  cases op with
  | prepare =>
    cases hop
    have hrun := prepareIn_bind_error (w := w) pure hfail
    rw [bind_pure] at hrun
    simp [answer, after, outset, hrun, Except.map]
  | call args =>
    cases hop
    have hrun := prepareIn_bind_error (w := w) (fun _ ↦ k.invokeIn args) hfail
    simp [answer, after, outset, Kernel.call, hrun, Except.map]
  | launch grid args =>
    cases hop
    have hrun := prepareIn_bind_error (w := outset k w (launch grid args))
      (fun _ ↦ k.invokeIn args) hfail
    have hlaunch : (k.launch grid args).runFrom (l, w) =
        (.error error, (l', { w with host := h' })) := hrun
    simp [answer, after, outset, hlaunch, Except.map]
  | invoke args => cases hop
  | benchmarkWith args plan clock =>
    simp only [preparesOn] at hop
    split at hop
    · cases hop
    · next htimed =>
      cases hop
      simp [answer, after, outset, hbenchmark args plan clock w htimed rfl, Except.map]
  | benchmark supply draws plan clock =>
    simp only [preparesOn] at hop
    simp only [answer, after, outset, Kernel.benchmark, Act.runFrom_bind, Act.run_within]
    rcases hargs : (supply.arguments draws k).runFrom w.heap with ⟨error' | args, heap⟩
    · rw [hargs] at hop
      cases hop
    · rw [hargs] at hop
      simp only at hop ⊢
      split at hop
      · cases hop
      · next htimed =>
        cases hop
        rw [hbenchmark args plan clock { w with heap } htimed rfl]
        exact ⟨rfl, rfl⟩

/-- An operation prepares the kernel on the host of its outset, and then a kernel that has failed
tells why; or it does not prepare the kernel. -/
theorem preparesOn_cases (k : Kernel) (w : World) (op : Operation) :
    (op.preparesOn k w = some (op.outset k w).host ∧
        ∀ reason, op.refusal k reason w = .preparationFailed k.entry reason) ∨
      op.preparesOn k w = none := by
  cases op with
  | invoke args => exact Or.inr rfl
  | benchmarkWith args plan clock =>
    by_cases htimed : plan.timed = 0
    · right
      rw [preparesOn, if_pos htimed]
    · left
      exact ⟨by rw [preparesOn, if_neg htimed]; rfl, fun reason ↦ by rw [refusal, if_neg htimed]⟩
  | benchmark supply draws plan clock =>
    simp only [preparesOn, refusal]
    cases ((supply.arguments draws k).runFrom w.heap).1 with
    | error error => exact Or.inr rfl
    | ok args =>
      by_cases htimed : plan.timed = 0
      · exact Or.inr (if_pos htimed)
      · exact Or.inl ⟨if_neg htimed, fun reason ↦ if_neg htimed⟩
  | _ => exact Or.inl ⟨rfl, fun _ ↦ rfl⟩

end Prepares

/-! ### Whole operations -/

/-- An operation that comes to no preparation leaves the life as it is. -/
theorem after_life_of_none {op : Operation} (hop : op.preparesOn k w = none) :
    (op.after k (l, w)).1 = l :=
  (after_of_not_prepares k.abides_true hop).1

/-- After an operation that comes to a preparation, the life is that after the preparation. -/
theorem after_life_of_some {op : Operation} {h : Host} (hop : op.preparesOn k w = some h) :
    (op.after k (l, w)).1 = (k.prepare.runFrom (l, h)).2.1 :=
  (after_of_prepares k.abides_true hop).2.1

/-- Operations keep a life as it is between operations. -/
theorem after_sound (hl : l.Sound) (op : Operation) : (op.after k (l, w)).1.Sound := by
  cases hop : op.preparesOn k w with
  | none => rwa [after_life_of_none hop]
  | some h =>
    rw [after_life_of_some hop]
    exact Kernel.prepare_sound hl

/-- An operation that comes to no preparation is refused where no artifact is prepared. -/
private theorem of_not_prepares {op : Operation} (hop : op.preparesOn k w = none)
    (hprepared : l.prepared = none) (reason : String) :
    op.answer k (l, w) = .error (op.refusal k reason w) ∧
      op.after k (l, w) = (l, op.outset k w) := by
  cases op with
  | prepare => cases hop
  | call args => cases hop
  | launch grid args => cases hop
  | invoke args =>
    have hinvoke : k.invoke l args = throw (.notPrepared k.entry) := by
      rw [Kernel.invoke, hprepared]
    have hrun : (k.invokeIn args).runFrom (l, w) = (.error (.notPrepared k.entry), (l, w)) := by
      rw [Kernel.invokeIn, Act.runFrom_bind, Act.runFrom_reads]
      simp only
      rw [Act.run_within, hinvoke]
      rfl
    simp [answer, after, outset, refusal, hrun, Except.map]
  | benchmarkWith args plan clock =>
    have htimed : plan.timed = 0 := by simpa [preparesOn] using hop
    simp only [answer, after, outset, refusal, Kernel.benchmarkWith, if_pos htimed]
    exact ⟨rfl, rfl⟩
  | benchmark supply draws plan clock =>
    simp only [preparesOn] at hop
    simp only [answer, after, outset, refusal, Kernel.benchmark, Act.runFrom_bind, Act.run_within]
    rcases hargs : (supply.arguments draws k).runFrom w.heap with ⟨error | args, heap⟩
    · exact ⟨rfl, rfl⟩
    · rw [hargs] at hop
      have htimed : plan.timed = 0 := by simpa using hop
      simp only [Kernel.benchmarkWith, if_pos htimed]
      exact ⟨rfl, rfl⟩

/-- A kernel that has failed refuses every operation, and only what comes at the outset of the
operation is done. -/
theorem of_failed (hl : l.Sound) {reason : String} (hreason : l.failure = some reason)
    (op : Operation) : op.answer k (l, w) = .error (op.refusal k reason w) ∧
      op.after k (l, w) = (l, op.outset k w) := by
  rcases preparesOn_cases k w op with ⟨hop, hrefusal⟩ | hop
  · rw [hrefusal]
    exact of_prepare_error hop (Kernel.prepare_of_failed hreason)
  · have hprepared : l.prepared = none := by
      rcases hl.apart with hnone | hnone
      · exact hnone
      · rw [hreason] at hnone
        cases hnone
    exact of_not_prepares hop hprepared reason

/-- A kernel that fails with an operation keeps the text of what that answers in mind. -/
theorem fails (hl : l.failure = none) {op : Operation} {reason : String}
    (hfailed : (op.after k (l, w)).1.failure = some reason) :
    ∃ error, op.answer k (l, w) = .error error ∧ error.message = reason := by
  cases hop : op.preparesOn k w with
  | none =>
    rw [after_life_of_none hop, hl] at hfailed
    cases hfailed
  | some h =>
    rw [after_life_of_some hop] at hfailed
    have hfails := Kernel.prepare_fails (k := k) (h := h) hl
    rcases hrun : k.prepare.runFrom (l, h) with ⟨error | p, l', h'⟩
    · rw [hrun] at hfails hfailed
      refine ⟨error, (of_prepare_error hop hrun).1, ?_⟩
      exact Option.some.inj (hfails.symm.trans hfailed)
    · rw [hrun] at hfails hfailed
      rw [hfails] at hfailed
      cases hfailed

end Operation

end KernelForge
