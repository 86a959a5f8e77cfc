import KernelForge.Bench.Benchmark
import KernelForge.Proofs.Kernel.Preparation
import KernelForge.Proofs.Target.Executing

/-!
# Operating a kernel

What a kernel is asked for is one of six operations. An operation prepares the kernel once, on a
host that can be told beforehand, or not at all, and apart from that it tells events and executes
what is prepared. Main statements: `after_of_prepares` and `after_of_not_prepares`, for whatever
holds between two hosts when an artifact is executed.
-/

namespace KernelForge

/-- What a kernel is asked for. -/
inductive Operation where
  /-- To be prepared. -/
  | prepare
  /-- To be prepared and invoked. -/
  | call (args : List Argument)
  /-- To be called with a launch grid. -/
  | launch (grid : List UInt64) (args : List Argument)
  /-- To be invoked as it is. -/
  | invoke (args : List Argument)
  /-- To be benchmarked with arguments. -/
  | benchmarkWith (args : List Argument) (plan : BenchmarkPlan) (clock : Nat → Duration)
  /-- To be benchmarked with supplied arguments. -/
  | benchmark (supply : Supply) (draws : Nat → Draws) (plan : BenchmarkPlan)
      (clock : Nat → Duration)

namespace Operation

/-- The life and the world after an operation, whether it failed or not. -/
def after (k : Kernel) (s : Lifecycle × World) : Operation → Lifecycle × World
  | prepare => (k.prepareIn.runFrom s).2
  | call args => ((k.call args).runFrom s).2
  | launch grid args => ((k.launch grid args).runFrom s).2
  | invoke args => ((k.invokeIn args).runFrom s).2
  | benchmarkWith args plan clock => ((k.benchmarkWith args plan clock).runFrom s).2
  | benchmark supply draws plan clock => ((k.benchmark supply draws plan clock).runFrom s).2

/-- The host on which an operation prepares the kernel, if it does. -/
def preparesOn (k : Kernel) (w : World) : Operation → Option Host
  | prepare | call _ => some w.host
  | launch grid _ => some { w.host with events :=
      ⟨.trace, "grid launch", [("kernel.name", k.entry), ("grid", shapeText grid)]⟩ ::
        w.host.events }
  | invoke _ => none
  | benchmarkWith _ plan _ => if plan.timed = 0 then none else some w.host
  | benchmark supply draws plan _ =>
    match ((supply.arguments draws k).runFrom w.heap).1 with
    | .ok _ => if plan.timed = 0 then none else some w.host
    | .error _ => none

end Operation

namespace Kernel

/-- A relation between hosts that holds when an event is told and when an artifact of `k` is
executed. -/
structure Abides (k : Kernel) (R : Host → Host → Prop) : Prop where
  /-- It holds when nothing is done. -/
  refl : ∀ h, R h h
  /-- It holds from the first to the last of three hosts. -/
  trans : ∀ {h h' h''}, R h h' → R h' h'' → R h h''
  /-- It holds when events are told. -/
  tell : ∀ (h : Host) events, R h { h with events }
  /-- It holds when an artifact is executed. -/
  execute : ∀ record groups (w : World),
    R w.host ((k.adapter.execute k.toolchain record groups).runFrom w).2.host

theorem abides_true (k : Kernel) : k.Abides fun _ _ ↦ True :=
  ⟨fun _ ↦ trivial, fun _ _ ↦ trivial, fun _ _ ↦ trivial, fun _ _ _ ↦ trivial⟩

/-- With a booked toolchain the ledger stays, if native calls leave it alone. -/
theorem abides_ledger {k : Kernel} {t : Toolchain} (hk : k.toolchain = t.booked)
    (hkeeps : k.adapter.KeepsLedger) : k.Abides fun h h' ↦ h'.ledger = h.ledger where
  refl _ := rfl
  trans h h' := h'.trans h
  tell _ _ := rfl
  execute record groups w := by
    rw [hk]
    exact Adapter.execute_ledger hkeeps t record groups w

/-- An action that leaves the life of a kernel, and the host within `R`. -/
def Rests {α : Type} (R : Host → Host → Prop) (act : Run α) : Prop :=
  ∀ l w, (act.runFrom (l, w)).2.1 = l ∧ R w.host (act.runFrom (l, w)).2.2.host

variable {k : Kernel} {R : Host → Host → Prop} {α β : Type} (hR : k.Abides R)

include hR

theorem Abides.pure (a : α) : Rests R (pure a : Run α) := fun _ w ↦ ⟨rfl, hR.refl w.host⟩

theorem Abides.throw (error : KernelError) : Rests R (throw error : Run α) :=
  fun _ w ↦ ⟨rfl, hR.refl w.host⟩

theorem Abides.bind {act : Run α} {next : α → Run β} (h : Rests R act)
    (hnext : ∀ a, Rests R (next a)) : Rests R (act >>= next) := by
  intro l w
  obtain ⟨hlife, hhost⟩ := h l w
  rw [Act.runFrom_bind]
  rcases hr : act.runFrom (l, w) with ⟨error | a, l', w'⟩
  · rw [hr] at hlife hhost
    exact ⟨hlife, hhost⟩
  · rw [hr] at hlife hhost
    obtain rfl : l' = l := hlife
    obtain ⟨hlife', hhost'⟩ := hnext a l' w'
    exact ⟨hlife', hR.trans hhost hhost'⟩

/-- Telling an event from within a run. -/
theorem Abides.tell_run (level : Level) (message : String) (fields : List (String × String)) :
    Rests R (Act.within (fun s : Lifecycle × World ↦ s.2.host)
      (fun h s ↦ (s.1, { s.2 with host := h })) (Host.tell level message fields) : Run Unit) :=
  fun _ w ↦ ⟨rfl, hR.tell w.host _⟩

theorem Abides.invoke (l : Lifecycle) (args : List Argument) (w : World) :
    R w.host ((k.invoke l args).runFrom w).2.host := by
  rw [Kernel.invoke]
  split
  · exact hR.refl _
  · next prepared _ =>
    rw [Act.runFrom_bind, Act.runFrom_ofExcept]
    cases marshal args with
    | error error => exact hR.refl _
    | ok groups =>
      simp only
      rw [Act.runFrom_bind, Act.runFrom_ofExcept]
      cases k.outputs args with
      | error error => exact hR.refl _
      | ok outputs =>
        simp only
        obtain ⟨events, htell⟩ := Host.tell_run (ε := KernelError) .debug "executing kernel"
          (k.executionFields prepared.record groups) w.host
        rw [World.onHost, Act.runFrom_bind, Act.run_within, htell]
        simp only
        have hexecute := hR.trans (hR.tell w.host events)
          (hR.execute prepared.record groups { w with host := { w.host with events } })
        rw [Act.runFrom_bind]
        rcases hr : (k.adapter.execute k.toolchain prepared.record groups).runFrom
          { w with host := { w.host with events } } with ⟨error | outcome, w'⟩
        · rw [hr] at hexecute
          exact hexecute
        · rw [hr] at hexecute
          exact hexecute

theorem Abides.invokeIn (args : List Argument) : Rests R (k.invokeIn args) :=
  fun l w ↦ ⟨rfl, hR.invoke l args w⟩

theorem Abides.invokeRepeatedly (args : List Argument) (clock : Nat → Duration) (count : Nat) :
    Rests R (k.invokeRepeatedly args clock count) := by
  induction count with
  | zero => exact hR.pure []
  | succ count ih =>
    rw [Kernel.invokeRepeatedly]
    exact hR.bind (hR.invokeIn args) fun _ ↦ hR.bind ih fun rest ↦ hR.pure _

/-- What comes after the preparation in a run that prepares first. -/
private theorem Abides.prepareIn_bind {next : Prepared → Run β} (hnext : ∀ p, Rests R (next p))
    (l : Lifecycle) (w : World) :
    ((k.prepareIn >>= next).runFrom (l, w)).2.1 = (k.prepare.runFrom (l, w.host)).2.1 ∧
      R (k.prepare.runFrom (l, w.host)).2.2 ((k.prepareIn >>= next).runFrom (l, w)).2.2.host := by
  rw [Act.runFrom_bind, prepareIn, Act.run_within]
  rcases k.prepare.runFrom (l, w.host) with ⟨error | p, l', h'⟩
  · exact ⟨rfl, hR.refl _⟩
  · exact hnext p l' { w with host := h' }

end Kernel

namespace Operation

variable {k : Kernel} {R : Host → Host → Prop} (hR : k.Abides R) {l : Lifecycle} {w : World}
  {h : Host}

include hR

private theorem after_call (args : List Argument) (l : Lifecycle) (w : World) :
    ((k.call args).runFrom (l, w)).2.1 = (k.prepare.runFrom (l, w.host)).2.1 ∧
      R (k.prepare.runFrom (l, w.host)).2.2 ((k.call args).runFrom (l, w)).2.2.host :=
  hR.prepareIn_bind (fun _ ↦ hR.invokeIn args) l w

private theorem after_benchmarkWith (args : List Argument) (plan : BenchmarkPlan)
    (clock : Nat → Duration) (l : Lifecycle) (w : World) (htimed : plan.timed ≠ 0) :
    ((k.benchmarkWith args plan clock).runFrom (l, w)).2.1 = (k.prepare.runFrom (l, w.host)).2.1 ∧
      R (k.prepare.runFrom (l, w.host)).2.2
        ((k.benchmarkWith args plan clock).runFrom (l, w)).2.2.host := by
  rw [Kernel.benchmarkWith, if_neg htimed]
  refine hR.prepareIn_bind (fun _ ↦ ?_) l w
  refine hR.bind (hR.invokeRepeatedly args clock plan.warmup) fun _ ↦
    hR.bind (hR.invokeRepeatedly args clock plan.timed) fun runs ↦ ?_
  split
  · exact hR.throw _
  · exact hR.bind (hR.tell_run _ _ _) fun _ ↦ hR.pure _

/-- An operation that prepares does so once, on a host that was told an event at most, and stays
within `R` afterwards. -/
theorem after_of_prepares {op : Operation} (hop : op.preparesOn k w = some h) :
    (∃ events, h = { w.host with events }) ∧
      (op.after k (l, w)).1 = (k.prepare.runFrom (l, h)).2.1 ∧
      R (k.prepare.runFrom (l, h)).2.2 (op.after k (l, w)).2.host := by
  cases op with
  | prepare =>
    cases hop
    exact ⟨⟨_, rfl⟩, rfl, hR.refl _⟩
  | call args =>
    cases hop
    exact ⟨⟨_, rfl⟩, after_call hR args l w⟩
  | launch grid args =>
    cases hop
    exact ⟨⟨_, rfl⟩, after_call hR args l _⟩
  | invoke args => cases hop
  | benchmarkWith args plan clock =>
    simp only [preparesOn] at hop
    split at hop
    · cases hop
    · next htimed =>
      cases hop
      exact ⟨⟨_, rfl⟩, after_benchmarkWith hR args plan clock l w htimed⟩
  | benchmark supply draws plan clock =>
    rw [after, Kernel.benchmark, Act.runFrom_bind, Act.run_within]
    simp only [preparesOn] at hop
    rcases hargs : (supply.arguments draws k).runFrom w.heap with ⟨error | args, heap⟩
    · rw [hargs] at hop
      cases hop
    · rw [hargs] at hop
      simp only at hop ⊢
      split at hop
      · cases hop
      · next htimed =>
        cases hop
        exact ⟨⟨_, rfl⟩, after_benchmarkWith hR args plan clock l { w with heap } htimed⟩

/-- An operation that does not prepare leaves the life of the kernel, and stays within `R`. -/
theorem after_of_not_prepares {op : Operation} (hop : op.preparesOn k w = none) :
    (op.after k (l, w)).1 = l ∧ R w.host (op.after k (l, w)).2.host := by
  have hempty : ∀ args (plan : BenchmarkPlan) clock, plan.timed = 0 →
      Kernel.Rests R (k.benchmarkWith args plan clock) := by
    intro args plan clock htimed
    rw [Kernel.benchmarkWith, if_pos htimed]
    exact hR.throw _
  cases op with
  | prepare => cases hop
  | call args => cases hop
  | launch grid args => cases hop
  | invoke args => exact hR.invokeIn args l w
  | benchmarkWith args plan clock =>
    simp only [preparesOn] at hop
    split at hop
    · next htimed => exact hempty args plan clock htimed l w
    · cases hop
  | benchmark supply draws plan clock =>
    rw [after, Kernel.benchmark, Act.runFrom_bind, Act.run_within]
    simp only [preparesOn] at hop
    rcases hargs : (supply.arguments draws k).runFrom w.heap with ⟨error | args, heap⟩
    · exact ⟨rfl, hR.refl _⟩
    · rw [hargs] at hop
      simp only at hop ⊢
      split at hop
      · next htimed => exact hempty args plan clock htimed l { w with heap }
      · cases hop

end Operation

end KernelForge
