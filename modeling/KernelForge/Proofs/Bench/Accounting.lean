import KernelForge.Proofs.Bench.Statistics
import KernelForge.Proofs.Kernel.Calls
import KernelForge.Proofs.Kernel.FailedPreparation
import KernelForge.Proofs.Kernel.Invoking
import KernelForge.Proofs.Kernel.Lives

/-!
# What a benchmark executes

A benchmark prepares the kernel, invokes it with the same arguments until one invocation fails, and
measures the later ones. Main statements: invocations in a row are counted with what they execute
(`invokeRepeatedly_invokes`), and so a benchmark is accounted for: what it executes, what it
measures, what it answers, and that it compiles once at most (`benchmark_accounted`). Where the
number of timed runs is zero as a word of 32 bits, nothing is told of runs that all succeed
(`benchmarkWith_of_dvd`).
-/

namespace KernelForge

/-! ### Measurements -/

/-- The measurements of `count` runs, the first of which is number `count` of `clock`. -/
def measurements (clock : Nat → Duration) : (count : Nat) → List Duration
  | 0 => []
  | count + 1 => clock (count + 1) :: measurements clock count

@[simp] theorem length_measurements (clock : Nat → Duration) (count : Nat) :
    (measurements clock count).length = count := by
  induction count with
  | zero => rfl
  | succ count ih => rw [measurements, List.length_cons, ih]

/-- By a clock that always tells the same, all runs take as long. -/
theorem measurements_const (d : Duration) (count : Nat) :
    measurements (fun _ ↦ d) count = List.replicate count d := by
  induction count with
  | zero => rfl
  | succ count ih => rw [measurements, ih, List.replicate_succ]

namespace Timing

/-- What is told of measurements holds all of them. Nothing is told where their number is zero as a
word of 32 bits, or their total is no duration. -/
theorem map_runs_ofRuns? {runs : List Duration} (hruns : runs ≠ []) :
    (ofRuns? runs).map Timing.runs =
      if 2 ^ 32 ∣ runs.length ∨ Duration.limit ≤ (runs.map Duration.nanoseconds).sum then none
      else some runs := by
  rw [ofRuns?_eq hruns]
  by_cases h : (runs.map Duration.nanoseconds).sum < Duration.limit ∧ ¬ 2 ^ 32 ∣ runs.length
  · rw [if_pos h, if_neg (not_or.mpr ⟨h.2, Nat.not_le.mpr h.1⟩)]
    rfl
  · rw [if_neg h, if_pos]
    · rfl
    · rwa [not_and_or, not_not, not_lt, or_comm] at h

end Timing

namespace Kernel

/-! ### Invocations in a row -/

/-- Whether the arguments can be executed with: all are taken, and the results are tensors. -/
def Accepts (k : Kernel) (args : List Argument) : Prop :=
  (∀ a ∈ args, a.isTaken) ∧ ∃ outputs, Selected args k.results outputs

/-- Invocations of a kernel with the life `l`, one after the other: how each ended, and how many of
them executed the prepared artifact. -/
inductive Invokes (k : Kernel) (l : Lifecycle) (args : List Argument) :
    World → List (Except KernelError Invocation) → Nat → World → Prop where
  /-- None. -/
  | none (w : World) : Invokes k l args w [] 0 w
  /-- The next one is refused, and nothing is done. -/
  | refused {w w' : World} {error : KernelError} {ends : List (Except KernelError Invocation)}
      {executions : Nat} (unfit : ¬ k.Accepts args)
      (invoke : (k.invokeIn args).runFrom (l, w) = (.error error, (l, w)))
      (rest : Invokes k l args w ends executions w') :
      Invokes k l args w (.error error :: ends) executions w'
  /-- The next one executes the artifact, once and from a world in which that is told. -/
  | executed {w w₁ w₂ : World} {p : Prepared} {groups : ArgumentGroups} {outputs : List Tensor}
      {result : Except KernelError Outcome} {ends : List (Except KernelError Invocation)}
      {executions : Nat} (fit : k.Accepts args) (prepared : l.prepared = some p)
      (marshal : marshal args = .ok groups)
      (execute : (k.adapter.execute k.toolchain p.record groups).runFrom { w with
        host := { w.host with events := ⟨.debug, "executing kernel",
          k.executionFields p.record groups⟩ :: w.host.events } } = (result, w₁))
      (invoke : (k.invokeIn args).runFrom (l, w) = (result.map (⟨·, outputs⟩), (l, w₁)))
      (rest : Invokes k l args w₁ ends executions w₂) :
      Invokes k l args w (result.map (⟨·, outputs⟩) :: ends) (executions + 1) w₂

namespace Invokes

variable {k : Kernel} {l : Lifecycle} {args : List Argument} {w w₁ w₂ : World}
  {ends ends' : List (Except KernelError Invocation)} {executions executions' : Nat}

theorem append (h : Invokes k l args w ends executions w₁)
    (h' : Invokes k l args w₁ ends' executions' w₂) :
    Invokes k l args w (ends ++ ends') (executions + executions') w₂ := by
  induction h with
  | none => rwa [List.nil_append, Nat.zero_add]
  | refused unfit invoke _ ih => exact .refused unfit invoke (ih h')
  | executed fit prepared marshal execute invoke _ ih =>
    rw [Nat.add_right_comm]
    exact .executed fit prepared marshal execute invoke (ih h')

/-- An invocation executes the artifact once at most. -/
theorem executions_le (h : Invokes k l args w ends executions w₁) : executions ≤ ends.length := by
  induction h with
  | none => exact Nat.le_refl 0
  | refused _ _ _ ih => exact Nat.le_succ_of_le ih
  | executed _ _ _ _ _ _ ih => exact Nat.succ_le_succ ih

/-- One that succeeds executes it. -/
theorem executions_eq (h : Invokes k l args w ends executions w₁) (hends : ∀ e ∈ ends, e.isOk) :
    executions = ends.length := by
  induction h with
  | none => rfl
  | refused => cases hends _ List.mem_cons_self
  | executed _ _ _ _ _ _ ih => rw [ih fun e he ↦ hends e (by simp [he]), List.length_cons]

/-- With arguments that are refused nothing is executed. -/
theorem executions_eq_zero (h : Invokes k l args w ends executions w₁)
    (hunfit : ¬ k.Accepts args) : executions = 0 := by
  induction h with
  | none => rfl
  | refused _ _ _ ih => exact ih
  | executed fit => exact absurd fit hunfit

/-- For the vector extension no execution fails, whatever the simulator does. -/
theorem isOk_of_rvv (h : Invokes k l args w ends executions w₁) (hfit : k.Accepts args)
    {config : ToolConfig} (hrvv : k.adapter = .rvv config) : ∀ e ∈ ends, e.isOk := by
  induction h with
  | none => simp
  | refused unfit => exact absurd hfit unfit
  | @executed _ _ _ p groups _ _ _ _ _ _ _ execute _ _ ih =>
    rw [hrvv] at execute
    obtain ⟨outcome, events, events', hrun, -⟩ :=
      Adapter.execute_rvv config k.toolchain p.record groups _
    cases hrun.symm.trans execute
    exact List.forall_mem_cons.mpr ⟨rfl, ih⟩

end Invokes

/-- Invocations up to the first one that fails. -/
def StopsAt (ends : List (Except KernelError Invocation)) (error : KernelError) : Prop :=
  ∃ done, ends = done ++ [.error error] ∧ ∀ e ∈ done, e.isOk

theorem StopsAt.append {done ends : List (Except KernelError Invocation)} {error : KernelError}
    (h : StopsAt ends error) (hdone : ∀ e ∈ done, e.isOk) : StopsAt (done ++ ends) error := by
  obtain ⟨more, rfl, hmore⟩ := h
  exact ⟨done ++ more, (List.append_assoc ..).symm, List.forall_mem_append.mpr ⟨hdone, hmore⟩⟩

section Prepared

variable {k : Kernel} {l : Lifecycle} {p : Prepared} (hp : l.prepared = some p)

include hp

/-- An invocation of a prepared kernel is refused, or executes the artifact once. -/
theorem invokeIn_invokes (args : List Argument) (w : World) :
    ∃ e executions w', (k.invokeIn args).runFrom (l, w) = (e, (l, w')) ∧
      k.Invokes l args w [e] executions w' := by
  have hinvoking := k.invokeIn_invoking l w args
  generalize hrun : (k.invokeIn args).runFrom (l, w) = r at hinvoking
  cases hinvoking with
  | unprepared prepared => cases hp.symm.trans prepared
  | refused _ first =>
    exact ⟨_, _, _, rfl, .refused (fun hfit ↦ first.not_taken hfit.1) hrun (.none w)⟩
  | unfit _ _ first =>
    exact ⟨_, _, _, rfl,
      .refused (fun ⟨_, outputs, houtputs⟩ ↦ first.not_selected outputs houtputs) hrun (.none w)⟩
  | executed prepared taken marshal selected execute =>
    exact ⟨_, _, _, rfl, .executed ⟨taken, _, selected⟩ prepared marshal execute hrun (.none _)⟩

/-- A prepared kernel is invoked until one invocation fails, or as often as it is asked for. -/
theorem invokeRepeatedly_invokes (args : List Argument) (clock : Nat → Duration) (count : Nat)
    (w : World) : ∃ ends executions w', k.Invokes l args w ends executions w' ∧
      ((∃ error, StopsAt ends error ∧ ends.length ≤ count ∧
          (k.invokeRepeatedly args clock count).runFrom (l, w) = (.error error, (l, w'))) ∨
        (∀ e ∈ ends, e.isOk) ∧ ends.length = count ∧
          (k.invokeRepeatedly args clock count).runFrom (l, w) =
            (.ok (measurements clock count), (l, w'))) := by
  induction count generalizing w with
  | zero => exact ⟨[], 0, w, .none w, .inr ⟨by simp, rfl, rfl⟩⟩
  | succ count ih =>
    obtain ⟨e, n, w₁, hone, hinvokes⟩ := invokeIn_invokes hp args w
    rw [invokeRepeatedly]
    cases e with
    | error error =>
      exact ⟨_, _, w₁, hinvokes, .inl ⟨error, ⟨[], rfl, by simp⟩, Nat.succ_le_succ (Nat.zero_le _),
        Act.runFrom_bind_error hone _⟩⟩
    | ok invocation =>
      obtain ⟨ends, executions, w', hrest, hends⟩ := ih w₁
      refine ⟨_, _, w', hinvokes.append hrest, ?_⟩
      have hfirst : ∀ e ∈ [(.ok invocation : Except KernelError Invocation)], e.isOk := by
        simp [Except.isOk, Except.toBool]
      rw [Act.runFrom_bind_ok hone]
      rcases hends with ⟨error, hstops, hle, hrun⟩ | ⟨hok, hlength, hrun⟩
      · exact .inl ⟨error, hstops.append hfirst, Nat.succ_le_succ hle,
          Act.runFrom_bind_error hrun _⟩
      · refine .inr ⟨List.forall_mem_append.mpr ⟨hfirst, hok⟩, congrArg (· + 1) hlength, ?_⟩
        rw [Act.runFrom_bind_ok hrun]
        rfl

end Prepared

variable {k : Kernel} {l l' : Lifecycle} {w : World} {h' : Host} {plan : BenchmarkPlan}

/-- After its preparation, a benchmark invokes the kernel until one invocation fails, or as often as
is planned; then it answers with what is told of the measurements. -/
theorem benchmarkWith_invokes (htimed : 0 < plan.timed) {p : Prepared}
    (hprepare : k.prepare.runFrom (l, w.host) = (.ok p, (l', h'))) (args : List Argument)
    (clock : Nat → Duration) :
    ∃ ends executions w', k.Invokes l' args { w with host := h' } ends executions w' ∧
      ((∃ error, StopsAt ends error ∧ ends.length ≤ plan.warmup + plan.timed ∧
          (k.benchmarkWith args plan clock).runFrom (l, w) = (.error error, (l', w'))) ∨
        (∀ e ∈ ends, e.isOk) ∧ ends.length = plan.warmup + plan.timed ∧
          ((k.benchmarkWith args plan clock).runFrom (l, w)).1 =
            (Timing.ofRuns? (measurements clock plan.timed)).elim
              (.error (.noAverage plan.timed)) .ok ∧
          ∃ events, ((k.benchmarkWith args plan clock).runFrom (l, w)).2 =
            (l', { w' with host := { w'.host with events } })) := by
  have hp : l'.prepared = some p := by
    simpa only [hprepare] using prepared_of_ok (congrArg Prod.fst hprepare)
  have hprepareIn : k.prepareIn.runFrom (l, w) = (.ok p, (l', { w with host := h' })) := by
    rw [prepareIn, Act.run_within, hprepare]
  rw [benchmarkWith, if_neg htimed.ne', Act.runFrom_bind_ok hprepareIn]
  obtain ⟨ends, executions, w₁, hwarm, ⟨error, hstops, hle, hrun⟩ | ⟨hok, hlength, hrun⟩⟩ :=
    invokeRepeatedly_invokes hp args clock plan.warmup { w with host := h' }
  -- a run before the timed ones may fail already, and then none is timed
  · exact ⟨_, _, w₁, hwarm, .inl ⟨error, hstops, by omega, Act.runFrom_bind_error hrun _⟩⟩
  rw [Act.runFrom_bind_ok hrun]
  obtain ⟨more, executions', w₂, htime, ⟨error, hstops, hle, hrun'⟩ | ⟨hok', hlength', hrun'⟩⟩ :=
    invokeRepeatedly_invokes hp args clock plan.timed w₁
  · refine ⟨_, _, w₂, hwarm.append htime, .inl ⟨error, hstops.append hok, ?_,
      Act.runFrom_bind_error hrun' _⟩⟩
    rw [List.length_append]
    omega
  · refine ⟨_, _, w₂, hwarm.append htime, .inr ⟨List.forall_mem_append.mpr ⟨hok, hok'⟩, ?_, ?_⟩⟩
    · rw [List.length_append, hlength, hlength']
    · rw [Act.runFrom_bind_ok hrun']
      cases Timing.ofRuns? (measurements clock plan.timed) with
      | none =>
        simp only [length_measurements]
        exact ⟨rfl, w₂.host.events, rfl⟩
      | some timing => exact ⟨rfl, _, rfl⟩

/-- For the vector extension and accepted arguments no invocation fails; but where the number of
timed runs is zero as a word of 32 bits, nothing is told of them. -/
theorem benchmarkWith_of_dvd {config : ToolConfig} (hrvv : k.adapter = .rvv config) {p : Prepared}
    (hprepare : k.prepare.runFrom (l, w.host) = (.ok p, (l', h'))) {args : List Argument}
    (hfit : k.Accepts args) (plan : BenchmarkPlan) (htimed : 0 < plan.timed)
    (hdvd : 2 ^ 32 ∣ plan.timed) (clock : Nat → Duration) :
    ∃ ends w', k.Invokes l' args { w with host := h' } ends (plan.warmup + plan.timed) w' ∧
      ends.length = plan.warmup + plan.timed ∧ (∀ e ∈ ends, e.isOk) ∧
      ((k.benchmarkWith args plan clock).runFrom (l, w)).1 = .error (.noAverage plan.timed) := by
  obtain ⟨ends, executions, w', hinvokes, ⟨error, ⟨done, rfl, -⟩, -⟩ |
    ⟨hok, hlength, hanswer, -⟩⟩ := benchmarkWith_invokes htimed hprepare args clock
  · cases hinvokes.isOk_of_rvv hfit hrvv (.error error) (by simp)
  · have hruns : measurements clock plan.timed ≠ [] := by
      rw [← List.length_pos_iff, length_measurements]
      exact htimed
    have hnone : Timing.ofRuns? (measurements clock plan.timed) = none := by
      rw [Timing.ofRuns?_eq hruns, length_measurements, if_neg fun h ↦ h.2 hdvd]
    obtain rfl : executions = plan.warmup + plan.timed :=
      (hinvokes.executions_eq hok).trans hlength
    refine ⟨ends, w', hinvokes, hlength, hok, ?_⟩
    rw [hanswer, hnone, Option.elim_none]

/-- A benchmark calls for one compilation at most, if native calls make none. -/
theorem benchmarkWith_compilations {t : Toolchain} (hk : k.toolchain = t.booked)
    (hkeeps : k.adapter.KeepsLedger) (l : Lifecycle) (w : World) (args : List Argument)
    (plan : BenchmarkPlan) (clock : Nat → Duration) :
    ((k.benchmarkWith args plan clock).runFrom (l, w)).2.2.host.compilations ≤
      w.host.compilations + 1 := by
  by_cases htimed : plan.timed = 0
  · rw [benchmarkWith, if_pos htimed]
    exact Nat.le_succ _
  · have hop : (Operation.benchmarkWith args plan clock).preparesOn k w = some w.host :=
      if_neg htimed
    obtain ⟨-, -, hledger⟩ :=
      Operation.after_of_prepares (abides_ledger hk hkeeps) (l := l) hop
    obtain ⟨calls, ⟨hcalls, hcount⟩, -⟩ := prepare_called hk l w.host
    have hafter : ((k.benchmarkWith args plan clock).runFrom (l, w)).2.2.host.ledger =
        calls ++ w.host.ledger := hledger.trans hcalls
    rw [Host.compilations, Host.compilations, hafter, List.countP_append]
    omega

end Kernel

open Kernel

/-- A benchmark is accounted for, in whatever state the kernel and the world are and whatever the
native entry or the simulator does. Without a timed run it is refused and nothing is done. If the
preparation fails, the benchmark ends with it. Otherwise the kernel is invoked with the same
arguments until one invocation fails: the benchmark answers with its error then, and has executed
the artifact once at most for each invocation made; for the vector extension that happens only to
arguments that are refused before anything is executed. Or no invocation fails: each run before the
timed ones and each timed one has executed the artifact once, and there are as many measurements as
timed runs, all of which the answer holds; it is told where they have a mean, which is found by
dividing by their number as a word of 32 bits. The ledger of a booked toolchain tells of one more
compilation at most after the benchmark, if native calls leave it alone. -/
theorem benchmark_accounted (k : Kernel) (l : Lifecycle) (w : World) (args : List Argument)
    (plan : BenchmarkPlan) (clock : Nat → Duration) :
    (plan.timed = 0 → (k.benchmarkWith args plan clock).runFrom (l, w) =
      (.error .emptyBenchmark, (l, w))) ∧
    (0 < plan.timed → ∀ error l' h', k.prepare.runFrom (l, w.host) = (.error error, (l', h')) →
      (k.benchmarkWith args plan clock).runFrom (l, w) =
        (.error error, (l', { w with host := h' }))) ∧
    (0 < plan.timed → ∀ p l' h', k.prepare.runFrom (l, w.host) = (.ok p, (l', h')) →
      ∃ ends executions w', k.Invokes l' args { w with host := h' } ends executions w' ∧
        ((∃ error, StopsAt ends error ∧ ends.length ≤ plan.warmup + plan.timed ∧
            executions ≤ ends.length ∧ (∀ config, k.adapter = .rvv config → executions = 0) ∧
            (k.benchmarkWith args plan clock).runFrom (l, w) = (.error error, (l', w'))) ∨
          (∀ e ∈ ends, e.isOk) ∧ ends.length = plan.warmup + plan.timed ∧
            executions = plan.warmup + plan.timed ∧
            (measurements clock plan.timed).length = plan.timed ∧
            ((k.benchmarkWith args plan clock).runFrom (l, w)).1.map Timing.runs =
              (if 2 ^ 32 ∣ plan.timed ∨ Duration.limit ≤
                  ((measurements clock plan.timed).map Duration.nanoseconds).sum then
                .error (.noAverage plan.timed)
              else .ok (measurements clock plan.timed)) ∧
            ∃ events, ((k.benchmarkWith args plan clock).runFrom (l, w)).2 =
              (l', { w' with host := { w'.host with events } }))) ∧
    ∀ t : Toolchain, k.toolchain = t.booked → k.adapter.KeepsLedger →
      ((k.benchmarkWith args plan clock).runFrom (l, w)).2.2.host.compilations ≤
        w.host.compilations + 1 := by
  refine ⟨fun htimed ↦ ?_, fun htimed error l' h' hprepare ↦ ?_,
    fun htimed p l' h' hprepare ↦ ?_, fun t hk hkeeps ↦
    benchmarkWith_compilations hk hkeeps l w args plan clock⟩
  · rw [benchmarkWith, if_pos htimed]
    rfl
  · rw [benchmarkWith, if_neg htimed.ne']
    exact Operation.prepareIn_bind_error _ hprepare
  · obtain ⟨ends, executions, w', hinvokes, ⟨error, hstops, hle, hrun⟩ |
      ⟨hok, hlength, hanswer, hstate⟩⟩ := benchmarkWith_invokes htimed hprepare args clock
    · refine ⟨ends, executions, w', hinvokes, .inl ⟨error, hstops, hle, hinvokes.executions_le,
        fun config hrvv ↦ ?_, hrun⟩⟩
      -- what is executed does not fail, so it was the arguments
      by_cases hfit : k.Accepts args
      · obtain ⟨done, rfl, -⟩ := hstops
        cases hinvokes.isOk_of_rvv hfit hrvv (.error error) (by simp)
      · exact hinvokes.executions_eq_zero hfit
    · refine ⟨ends, executions, w', hinvokes, .inr ⟨hok, hlength,
        (hinvokes.executions_eq hok).trans hlength, length_measurements _ _, ?_, hstate⟩⟩
      have hruns : measurements clock plan.timed ≠ [] := by
        rw [← List.length_pos_iff, length_measurements]
        exact htimed
      have hmap := Timing.map_runs_ofRuns? hruns
      rw [length_measurements] at hmap
      rw [hanswer]
      split at hmap
      · next hnone =>
        rw [if_pos hnone, Option.map_eq_none_iff.mp hmap]
        rfl
      · next hsome =>
        obtain ⟨timing, htold, htiming⟩ := Option.map_eq_some_iff.mp hmap
        rw [if_neg hsome, htold, ← htiming]
        rfl

/-- A clock by which every run takes as many nanoseconds as its number says. -/
def steadyClock (n : Nat) : Duration := ⟨n⟩

/-- The sample is refused without timed runs. With one run before two timed ones it is executed
three times, compiled once and told of with two measurements. The kernel that cannot be compiled is
not executed. -/
theorem benchmark_accounted_sample :
    ((sample "k" sampleTools).benchmarkWith [] ⟨1, 0⟩ steadyClock).runFrom
        ({}, { host := sampleHost [] }) =
      (.error .emptyBenchmark, ({}, { host := sampleHost [] })) ∧
    (∃ p l' h' ends w' timing, (sample "k" sampleTools).prepare.runFrom ({}, sampleHost []) =
        (.ok p, (l', h')) ∧
      (sample "k" sampleTools).Invokes l' [] { host := h' } ends 3 w' ∧ ends.length = 3 ∧
      (((sample "k" sampleTools).benchmarkWith [] ⟨1, 2⟩ steadyClock).runFrom
        ({}, { host := sampleHost [] })).1 = .ok timing ∧ timing.runs = [⟨2⟩, ⟨1⟩] ∧
      (((sample "k" sampleTools).benchmarkWith [] ⟨1, 2⟩ steadyClock).runFrom
        ({}, { host := sampleHost [] })).2.2.host.compilations ≤ 1) ∧
    ∃ error l' h', failing.prepare.runFrom ({}, sampleHost []) = (.error error, (l', h')) ∧
      (failing.benchmarkWith [] ⟨1, 2⟩ steadyClock).runFrom ({}, { host := sampleHost [] }) =
        (.error error, (l', { host := h' })) := by
  refine ⟨(benchmark_accounted _ {} { host := sampleHost [] } [] ⟨1, 0⟩ steadyClock).1 rfl, ?_, ?_⟩
  · obtain ⟨-, -, hprepared, hcompiled⟩ := benchmark_accounted (sample "k" sampleTools) {}
      { host := sampleHost [] } [] ⟨1, 2⟩ steadyClock
    obtain ⟨p, hp⟩ := Act.exists_ok_of_isOk (prepare_sampleTools "k").1
    rcases hprepare : (sample "k" sampleTools).prepare.runFrom ({}, sampleHost []) with ⟨r, l', h'⟩
    obtain rfl : r = .ok p := by rw [← hp, hprepare]
    obtain ⟨ends, executions, w', hinvokes, ⟨error, hstops, -⟩ |
      ⟨-, hlength, rfl, -, hanswer, -⟩⟩ := hprepared (by decide) p l' h' hprepare
    · have hfit : (sample "k" sampleTools).Accepts [] := ⟨by simp, [], .nil⟩
      obtain ⟨done, rfl, -⟩ := hstops
      cases hinvokes.isOk_of_rvv hfit rfl (.error error) (by simp)
    · have hnone : Host.compilations (sampleHost []) = 0 := rfl
      have hcompilations := hcompiled _ rfl trivial
      rw [hnone] at hcompilations
      cases htold : (((sample "k" sampleTools).benchmarkWith [] ⟨1, 2⟩ steadyClock).runFrom
          ({}, { host := sampleHost [] })).1 with
      | error error =>
        rw [htold, if_neg (by decide)] at hanswer
        cases hanswer
      | ok timing =>
        rw [htold, if_neg (by decide)] at hanswer
        exact ⟨p, l', h', ends, w', timing, rfl, hinvokes, hlength, rfl,
          Except.ok.inj hanswer, hcompilations⟩
  · obtain ⟨error, herror⟩ := Act.exists_error_of_isOk_eq_false prepare_failing
    rcases hprepare : failing.prepare.runFrom ({}, sampleHost []) with ⟨r, l', h'⟩
    obtain rfl : r = .error error := by rw [← herror, hprepare]
    exact ⟨error, l', h', rfl, (benchmark_accounted failing {} { host := sampleHost [] } [] ⟨1, 2⟩
      steadyClock).2.1 (by decide) error l' h' hprepare⟩

/-- The sample is invoked 2^32 times, a nanosecond each, and no invocation fails; yet there is no
result that holds the measurements. -/
theorem benchmark_accounted_wrapped :
    ∃ p l' h' ends w', (sample "k" sampleTools).prepare.runFrom ({}, sampleHost []) =
        (.ok p, (l', h')) ∧
      (sample "k" sampleTools).Invokes l' [] { host := h' } ends (2 ^ 32) w' ∧
      ends.length = 2 ^ 32 ∧ (∀ e ∈ ends, e.isOk) ∧
      ((measurements (fun _ ↦ ⟨1⟩) (2 ^ 32)).map Duration.nanoseconds).sum < Duration.limit ∧
      (((sample "k" sampleTools).benchmarkWith [] ⟨0, 2 ^ 32⟩ fun _ ↦ ⟨1⟩).runFrom
        ({}, { host := sampleHost [] })).1 = .error (.noAverage (2 ^ 32)) := by
  obtain ⟨p, hp⟩ := Act.exists_ok_of_isOk (prepare_sampleTools "k").1
  rcases hprepare : (sample "k" sampleTools).prepare.runFrom ({}, sampleHost []) with ⟨r, l', h'⟩
  obtain rfl : r = .ok p := by rw [← hp, hprepare]
  have hfit : (sample "k" sampleTools).Accepts [] := ⟨by simp, [], .nil⟩
  obtain ⟨ends, w', hinvokes, hlength, hok, hanswer⟩ := benchmarkWith_of_dvd
    (w := { host := sampleHost [] }) rfl hprepare hfit ⟨0, 2 ^ 32⟩ (by decide) (dvd_refl _)
    fun _ ↦ ⟨1⟩
  rw [Nat.zero_add] at hinvokes hlength
  refine ⟨p, l', h', ends, w', rfl, hinvokes, hlength, hok, ?_, hanswer⟩
  rw [measurements_const, List.map_replicate, List.sum_replicate]
  decide

end KernelForge
