import KernelForge.Bench.Supply
import KernelForge.Bench.Timing

/-!
# Benchmarks

A kernel is prepared, run a few times without being timed, and then timed. The first run that fails
ends the benchmark. How long a run took is a parameter.
-/

namespace KernelForge

/-- How often a kernel runs in a benchmark. -/
structure BenchmarkPlan where
  /-- The runs before the timed ones. -/
  warmup : Nat := 1
  /-- The timed runs. -/
  timed : Nat := 3

namespace Kernel

/-- Invokes the kernel `count` times, the last time as number `count` of `clock`; answers how long
each time took. -/
def invokeRepeatedly (k : Kernel) (args : List Argument) (clock : Nat → Duration) :
    (count : Nat) → Run (List Duration)
  | 0 => pure []
  | count + 1 => do
    let _ ← k.invokeIn args
    let rest ← k.invokeRepeatedly args clock count
    pure (clock (count + 1) :: rest)

/-- Benchmarks a kernel with given arguments. -/
def benchmarkWith (k : Kernel) (args : List Argument) (plan : BenchmarkPlan)
    (clock : Nat → Duration) : Run Timing := do
  if plan.timed = 0 then throw .emptyBenchmark
  let _ ← k.prepareIn
  let _ ← k.invokeRepeatedly args clock plan.warmup
  let runs ← k.invokeRepeatedly args clock plan.timed
  match Timing.ofRuns? runs with
  | none => throw (.noAverage runs.length)
  | some timing =>
    Act.within (fun s ↦ s.2.host) (fun h s ↦ (s.1, { s.2 with host := h }))
      (Host.tell .debug "benchmarked kernel" [("kernel.name", k.entry), ("min", timing.least.text),
        ("mean", timing.mean.text), ("max", timing.greatest.text)])
    pure timing

/-- Benchmarks a kernel with supplied arguments. -/
def benchmark (k : Kernel) (s : Supply) (draws : Nat → Draws) (plan : BenchmarkPlan)
    (clock : Nat → Duration) : Run Timing := do
  let args ← Act.within (fun s ↦ s.2.heap) (fun h s ↦ (s.1, { s.2 with heap := h }))
    (s.arguments draws k)
  k.benchmarkWith args plan clock

end Kernel

end KernelForge
