import KernelForge.Binary.Shortest
import KernelForge.Kernel.Basic

/-!
# Calling kernels

A kernel that is prepared is invoked with arguments. The arguments are put in groups and the results
chosen among them before anything is executed.
-/

namespace KernelForge

/-- What an invocation gives. -/
structure Invocation where
  /-- How the execution ended. -/
  outcome : Outcome
  /-- The tensors at the result indices, in their order. -/
  outputs : List Tensor
  deriving DecidableEq

namespace Kernel

/-- The tensor argument at an index. -/
def output (args : List Argument) (index : Nat) : Except KernelError Tensor :=
  match (args[index]?).bind Argument.tensor? with
  | some t => .ok t
  | none => .error (.outputNotTensor index)

/-- The tensors at the result indices. -/
def outputs (k : Kernel) (args : List Argument) : Except KernelError (List Tensor) :=
  k.results.mapM (output args)

/-- A list of integers in a report. -/
def integersText (ns : List Int64) : String := Text.bracketed (ns.map fun n ↦ toString n.toInt)

/-- A tensor in the report of an execution: its shape and its element type. -/
def tensorText (t : Tensor) : String := "(" ++ shapeText t.shape ++ ", " ++ t.dtype.label ++ ")"

/-- The details told before an execution. -/
def executionFields (k : Kernel) (r : ArtifactRecord) (g : ArgumentGroups) :
    List (String × String) :=
  [("kernel.name", k.entry), ("kernel.symbol", r.symbol), ("path", r.path.text),
    ("tensors", Text.bracketed (g.tensors.map tensorText)),
    ("tensor_positions", integersText g.tensorPositions),
    ("float_scalars", Text.bracketed (g.floats.map Double.text)),
    ("float_positions", integersText g.floatPositions),
    ("fixed_scalars", integersText g.fixedWords),
    ("fixed_positions", integersText g.fixedPositions)]

/-- Executes the prepared artifact with arguments. -/
def invoke (k : Kernel) (l : Lifecycle) (args : List Argument) :
    Act World KernelError Invocation := do
  match l.prepared with
  | none => throw (.notPrepared k.entry)
  | some prepared =>
    let groups ← Act.ofExcept (marshal args)
    let outputs ← Act.ofExcept (k.outputs args)
    World.onHost (Host.tell .debug "executing kernel" (k.executionFields prepared.record groups))
    let outcome ← k.adapter.execute k.toolchain prepared.record groups
    pure ⟨outcome, outputs⟩

/-- An action on the life of a kernel and the world. -/
abbrev Run (α : Type) : Type := Act (Lifecycle × World) KernelError α

/-- Prepares in the world. -/
def prepareIn (k : Kernel) : Run Prepared :=
  Act.within (fun s ↦ (s.1, s.2.host)) (fun t s ↦ (t.1, { s.2 with host := t.2 })) k.prepare

/-- Invokes with the life of the kernel as it is. -/
def invokeIn (k : Kernel) (args : List Argument) : Run Invocation := do
  let l ← Act.reads Prod.fst
  Act.within Prod.snd (fun w s ↦ (s.1, w)) (k.invoke l args)

/-- Prepares if need be and invokes. -/
def call (k : Kernel) (args : List Argument) : Run Invocation := do
  let _ ← k.prepareIn
  k.invokeIn args

/-- Calls with the dimensions of a launch grid, which the host tells and does not use. -/
def launch (k : Kernel) (grid : List UInt64) (args : List Argument) : Run Invocation := do
  Act.within (fun s ↦ s.2.host) (fun h s ↦ (s.1, { s.2 with host := h }))
    (Host.tell .trace "grid launch" [("kernel.name", k.entry), ("grid", shapeText grid)])
  k.call args

end Kernel

end KernelForge
