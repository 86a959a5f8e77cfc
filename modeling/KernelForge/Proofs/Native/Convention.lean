import KernelForge.Proofs.Act
import KernelForge.Proofs.Argument.Groups
import KernelForge.Proofs.Native.Scatter
import KernelForge.Target.Adapter

/-!
# The calling convention from end to end

An argument list is put in groups, the groups cross the native boundary as a call, and the call is
laid out as an argument block. Main statement: the block has the word of every argument in the slot
of its position (`argumentBlock_marshal`).
-/

namespace KernelForge

/-- The word of an argument in an argument block, when `address` is the address of a tensor. -/
def Argument.word (address : UInt64) : Argument → UInt64
  | tensor _ => address
  | bool b => if b then 1 else 0
  | int n => n.toUInt64
  | float x => x.bits
  | text _ | absent => 0

/-- The addresses of the tensors of an argument list in call order, when a tensor at position `p`
has the address `address p`. -/
def tensorAddresses (address : Nat → UInt64) (args : List Argument) : List UInt64 :=
  (Argument.pick Argument.tensor? 0 args).map fun e ↦ address e.1

/-- The words of an argument list, a tensor at position `p` having the address `address p`. -/
def argumentWords (address : Nat → UInt64) (args : List Argument) : List UInt64 :=
  args.zipIdx.map fun (a, p) ↦ a.word (address p)

theorem length_argumentWords (address : Nat → UInt64) (args : List Argument) :
    (argumentWords address args).length = args.length := by
  simp [argumentWords]

theorem getElem?_argumentWords (address : Nat → UInt64) {args : List Argument} {p : Nat}
    (hp : p < args.length) :
    (argumentWords address args)[p]? = some (args[p].word (address p)) := by
  simp [argumentWords, hp]

namespace ArgumentGroups

variable {args : List Argument} (library : Path) (symbol : String)

/-- The words of the groups with their positions are those of the argument list. -/
theorem placedWords_ofArguments (hargs : ∀ a ∈ args, a.isTaken) (address : Nat → UInt64) :
    (((ofArguments 0 args).call library symbol).placedWords
      (tensorAddresses address args)).Perm
        (NativeCall.numbered (argumentWords address args)) := by
  have hnumbered : NativeCall.numbered (argumentWords address args) =
      args.zipIdx.map fun (a, p) ↦ (Int64.ofNat p, a.word (address p)) := by
    apply List.ext_getElem?
    intro i
    by_cases hi : i < args.length <;> simp [NativeCall.numbered, argumentWords, hi]
  rw [hnumbered]
  simp only [NativeCall.placedWords, call, ofArguments, tensorAddresses, fixedWords, List.map_map,
    List.zip_map']
  apply Argument.pick_perm _ _ _ _ _ _ _ hargs
  · intro i t
    rfl
  · intro i x
    rfl
  · intro i n
    cases n with
    | bool b => cases b <;> rfl
    | int n => rfl

/-- A call of the groups of an argument list has a slot for every argument. -/
theorem arity_ofArguments (hargs : ∀ a ∈ args, a.isTaken) :
    ((ofArguments 0 args).call library symbol).arity = args.length := by
  have hperm := placedWords_ofArguments library symbol hargs fun _ ↦ 0
  have hlength := hperm.length_eq
  simp only [NativeCall.placedWords, call, ofArguments, tensorAddresses, NativeCall.numbered,
    argumentWords, fixedWords, List.length_append, List.length_zip, List.length_map,
    List.length_zipIdx, Nat.min_self] at hlength
  simpa [NativeCall.arity, call, ofArguments, fixedWords] using hlength

end ArgumentGroups

/-- Arguments that a kernel takes are put in groups. The native call that executes them on a tensor
processor has a slot for every one, and its argument block has in the slot of each argument the
address of a tensor, the bits of an integer or of a floating-point number, and zero or one for a
truth value. (A list in memory has less than 2⁶³ elements.) -/
theorem argumentBlock_marshal {args : List Argument} (hargs : ∀ a ∈ args, a.isTaken)
    (hlength : args.length ≤ 2 ^ 63) (address : Nat → UInt64) (config : ToolConfig)
    (native : NativeEntry) (t : Toolchain) (record : ArtifactRecord) :
    ∃ g, marshal args = .ok g ∧
      (∀ w, ((Adapter.tpu config native).execute t record g).runFrom w =
        match (native.execute (g.call record.path record.symbol)).runFrom w with
        | (.ok (), w') => (.ok .completed, w')
        | (.error error, w') => (.error (.device error), w')) ∧
      (g.call record.path record.symbol).arity = args.length ∧
      ∃ block, (g.call record.path record.symbol).argumentBlock (tensorAddresses address args) =
          .ok block ∧
        block.length = args.length ∧
        ∀ p (hp : p < args.length), block[p]? = some (args[p].word (address p)) := by
  refine ⟨.ofArguments 0 args, marshal_eq_ok hargs, ?_, ArgumentGroups.arity_ofArguments _ _ hargs,
    argumentWords address args, ?_, length_argumentWords _ _, ?_⟩
  · intro w
    simp only [Adapter.execute, Act.runFrom_bind, Act.runFrom_mapError]
    rcases (native.execute _).runFrom w with ⟨_ | _, w'⟩ <;> rfl
  · apply NativeCall.argumentBlock_of_perm
    · exact ArgumentGroups.placedWords_ofArguments _ _ hargs address
    · rw [ArgumentGroups.arity_ofArguments _ _ hargs, length_argumentWords]
    · rwa [length_argumentWords]
  · intro p hp
    exact getElem?_argumentWords address hp

/-- One tensor twice, a negative number, a NaN with a payload, a truth value and a negative zero. -/
def mixedArguments : List Argument :=
  [.tensor ⟨0, .float32, [4]⟩, .int (-1), .float ⟨0x7FF0000000000001⟩, .bool true,
    .tensor ⟨0, .float32, [4]⟩, .float ⟨0x8000000000000000⟩]

theorem argumentBlock_marshal_mixed :
    (∀ a ∈ mixedArguments, a.isTaken) ∧ mixedArguments.length ≤ 2 ^ 63 ∧
      ∃ g, marshal mixedArguments = .ok g ∧ (g.call ⟨[]⟩ "k").arity = 6 ∧
        ∃ block, (g.call ⟨[]⟩ "k").argumentBlock [0x1000, 0x1000] = .ok block ∧
          ∀ p (hp : p < 6), block[p]? = some (mixedArguments[p].word 0x1000) := by
  have htaken : ∀ a ∈ mixedArguments, a.isTaken := by decide
  have hshort : mixedArguments.length ≤ 2 ^ 63 := by decide
  obtain ⟨g, hg, -, harity, block, hblock, -, hwords⟩ :=
    argumentBlock_marshal htaken hshort (fun _ ↦ 0x1000) {} ⟨"record", fun _ ↦ pure ()⟩
      ({} : ToolConfig).toolchain ⟨⟨""⟩, ⟨[]⟩, .tpu, "k"⟩
  exact ⟨htaken, hshort, g, hg, harity, block, hblock, hwords⟩

end KernelForge
