import KernelForge.Proofs.Fleet.Lives
import KernelForge.Proofs.Kernel.Invoking
import KernelForge.Proofs.Target.Executing

/-!
# Invoking the kernels of a fleet

In whatever state a run leaves a kernel, an invocation is one of four cases, and what it executes is
what the last successful preparation of the kernel answered. Main statement: `invoke_gated`.
-/

namespace KernelForge

namespace Kernel

variable {k : Kernel} {l : Lifecycle} {h : Host}

/-- What a kernel keeps in mind after a preparation is what that answered; where it failed, it was
there before. -/
theorem prepare_prepared {p : Prepared} (hp : (k.prepare.runFrom (l, h)).2.1.prepared = some p) :
    (k.prepare.runFrom (l, h)).1 = .ok p ∨
      (k.prepare.runFrom (l, h)).1.isOk = false ∧ l.prepared = some p := by
  have hpreparing := prepare_preparing k l h
  generalize k.prepare.runFrom (l, h) = result at hpreparing hp ⊢
  cases hpreparing with
  | refused => exact .inr ⟨rfl, hp⟩
  | present failure prepared =>
    obtain rfl := Option.some.inj (prepared.symm.trans hp)
    exact .inl rfl
  | unopened => cases hp
  | cached =>
    cases hp
    exact .inl rfl
  | failed => cases hp
  | compiled =>
    cases hp
    exact .inl rfl

end Kernel

namespace Fleet

variable {ι : Type} [DecidableEq ι] (kernels : ι → Kernel) {F : Fleet ι} {i : ι}

/-- The preparations of a run, the first first. -/
def preparations (F : Fleet ι) : List (Move ι) → List (Preparation ι)
  | [] => []
  | m :: moves => (F.preparation? kernels m).toList ++ (F.step kernels m).preparations moves

/-- The preparations of the kernel `i` in a run that succeeded. -/
def successes (F : Fleet ι) (i : ι) (moves : List (Move ι)) : List (Preparation ι) :=
  (F.preparations kernels moves).filter fun P ↦ decide (P.who = i) && (P.answer kernels).isOk

theorem successes_cons (F : Fleet ι) (i : ι) (m : Move ι) (moves : List (Move ι)) :
    F.successes kernels i (m :: moves) =
      F.successes kernels i [m] ++ (F.step kernels m).successes kernels i moves := by
  simp only [successes, preparations, List.append_nil, List.filter_append]

/-- What a kernel keeps in mind after a move is what a preparation with it answered, or what was
there before. -/
theorem step_prepared {m : Move ι} {p : Prepared}
    (hp : ((F.step kernels m).lives i).prepared = some p) :
    (∃ P, F.successes kernels i [m] = [P] ∧ P.answer kernels = .ok p) ∨
      F.successes kernels i [m] = [] ∧ (F.lives i).prepared = some p := by
  cases m with
  | elsewhere world => exact .inr ⟨rfl, hp⟩
  | operate j op =>
    rcases step_operate (kernels j).abides_true F op with
      ⟨hnone, hlives, -⟩ | ⟨P, _, hP, hwho, hlife, -, hlives, -⟩
    · right
      rw [hlives] at hp
      refine ⟨?_, hp⟩
      simp [successes, preparations, hnone]
    · have hall : F.successes kernels i [.operate j op] =
          [P].filter fun P ↦ decide (P.who = i) && (P.answer kernels).isOk := by
        simp [successes, preparations, hP]
      rw [hlives i] at hp
      by_cases hij : i = j
      · subst hij
        rw [if_pos rfl, Preparation.lifeAfter] at hp
        rw [hall]
        subst hwho
        rcases Kernel.prepare_prepared hp with hok | ⟨herror, hbefore⟩
        · left
          refine ⟨P, ?_, hok⟩
          have hanswer : P.answer kernels = .ok p := hok
          simp [hanswer, Except.isOk, Except.toBool]
        · right
          have hanswer : (P.answer kernels).isOk = false := herror
          exact ⟨by simp [hanswer], by rw [← hlife, hbefore]⟩
      · right
        rw [if_neg hij] at hp
        refine ⟨?_, hp⟩
        rw [hall]
        simp [hwho, Ne.symm hij]

/-- What a kernel keeps in mind after a run is what its last successful preparation answered, or
what was there before. -/
theorem run_prepared {moves : List (Move ι)} {p : Prepared}
    (hp : ((F.run kernels moves).lives i).prepared = some p) :
    (∃ P, (F.successes kernels i moves).getLast? = some P ∧ P.answer kernels = .ok p) ∨
      F.successes kernels i moves = [] ∧ (F.lives i).prepared = some p := by
  induction moves generalizing F with
  | nil => exact .inr ⟨rfl, hp⟩
  | cons m moves ih =>
    rw [successes_cons]
    rcases ih hp with ⟨P, hlast, hanswer⟩ | ⟨hrest, hfirst⟩
    · exact .inl ⟨P, by rw [List.getLast?_append, hlast, Option.some_or], hanswer⟩
    · rw [hrest, List.append_nil]
      rcases step_prepared kernels hfirst with ⟨P, hP, hanswer⟩ | ⟨hnone, hbefore⟩
      · exact .inl ⟨P, by rw [hP]; rfl, hanswer⟩
      · exact .inr ⟨hnone, hbefore⟩

/-- In whatever state a run leaves a kernel that was fresh at first, an invocation is one of four
cases. It is refused because the kernel is not prepared, else because of the first argument that is
a text or a missing value, else because of the first result at which no tensor stands; then nothing
at all has changed. Or the artifact that the last successful preparation answered is executed once,
and where the execution succeeds, the tensors at the result indices are handed out. The life of the
kernel is the same in every case. -/
theorem invoke_gated (F : Fleet ι) (i : ι) (hfresh : F.lives i = {}) (moves : List (Move ι))
    (args : List Argument) :
    (kernels i).Invoking ((F.run kernels moves).lives i) (F.run kernels moves).world args
        (((kernels i).invokeIn args).runFrom
          ((F.run kernels moves).lives i, (F.run kernels moves).world)) ∧
      ∀ p, ((F.run kernels moves).lives i).prepared = some p →
        ∃ P, (F.successes kernels i moves).getLast? = some P ∧ P.answer kernels = .ok p := by
  refine ⟨Kernel.invokeIn_invoking _ _ _ _, fun p hp ↦ ?_⟩
  rcases run_prepared kernels hp with hlast | ⟨-, hbefore⟩
  · exact hlast
  · rw [hfresh] at hbefore
    cases hbefore

/-! ### A kernel with a result that is asked for twice -/

/-- A kernel that hands out its second argument, its first and its second again. -/
def doublingKernel : Kernel := { Kernel.sample "k" Kernel.sampleTools with results := [1, 0, 1] }

/-- The kernel, fresh, in a world with the empty directory of its store. -/
def doublingFleet : Fleet Unit := ⟨fun _ ↦ {}, { host := Kernel.sampleHost [] }⟩

/-- The fleet after the kernel was prepared. -/
def doubledFleet : Fleet Unit := doublingFleet.run (fun _ ↦ doublingKernel) [.operate () .prepare]

private theorem prepared_doubledFleet : ∃ p, (doubledFleet.lives ()).prepared = some p := by
  have hlife : doubledFleet.lives () =
      (doublingKernel.prepare.runFrom ({}, Kernel.sampleHost [])).2.1 := rfl
  have hsame : doublingKernel.prepare = (Kernel.sample "k" Kernel.sampleTools).prepare := rfl
  obtain ⟨p, hp⟩ := Act.exists_ok_of_isOk (Kernel.prepare_sampleTools "k").1
  rw [hlife, hsame]
  exact ⟨p, Kernel.prepared_of_ok hp⟩

/-- A tensor of one byte, and one of two. -/
def firstTensor : Tensor := ⟨0, .uint8, [1]⟩

@[inherit_doc firstTensor] def secondTensor : Tensor := ⟨1, .uint8, [2]⟩

/-- The prepared kernel refuses a text, and an integer in the place of a result; with two tensors it
hands out the second, the first and the second again. -/
theorem invoke_gated_doubling :
    doublingFleet.lives () = {} ∧
      (doublingKernel.invokeIn [.tensor firstTensor, .text "x"]).runFrom
          (doubledFleet.lives (), doubledFleet.world) =
        (.error (.unsupportedArgument 1 "str"), (doubledFleet.lives (), doubledFleet.world)) ∧
      (doublingKernel.invokeIn [.tensor firstTensor, .int 3]).runFrom
          (doubledFleet.lives (), doubledFleet.world) =
        (.error (.outputNotTensor 1), (doubledFleet.lives (), doubledFleet.world)) ∧
      ∃ outcome w', (doublingKernel.invokeIn [.tensor firstTensor, .tensor secondTensor]).runFrom
          (doubledFleet.lives (), doubledFleet.world) =
        (.ok ⟨outcome, [secondTensor, firstTensor, secondTensor]⟩,
          (doubledFleet.lives (), w')) := by
  obtain ⟨p, hp⟩ := prepared_doubledFleet
  have hinvoking : ∀ args, doublingKernel.Invoking (doubledFleet.lives ()) doubledFleet.world args
      ((doublingKernel.invokeIn args).runFrom (doubledFleet.lives (), doubledFleet.world)) :=
    fun args ↦ (invoke_gated (fun _ ↦ doublingKernel) doublingFleet () rfl
      [.operate () .prepare] args).1
  refine ⟨rfl, ?_, ?_, ?_⟩
  · have hfirst : Argument.FirstRefused [.tensor firstTensor, .text "x"] 1 (.text "x") := by
      refine ⟨rfl, rfl, fun q b hq hb ↦ ?_⟩
      obtain rfl := Nat.lt_one_iff.mp hq
      cases hb
      rfl
    exact (hinvoking _).eq_refused hp hfirst
  · have hfirst : FirstUnfit [.tensor firstTensor, .int 3] doublingKernel.results 1 :=
      ⟨⟨[], [0, 1], rfl, by simp⟩, fun t ht ↦ by cases ht⟩
    exact (hinvoking _).eq_unfit hp (by decide) hfirst
  · have hselected : Selected [.tensor firstTensor, .tensor secondTensor] doublingKernel.results
        [secondTensor, firstTensor, secondTensor] := .cons rfl (.cons rfl (.cons rfl .nil))
    obtain ⟨groups, result, w', -, hexecute, hr⟩ :=
      (hinvoking _).eq_executed hp (by decide) hselected
    obtain ⟨outcome, events, events', hrun, -⟩ :=
      Adapter.execute_rvv {} Kernel.sampleTools p.record groups _
    rw [show doublingKernel.adapter = .rvv {} from rfl,
      show doublingKernel.toolchain = Kernel.sampleTools from rfl, hrun] at hexecute
    cases hexecute
    exact ⟨outcome, _, hr⟩

end Fleet

end KernelForge
