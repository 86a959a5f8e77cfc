import KernelForge.Kernel.Invoke
import KernelForge.Proofs.Act
import KernelForge.Proofs.Argument.Reassembly

/-!
# Invoking a kernel

What one invocation can do: it is refused, for the first of three reasons that applies, and then
nothing is done; or it executes the prepared artifact once and hands out the tensors among its
arguments that are results. Main statement: `invokeIn_invoking`, which names every case.
-/

namespace KernelForge

/-! ### Lists of answers -/

section Lists

variable {α β ε : Type} {f : α → Except ε β}

/-- All answers are there where each one is. -/
theorem mapM_eq_ok_iff {xs : List α} {ys : List β} :
    xs.mapM f = .ok ys ↔ List.Forall₂ (fun x y ↦ f x = .ok y) xs ys := by
  induction xs generalizing ys with
  | nil => cases ys <;> simp [pure, Except.pure]
  | cons x xs ih =>
    rw [List.mapM_cons]
    cases hx : f x with
    | error e => cases ys <;> simp [bind, Except.bind, hx]
    | ok y =>
      cases hxs : xs.mapM f with
      | error e => cases ys <;> simp [bind, Except.bind, ← ih, hx, hxs]
      | ok rest => cases ys <;> simp [bind, Except.bind, pure, Except.pure, ← ih, hx, hxs]

/-- Otherwise the first one that is not there is the failure. -/
theorem mapM_eq_error_iff {xs : List α} {e : ε} :
    xs.mapM f = .error e ↔ ∃ earlier x later, xs = earlier ++ x :: later ∧
      (∀ y ∈ earlier, ∃ z, f y = .ok z) ∧ f x = .error e := by
  induction xs with
  | nil => simp [pure, Except.pure]
  | cons x xs ih =>
    rw [List.mapM_cons]
    cases hx : f x with
    | error e' =>
      constructor
      · rintro h
        cases h
        exact ⟨[], x, xs, rfl, by simp, hx⟩
      · rintro ⟨earlier, y, later, hsplit, hearlier, hy⟩
        cases earlier with
        | nil =>
          obtain ⟨rfl, -⟩ := List.cons.inj hsplit
          cases hx.symm.trans hy
          rfl
        | cons first earlier =>
          obtain ⟨rfl, -⟩ := List.cons.inj hsplit
          obtain ⟨z, hz⟩ := hearlier x (by simp)
          cases hx.symm.trans hz
    | ok y =>
      have hrest : (do let rest ← xs.mapM f; pure (y :: rest) : Except ε (List β)) = .error e ↔
          xs.mapM f = .error e := by
        cases xs.mapM f <;> simp [bind, Except.bind, pure, Except.pure]
      refine hrest.trans (ih.trans ⟨?_, ?_⟩)
      · rintro ⟨earlier, x', later, rfl, hearlier, hx'⟩
        refine ⟨x :: earlier, x', later, rfl, ?_, hx'⟩
        exact List.forall_mem_cons.mpr ⟨⟨y, hx⟩, hearlier⟩
      · rintro ⟨earlier, x', later, hsplit, hearlier, hx'⟩
        cases earlier with
        | nil =>
          obtain ⟨rfl, -⟩ := List.cons.inj hsplit
          cases hx.symm.trans hx'
        | cons first earlier =>
          obtain ⟨rfl, rfl⟩ := List.cons.inj hsplit
          exact ⟨earlier, x', later, rfl, fun z hz ↦ hearlier z (by simp [hz]), hx'⟩

end Lists

/-! ### Results among the arguments -/

/-- The first result index, in the order of `results`, at which no tensor stands among the
arguments. -/
structure FirstUnfit (args : List Argument) (results : List Nat) (index : Nat) : Prop where
  /-- All before it in the list are indices of tensors. -/
  stands : ∃ earlier later, results = earlier ++ index :: later ∧
    ∀ i ∈ earlier, ∃ t, args[i]? = some (.tensor t)
  /-- It is past the end, or something else stands there. -/
  unfit : ∀ t, args[index]? ≠ some (.tensor t)

/-- The tensors that stand among the arguments at the result indices, in their order. -/
def Selected (args : List Argument) (results : List Nat) (outputs : List Tensor) : Prop :=
  List.Forall₂ (fun index t ↦ args[index]? = some (.tensor t)) results outputs

namespace Selected

variable {args : List Argument} {results : List Nat} {outputs outputs' : List Tensor}

/-- A tensor stands at every result index. -/
theorem tensor (h : Selected args results outputs) :
    ∀ index ∈ results, ∃ t, args[index]? = some (.tensor t) := by
  induction h with
  | nil => exact fun _ hindex ↦ absurd hindex List.not_mem_nil
  | cons ht _ ih => exact List.forall_mem_cons.mpr ⟨⟨_, ht⟩, ih⟩

theorem unique (h : Selected args results outputs) (h' : Selected args results outputs') :
    outputs = outputs' := by
  refine List.right_unique_forall₂' (fun _ t t' ht ht' ↦ ?_) h h'
  cases ht.symm.trans ht'
  rfl

end Selected

namespace FirstUnfit

variable {args : List Argument} {results : List Nat} {index index' : Nat}

theorem not_selected (h : FirstUnfit args results index) (outputs : List Tensor) :
    ¬ Selected args results outputs := by
  intro hselected
  obtain ⟨earlier, later, rfl, -⟩ := h.stands
  obtain ⟨t, ht⟩ := hselected.tensor index (by simp)
  exact h.unfit t ht

theorem unique (h : FirstUnfit args results index) (h' : FirstUnfit args results index') :
    index = index' := by
  obtain ⟨earlier, later, rfl, hearlier⟩ := h.stands
  obtain ⟨earlier', later', he, hearlier'⟩ := h'.stands
  rcases List.append_eq_append_iff.mp he with ⟨between, rfl, hrest⟩ | ⟨between, rfl, hrest⟩
  · cases between with
    | nil => exact (List.cons.inj hrest).1
    | cons i between =>
      obtain ⟨t, ht⟩ := hearlier' index (by simp [(List.cons.inj hrest).1])
      exact absurd ht (h.unfit t)
  · cases between with
    | nil => exact (List.cons.inj hrest).1.symm
    | cons i between =>
      obtain ⟨t, ht⟩ := hearlier index' (by simp [(List.cons.inj hrest).1])
      exact absurd ht (h'.unfit t)

end FirstUnfit

namespace Kernel

/-- How invoking `k` with the life `l` in the world `w` can end. -/
inductive Invoking (k : Kernel) (l : Lifecycle) (w : World) (args : List Argument) :
    Except KernelError Invocation × (Lifecycle × World) → Prop where
  /-- The kernel is not prepared. -/
  | unprepared (prepared : l.prepared = none) :
      Invoking k l w args (.error (.notPrepared k.entry), (l, w))
  /-- An argument is a text or a missing value, and this is the first. -/
  | refused {p : Prepared} {position : Nat} {a : Argument} (prepared : l.prepared = some p)
      (first : Argument.FirstRefused args position a) :
      Invoking k l w args (.error (.unsupportedArgument position a.kind), (l, w))
  /-- A result is no tensor, and this is the first. -/
  | unfit {p : Prepared} {index : Nat} (prepared : l.prepared = some p)
      (taken : ∀ a ∈ args, a.isTaken) (first : FirstUnfit args k.results index) :
      Invoking k l w args (.error (.outputNotTensor index), (l, w))
  /-- The prepared artifact is executed, from a world in which that is told. -/
  | executed {p : Prepared} {groups : ArgumentGroups} {outputs : List Tensor}
      {result : Except KernelError Outcome} {w' : World} (prepared : l.prepared = some p)
      (taken : ∀ a ∈ args, a.isTaken) (marshal : marshal args = .ok groups)
      (selected : Selected args k.results outputs)
      (execute : (k.adapter.execute k.toolchain p.record groups).runFrom { w with
        host := { w.host with events := ⟨.debug, "executing kernel",
          k.executionFields p.record groups⟩ :: w.host.events } } = (result, w')) :
      Invoking k l w args (result.map (⟨·, outputs⟩), (l, w'))

namespace Invoking

variable {k : Kernel} {l : Lifecycle} {w : World} {args : List Argument} {p : Prepared}
  {r : Except KernelError Invocation × (Lifecycle × World)}

/-- A prepared kernel refuses the first argument that is not taken. -/
theorem eq_refused (h : Invoking k l w args r) (hp : l.prepared = some p) {position : Nat}
    {a : Argument} (hfirst : Argument.FirstRefused args position a) :
    r = (.error (.unsupportedArgument position a.kind), (l, w)) := by
  cases h with
  | unprepared prepared => cases hp.symm.trans prepared
  | refused _ first =>
    obtain ⟨rfl, rfl⟩ := first.unique hfirst
    rfl
  | unfit _ taken => exact absurd taken hfirst.not_taken
  | executed _ taken => exact absurd taken hfirst.not_taken

/-- With arguments that are taken, it refuses the first result that is no tensor. -/
theorem eq_unfit (h : Invoking k l w args r) (hp : l.prepared = some p)
    (htaken : ∀ a ∈ args, a.isTaken) {index : Nat} (hfirst : FirstUnfit args k.results index) :
    r = (.error (.outputNotTensor index), (l, w)) := by
  cases h with
  | unprepared prepared => cases hp.symm.trans prepared
  | refused _ first => exact absurd htaken first.not_taken
  | unfit _ _ first => rw [first.unique hfirst]
  | executed _ _ _ selected => exact absurd selected (hfirst.not_selected _)

/-- With results that are tensors, it executes the artifact, whatever comes of that. -/
theorem eq_executed (h : Invoking k l w args r) (hp : l.prepared = some p)
    (htaken : ∀ a ∈ args, a.isTaken) {outputs : List Tensor}
    (hselected : Selected args k.results outputs) :
    ∃ groups result w', marshal args = .ok groups ∧
      (k.adapter.execute k.toolchain p.record groups).runFrom { w with
        host := { w.host with events := ⟨.debug, "executing kernel",
          k.executionFields p.record groups⟩ :: w.host.events } } = (result, w') ∧
      r = (result.map (⟨·, outputs⟩), (l, w')) := by
  cases h with
  | unprepared prepared => cases hp.symm.trans prepared
  | refused _ first => exact absurd htaken first.not_taken
  | unfit _ _ first => exact absurd hselected (first.not_selected _)
  | executed prepared _ marshal selected execute =>
    obtain rfl := Option.some.inj (prepared.symm.trans hp)
    obtain rfl := selected.unique hselected
    exact ⟨_, _, _, marshal, execute, rfl⟩

end Invoking

/-- An output is the tensor that stands at its index. -/
theorem output_eq_ok_iff {args : List Argument} {index : Nat} {t : Tensor} :
    output args index = .ok t ↔ args[index]? = some (.tensor t) := by
  rw [output]
  rcases args[index]? with _ | (_ | _ | _ | _ | _ | _) <;> simp [Argument.tensor?]

/-- Where no tensor stands, the output is refused. -/
theorem output_eq_error_iff {args : List Argument} {index : Nat} {error : KernelError} :
    output args index = .error error ↔
      (∀ t, args[index]? ≠ some (.tensor t)) ∧ error = .outputNotTensor index := by
  rw [output]
  rcases args[index]? with _ | (_ | _ | _ | _ | _ | _) <;> simp [Argument.tensor?, eq_comm]

/-- The results are chosen among the arguments, or the first one that is no tensor is refused. -/
theorem outputs_cases (k : Kernel) (args : List Argument) :
    (∃ outputs, k.outputs args = .ok outputs ∧ Selected args k.results outputs) ∨
      ∃ index, k.outputs args = .error (.outputNotTensor index) ∧
        FirstUnfit args k.results index := by
  cases houtputs : k.outputs args with
  | ok outputs =>
    refine .inl ⟨outputs, rfl, ?_⟩
    exact (mapM_eq_ok_iff.mp houtputs).imp fun _ _ ↦ output_eq_ok_iff.mp
  | error error =>
    obtain ⟨earlier, index, later, hsplit, hearlier, hindex⟩ := mapM_eq_error_iff.mp houtputs
    obtain ⟨hunfit, rfl⟩ := output_eq_error_iff.mp hindex
    simp only [output_eq_ok_iff] at hearlier
    exact .inr ⟨index, rfl, ⟨earlier, later, hsplit, hearlier⟩, hunfit⟩

/-- Every invocation is one of the cases. -/
theorem invokeIn_invoking (k : Kernel) (l : Lifecycle) (w : World) (args : List Argument) :
    Invoking k l w args ((k.invokeIn args).runFrom (l, w)) := by
  rw [invokeIn, Act.runFrom_bind, Act.runFrom_reads]
  simp only [Act.run_within, invoke]
  cases hprepared : l.prepared with
  | none => exact .unprepared hprepared
  | some p =>
    simp only [Act.runFrom_bind, Act.runFrom_ofExcept]
    rcases Argument.firstRefused_cases args with htaken | ⟨position, a, hfirst⟩
    · rw [marshal_eq_ok htaken]
      simp only
      rcases k.outputs_cases args with ⟨outputs, houtputs, hselected⟩ | ⟨index, hindex, hfirst⟩
      · rw [houtputs]
        simp only [World.onHost, Act.run_within, Host.tell, Act.runFrom_changes]
        rcases hexecute : (k.adapter.execute k.toolchain p.record (.ofArguments 0 args)).runFrom _
          with ⟨error | outcome, w'⟩
        · exact .executed hprepared htaken (marshal_eq_ok htaken) hselected hexecute
        · exact .executed hprepared htaken (marshal_eq_ok htaken) hselected hexecute
      · rw [hindex]
        exact .unfit hprepared htaken hfirst
    · rw [marshal_eq_error hfirst]
      exact .refused hprepared hfirst

end Kernel

end KernelForge
