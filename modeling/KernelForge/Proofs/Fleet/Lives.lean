import KernelForge.Proofs.Fleet.Running
import KernelForge.Proofs.Kernel.FailedPreparation
import KernelForge.Proofs.Kernel.Lives

/-!
# The lives of the kernels of a fleet

Whatever kernels are asked for and whatever happens elsewhere, a kernel that was fresh at first has
not been prepared yet, is ready or has failed after any run. A failure is the end of it: the
operation that brought it about answered with an error, and from then on every operation is refused
for that reason and does nothing. Main statement: `lifecycle_terminal`.
-/

namespace KernelForge.Fleet

variable {ι : Type} [DecidableEq ι] (kernels : ι → Kernel) {F : Fleet ι} {i : ι}

/-- A move changes the life of a kernel only where that kernel is operated. -/
theorem step_life (F : Fleet ι) (i : ι) (m : Move ι) :
    (F.step kernels m).lives i = F.lives i ∨ ∃ op, m = .operate i op ∧
      (F.step kernels m).lives i = (op.after (kernels i) (F.lives i, F.world)).1 := by
  cases m with
  | elsewhere world => exact Or.inl rfl
  | operate j op =>
    by_cases hj : i = j
    · subst hj
      exact Or.inr ⟨op, rfl, if_pos rfl⟩
    · exact Or.inl (if_neg hj)

theorem step_life_sound (hF : (F.lives i).Sound) (m : Move ι) :
    ((F.step kernels m).lives i).Sound := by
  rcases step_life kernels F i m with hsame | ⟨op, -, hafter⟩
  · rwa [hsame]
  · rw [hafter]
    exact Operation.after_sound hF op

/-- After a run, a life is as between operations if it was before. -/
theorem run_life_sound (hF : (F.lives i).Sound) (moves : List (Move ι)) :
    ((F.run kernels moves).lives i).Sound := by
  induction moves generalizing F with
  | nil => exact hF
  | cons m moves ih => exact ih (step_life_sound kernels hF m)

theorem step_life_failed (hF : (F.lives i).Sound) {reason : String}
    (hreason : (F.lives i).failure = some reason) (m : Move ι) :
    (F.step kernels m).lives i = F.lives i := by
  rcases step_life kernels F i m with hsame | ⟨op, -, hafter⟩
  · exact hsame
  · rw [hafter, (Operation.of_failed hF hreason op).2]

/-- A kernel that has failed has the same life after any run. -/
theorem run_life_failed (hF : (F.lives i).Sound) {reason : String}
    (hreason : (F.lives i).failure = some reason) (moves : List (Move ι)) :
    (F.run kernels moves).lives i = F.lives i := by
  induction moves generalizing F with
  | nil => rfl
  | cons m moves ih =>
    have hstep := step_life_failed kernels hF hreason m
    exact (ih (hstep ▸ hF) (hstep ▸ hreason)).trans hstep

/-- A failure comes from one operation of the run, which answered with the error. -/
theorem run_life_fails (hF : (F.lives i).Sound) (hnone : (F.lives i).failure = none)
    {moves : List (Move ι)} {reason : String}
    (hreason : ((F.run kernels moves).lives i).failure = some reason) :
    ∃ earlier op later error, moves = earlier ++ .operate i op :: later ∧
      ((F.run kernels earlier).lives i).failure = none ∧
      op.answer (kernels i) ((F.run kernels earlier).lives i, (F.run kernels earlier).world) =
        .error error ∧ error.message = reason := by
  induction moves generalizing F with
  | nil =>
    rw [show F.run kernels [] = F from rfl, hnone] at hreason
    cases hreason
  | cons m moves ih =>
    have hstep := step_life_sound kernels hF m
    cases hfirst : ((F.step kernels m).lives i).failure with
    | none =>
      obtain ⟨earlier, op, later, error, rfl, hbefore, hanswer, hmessage⟩ :=
        ih hstep hfirst hreason
      exact ⟨m :: earlier, op, later, error, rfl, hbefore, hanswer, hmessage⟩
    | some first =>
      -- the kernel fails with the first move, and stays so for the rest of the run
      have hrest : ((F.run kernels (m :: moves)).lives i).failure = some first :=
        (congrArg Lifecycle.failure (run_life_failed kernels hstep hfirst moves)).trans hfirst
      obtain rfl : first = reason := Option.some.inj (hrest.symm.trans hreason)
      rcases step_life kernels F i m with hsame | ⟨op, rfl, hafter⟩
      · rw [hsame, hnone] at hfirst
        cases hfirst
      · obtain ⟨error, hanswer, hmessage⟩ := Operation.fails hnone (hafter ▸ hfirst)
        exact ⟨[], op, moves, error, rfl, hnone, hanswer, hmessage⟩

/-- After any run, a kernel that was fresh at first has not been prepared yet, is ready or has
failed. If it has failed, then with one operation, which answered with an error; and from then on,
whatever goes on, its life stays the same, and every operation is refused with the text of that
error and does nothing but tell a grid or make inputs, so that it neither changes a file nor calls
a tool. -/
theorem lifecycle_terminal (F : Fleet ι) (i : ι) (hfresh : F.lives i = {})
    (moves : List (Move ι)) :
    ((F.run kernels moves).lives i).Sound ∧
      (((F.run kernels moves).lives i).stage = .failed →
        ∃ earlier op later error, moves = earlier ++ .operate i op :: later ∧
          ((F.run kernels earlier).lives i).stage ≠ .failed ∧
          op.answer (kernels i)
            ((F.run kernels earlier).lives i, (F.run kernels earlier).world) = .error error ∧
          ((F.run kernels moves).lives i).failure = some error.message ∧
          ∀ (more : List (Move ι)) (later : Operation),
            let G := F.run kernels (moves ++ more)
            G.lives i = (F.run kernels moves).lives i ∧
              later.answer (kernels i) (G.lives i, G.world) =
                .error (later.refusal (kernels i) error.message G.world) ∧
              later.after (kernels i) (G.lives i, G.world) =
                (G.lives i, later.outset (kernels i) G.world) ∧
              ∃ events, (later.outset (kernels i) G.world).host =
                { G.world.host with events }) := by
  have hF : (F.lives i).Sound := hfresh ▸ Lifecycle.sound_fresh
  have hsound := run_life_sound kernels hF moves
  refine ⟨hsound, fun hfailed ↦ ?_⟩
  obtain ⟨reason, hreason⟩ := Option.isSome_iff_exists.mp (hsound.failed.mp hfailed)
  obtain ⟨earlier, op, later, error, hmoves, hbefore, hanswer, rfl⟩ :=
    run_life_fails kernels hF (by rw [hfresh]) hreason
  have hearlier : ((F.run kernels earlier).lives i).stage ≠ .failed := by
    intro hstage
    have := (run_life_sound kernels hF earlier).failed.mp hstage
    simp [hbefore] at this
  refine ⟨earlier, op, later, error, hmoves, hearlier, hanswer, hreason, fun more next ↦ ?_⟩
  have hstays := run_life_failed kernels hsound hreason more
  rw [← run_append] at hstays
  obtain ⟨hrefused, hafter⟩ := Operation.of_failed (hstays ▸ hsound) (hstays ▸ hreason) next
  exact ⟨hstays, hrefused, hafter, next.outset_host⟩

/-! ### A kernel that cannot be compiled -/

/-- A fresh kernel whose compiler fails, in a world with the empty directory of its store. -/
def failingFleet : Fleet Unit := ⟨fun _ ↦ {}, { host := Kernel.sampleHost [] }⟩

/-- The fleet after the kernel was prepared. -/
def failedFleet : Fleet Unit := failingFleet.run (fun _ ↦ Kernel.failing) [.operate () .prepare]

theorem stage_failedFleet : (failedFleet.lives ()).stage = .failed := by
  have hprepares : Operation.prepare.preparesOn Kernel.failing failingFleet.world =
      some (Kernel.sampleHost []) := rfl
  have hlife : failedFleet.lives () =
      (Kernel.failing.prepare.runFrom ({}, Kernel.sampleHost [])).2.1 :=
    Operation.after_life_of_some (l := {}) hprepares
  have hsound : (failedFleet.lives ()).Sound := hlife ▸ Kernel.prepare_sound Lifecycle.sound_fresh
  have hfails := Kernel.prepare_fails (k := Kernel.failing) (l := {}) (h := Kernel.sampleHost [])
    rfl
  obtain ⟨error, herror⟩ := Act.exists_error_of_isOk_eq_false Kernel.prepare_failing
  rw [herror] at hfails
  rw [hsound.failed, hlife, hfails]
  rfl

/-- The preparation fails, and the kernel is neither called nor invoked afterwards. -/
theorem lifecycle_terminal_failing : failingFleet.lives () = {} ∧
    ∃ error, Operation.prepare.answer Kernel.failing ({}, failingFleet.world) = .error error ∧
      (Operation.call []).answer Kernel.failing (failedFleet.lives (), failedFleet.world) =
        .error (.preparationFailed "k" error.message) ∧
      (Operation.invoke []).answer Kernel.failing (failedFleet.lives (), failedFleet.world) =
        .error (.notPrepared "k") ∧
      (Operation.call []).after Kernel.failing (failedFleet.lives (), failedFleet.world) =
        (failedFleet.lives (), failedFleet.world) := by
  obtain ⟨-, hterminal⟩ := lifecycle_terminal (fun _ ↦ Kernel.failing) failingFleet () rfl
    [.operate () .prepare]
  obtain ⟨earlier, op, later, error, hmoves, -, hanswer, -, hrefused⟩ := hterminal stage_failedFleet
  have hearlier : earlier = [] ∧ op = .prepare := by
    cases earlier with
    | nil =>
      rw [List.nil_append, List.cons.injEq, Move.operate.injEq] at hmoves
      exact ⟨rfl, hmoves.1.2.symm⟩
    | cons m earlier =>
      have := congrArg List.length hmoves
      simp at this
  obtain ⟨rfl, rfl⟩ := hearlier
  refine ⟨rfl, error, hanswer, ?_⟩
  obtain ⟨-, hcall, hsame, -⟩ := hrefused [] (.call [])
  obtain ⟨-, hinvoke, -, -⟩ := hrefused [] (.invoke [])
  exact ⟨hcall, hinvoke, hsame⟩

end KernelForge.Fleet
