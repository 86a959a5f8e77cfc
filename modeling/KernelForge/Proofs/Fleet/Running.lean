import KernelForge.Proofs.Kernel.Calls
import KernelForge.Proofs.Kernel.Operating

/-!
# Fleets of kernels

A fleet is any number of kernels in one world. It moves when one of them is operated, or when
something happens elsewhere in the world. What is told of a run is told of its moves: a property
that every move keeps holds at the end (`Along.run`), and what is counted along a run is bounded by
what pays for it (`tally_le`).
-/

namespace KernelForge

/-- Kernels in one world, each with its life. -/
structure Fleet (ι : Type) where
  /-- The life of each kernel. -/
  lives : ι → Lifecycle
  /-- The world. -/
  world : World

/-- How a fleet moves. -/
inductive Move (ι : Type) where
  /-- A kernel is operated. -/
  | operate (i : ι) (op : Operation)
  /-- Something happens elsewhere, and this is the world afterwards. -/
  | elsewhere (world : World)

/-- A preparation: of which kernel, in which life, and on which host. -/
structure Preparation (ι : Type) where
  /-- The kernel. -/
  who : ι
  /-- Its life before. -/
  life : Lifecycle
  /-- The host before. -/
  host : Host

namespace Preparation

variable {ι : Type} (kernels : ι → Kernel) (P : Preparation ι)

/-- What the preparation answers. -/
def answer : Except KernelError Prepared := ((kernels P.who).prepare.runFrom (P.life, P.host)).1

/-- The life of the kernel afterwards. -/
def lifeAfter : Lifecycle := ((kernels P.who).prepare.runFrom (P.life, P.host)).2.1

/-- The host afterwards. -/
def hostAfter : Host := ((kernels P.who).prepare.runFrom (P.life, P.host)).2.2

/-- Whether a compilation was made and its artifact published. -/
def publishes : Bool :=
  (P.answer kernels).isOk && decide (P.host.compilations < (P.hostAfter kernels).compilations)

/-- Whether the artifact that was prepared before is missing. -/
def findsMissing : Bool :=
  P.life.failure.isNone && P.life.prepared.any fun p ↦ !P.host.files.isFile p.record.path

end Preparation

namespace Fleet

variable {ι : Type} [DecidableEq ι] (kernels : ι → Kernel)

/-- The fleet after a move. -/
def step (F : Fleet ι) : Move ι → Fleet ι
  | .operate i op =>
    let (l, world) := op.after (kernels i) (F.lives i, F.world)
    ⟨fun j ↦ if j = i then l else F.lives j, world⟩
  | .elsewhere world => { F with world }

/-- The fleet after some moves. -/
def run (F : Fleet ι) (moves : List (Move ι)) : Fleet ι := moves.foldl (step kernels) F

/-- The preparation that a move brings about, if it does. -/
def preparation? (F : Fleet ι) : Move ι → Option (Preparation ι)
  | .operate i op => (op.preparesOn (kernels i) F.world).map fun h ↦ ⟨i, F.lives i, h⟩
  | .elsewhere _ => none

/-- Every move of a run is allowed where it is made. -/
def Along (allowed : Fleet ι → Move ι → Prop) (F : Fleet ι) : List (Move ι) → Prop
  | [] => True
  | m :: moves => allowed F m ∧ (F.step kernels m).Along allowed moves

/-- What is counted along a run. -/
def tally (count : Fleet ι → Move ι → Nat) (F : Fleet ι) : List (Move ι) → Nat
  | [] => 0
  | m :: moves => count F m + (F.step kernels m).tally count moves

variable {kernels} {allowed : Fleet ι → Move ι → Prop} {F : Fleet ι} {moves : List (Move ι)}

theorem run_append (F : Fleet ι) (moves more : List (Move ι)) :
    F.run kernels (moves ++ more) = (F.run kernels moves).run kernels more := List.foldl_append

theorem along_append {more : List (Move ι)} : F.Along kernels allowed (moves ++ more) ↔
    F.Along kernels allowed moves ∧ (F.run kernels moves).Along kernels allowed more := by
  induction moves generalizing F with
  | nil => simp [Along, run]
  | cons m moves ih =>
    rw [List.cons_append, Along, Along, ih, and_assoc]
    rfl

/-- What every allowed move keeps holds at the end of a run. -/
theorem Along.run {P : Fleet ι → Prop} (h : F.Along kernels allowed moves)
    (hstep : ∀ F m, P F → allowed F m → P (F.step kernels m)) (hP : P F) :
    P (F.run kernels moves) := by
  induction moves generalizing F with
  | nil => exact hP
  | cons m moves ih => exact ih h.2 (hstep F m hP h.1)

/-- What is counted along a run is bounded by what pays for it: what is counted otherwise, and a
credit at the beginning. -/
theorem tally_le {count pays : Fleet ι → Move ι → Nat} (credit : Fleet ι → Nat)
    (hstep : ∀ F m, count F m + credit (F.step kernels m) ≤ pays F m + credit F) (F : Fleet ι)
    (moves : List (Move ι)) :
    F.tally kernels count moves ≤ F.tally kernels pays moves + credit F := by
  induction moves generalizing F with
  | nil => exact Nat.zero_le _
  | cons m moves ih =>
    have hfirst := hstep F m
    have hrest := ih (F.step kernels m)
    rw [tally, tally]
    omega

/-- A kernel that is operated is prepared once, or not at all. -/
theorem step_operate {R : Host → Host → Prop} {i : ι} (hR : (kernels i).Abides R) (F : Fleet ι)
    (op : Operation) :
    (F.preparation? kernels (.operate i op) = none ∧
        (F.step kernels (.operate i op)).lives = F.lives ∧
        R F.world.host (F.step kernels (.operate i op)).world.host) ∨
      ∃ P events, F.preparation? kernels (.operate i op) = some P ∧ P.who = i ∧
        P.life = F.lives i ∧ P.host = { F.world.host with events } ∧
        (∀ j, (F.step kernels (.operate i op)).lives j =
          if j = i then P.lifeAfter kernels else F.lives j) ∧
        R (P.hostAfter kernels) (F.step kernels (.operate i op)).world.host := by
  cases hop : op.preparesOn (kernels i) F.world with
  | none =>
    left
    obtain ⟨hlife, hhost⟩ := Operation.after_of_not_prepares hR (l := F.lives i) hop
    refine ⟨by rw [preparation?, hop]; rfl, ?_, hhost⟩
    funext j
    by_cases hj : j = i
    · rw [hj, ← hlife]
      simp [step]
    · simp [step, hj]
  | some h =>
    right
    obtain ⟨⟨events, hevents⟩, hlife, hhost⟩ :=
      Operation.after_of_prepares hR (l := F.lives i) hop
    refine ⟨⟨i, F.lives i, h⟩, events, by rw [preparation?, hop]; rfl, rfl, rfl, hevents,
      fun j ↦ ?_, hhost⟩
    simp only [step, Preparation.lifeAfter, ← hlife]

/-- A preparation begins with the life of its kernel, and with the files of the world. -/
theorem preparation_eq {m : Move ι} {P : Preparation ι} (hP : F.preparation? kernels m = some P) :
    P.life = F.lives P.who ∧ P.host.files = F.world.host.files := by
  cases m with
  | elsewhere world => cases hP
  | operate i op =>
    rcases step_operate (kernels i).abides_true F op with
      ⟨hnone, -, -⟩ | ⟨P', events, hP', hwho, hlife, hhost, -, -⟩
    · rw [hnone] at hP
      cases hP
    · rw [hP', Option.some.injEq] at hP
      subst hP
      exact ⟨by rw [hlife, hwho], by rw [hhost]⟩

end Fleet

end KernelForge
