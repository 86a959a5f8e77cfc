import KernelForge.Proofs.Kernel.Preparation
import KernelForge.Proofs.Tool.Ledger

/-!
# What a preparation asks of its toolchain

A preparation asks for one compilation at most, and for nothing unless it is pending. It leaves a
life that remembers an artifact or a failure. Nothing is supposed of the toolchain. Main statements:
`prepare_called` and `prepare_remembers`.
-/

namespace KernelForge

/-- From `h` to `h'` some calls were made, one of which was a compilation at most. -/
def Host.Called (h h' : Host) (calls : List ToolCall) : Prop :=
  h'.ledger = calls ++ h.ledger ∧ calls.countP ToolCall.isCompilation ≤ 1

theorem Host.Called.refl (h : Host) : h.Called h [] := ⟨rfl, Nat.zero_le _⟩

variable {t : Toolchain} {h h' : Host}

namespace Adapter

/-- For a booked toolchain, trying a header calls for that alone. -/
theorem HeaderTried.called {a : Adapter} {source header : Path}
    (hh : a.HeaderTried t.booked source header h h') :
    ∃ calls, h'.ledger = calls ++ h.ledger ∧ calls.countP ToolCall.isCompilation = 0 := by
  cases a with
  | tpu config native =>
    obtain ⟨events, rfl⟩ := hh
    exact ⟨[], rfl, rfl⟩
  | rvv config =>
    obtain ⟨request, events, -, -, rfl⟩ := hh
    exact ⟨[_], t.ledger_extractHeader h request, rfl⟩

/-- A build calls for one compilation at most. -/
theorem build_called (a : Adapter) (t : Toolchain) (source output header : Path) (h : Host) :
    ∃ calls, h.Called ((a.build t.booked source output header).runFrom h).2 calls := by
  rcases a.build_cases t.booked source output header h with
    ⟨error, hrun⟩ | ⟨request, h', -, -, -, htried, hrun⟩
  · rw [hrun]
    exact ⟨[], .refl h⟩
  · obtain ⟨calls, hledger, hcount⟩ := htried.called
    rw [hrun]
    refine ⟨_ :: calls, (t.ledger_compile h' request).trans (by rw [hledger, List.cons_append]), ?_⟩
    rw [List.countP_cons, hcount, Nat.zero_add]
    split <;> omega

end Adapter

namespace Kernel

variable {k : Kernel}

/-- Making an artifact fails before the build and changes the files at most, or goes on from the
build to change files and events. -/
theorem make_build (k : Kernel) (s : Store) (r : Resolution) (h : Host) :
    (∃ error f, (k.make s r).runFrom h = (.error error, { h with files := f })) ∨
      ∃ output f f' events, ((k.make s r).runFrom h).2 =
        { ((k.adapter.build k.toolchain r.paths.source output r.paths.header).runFrom
          { h with files := f }).2 with files := f', events } := by
  rw [make, Store.writeSource, Act.runFrom_bind, Store.onFile_run]
  rcases (Act.runFrom _ h.files) with ⟨cause | _, f₁⟩
  · exact Or.inl ⟨_, f₁, rfl⟩
  simp only [Except.mapError]
  rw [Store.publish, Store.openScratch, Act.runFrom_bind, Act.runFrom_bind, Store.onFile_run]
  rcases (Act.runFrom _ f₁) with ⟨cause | scratch, f₂⟩
  · exact Or.inl ⟨_, f₂, rfl⟩
  right
  simp only [Except.mapError, Act.runFrom_pure]
  refine ⟨Store.outputIn scratch r.paths.artifact, f₂, ?_⟩
  rcases Store.publishFrom_cases scratch (Store.outputIn scratch r.paths.artifact)
    r.paths.artifact (k.adapter.build k.toolchain r.paths.source
      (Store.outputIn scratch r.paths.artifact) r.paths.header) { h with files := f₂ } with
    ⟨error, hrun⟩ | ⟨h₂, f₃, events, hbuild, -, hrun⟩
  · exact ⟨_, _, by rw [Store.outputIn] at hrun ⊢; rw [hrun]; rfl⟩
  · exact ⟨_, events, by rw [hbuild]; rw [Store.outputIn] at hrun; rw [hrun]; rfl⟩

/-- Making an artifact calls for one compilation at most. -/
theorem make_called (hk : k.toolchain = t.booked) (s : Store) (r : Resolution) (h : Host) :
    ∃ calls, h.Called ((k.make s r).runFrom h).2 calls := by
  rcases k.make_build s r h with ⟨error, f, hrun⟩ | ⟨output, f, f', events, hrun⟩
  · rw [hrun]
    exact ⟨[], .refl h⟩
  · rw [hrun, hk]
    exact k.adapter.build_called t r.paths.source output r.paths.header { h with files := f }

/-- A preparation calls for one compilation at most, and for nothing unless it is pending. -/
theorem prepare_called (hk : k.toolchain = t.booked) (l : Lifecycle) (h : Host) :
    ∃ calls, h.Called (k.prepare.runFrom (l, h)).2.2 calls ∧
      (calls ≠ [] → IsPending l h.files) := by
  have hpreparing := prepare_preparing k l h
  generalize k.prepare.runFrom (l, h) = result at hpreparing ⊢
  have hnone : ∀ {h' : Host}, h'.ledger = h.ledger →
      ∃ calls, h.Called h' calls ∧ (calls ≠ [] → IsPending l h.files) :=
    fun hledger ↦ ⟨[], ⟨hledger, Nat.zero_le _⟩, fun hne ↦ absurd rfl hne⟩
  have hmade : ∀ {h' : Host} {r : Resolution} {events events' : List Event}
      {answer : Except KernelError Unit}, IsPending l h.files →
      (k.make ⟨k.store⟩ r).runFrom { h with files := k.openedFiles h.files, events } =
        (answer, h') → ∃ calls, h.Called { h' with events := events' } calls ∧
          (calls ≠ [] → IsPending l h.files) := by
    intro h' r events events' answer hpending hmake
    obtain ⟨calls, hcalled⟩ := make_called hk ⟨k.store⟩ r
      { h with files := k.openedFiles h.files, events }
    rw [hmake] at hcalled
    exact ⟨calls, hcalled, fun _ ↦ hpending⟩
  cases hpreparing with
  | refused => exact hnone rfl
  | present => exact hnone rfl
  | unopened => exact hnone rfl
  | cached => exact hnone rfl
  | failed pending isFile paths make => exact hmade pending make
  | compiled pending isFile paths make => exact hmade pending make

/-- Once it was prepared, a kernel remembers an artifact or a failure. -/
theorem prepare_remembers (k : Kernel) (l : Lifecycle) (h : Host) :
    (k.prepare.runFrom (l, h)).2.1.prepared ≠ none ∨
      (k.prepare.runFrom (l, h)).2.1.failure ≠ none := by
  have hpreparing := prepare_preparing k l h
  generalize k.prepare.runFrom (l, h) = result at hpreparing ⊢
  cases hpreparing with
  | refused failure => exact Or.inr (by simp [failure])
  | present failure prepared isFile => exact Or.inl (by simp [prepared])
  | unopened => exact Or.inr (by simp)
  | cached => exact Or.inl (by simp)
  | failed => exact Or.inr (by simp)
  | compiled => exact Or.inl (by simp)

/-! ### A sample that compiles -/

/-- A toolchain that compiles without a fault, and keeps a ledger. -/
def sampleTools : Toolchain := (Toolchain.leaving (utf8 "code") (utf8 "header") none).booked

theorem confined_sampleTools : ∃ t : Toolchain, t.Confined ∧ sampleTools = t.booked :=
  ⟨_, Toolchain.confined_leaving (utf8 "code") (utf8 "header") none, rfl⟩

/-- Whether making a sample went well, how many compilations there are then, and whether the
artifact is there. -/
private def outcome (r : Except KernelError Unit × Host) : Bool × Nat × Bool :=
  (r.1.isOk, r.2.compilations, r.2.files.isFile samplePaths.artifact)

-- neither the text of the source nor that it can be read matters, so they need not be evaluated
private theorem outcome_makeSample (entry : String) (key : StoreKey) (existing : Option Path)
    (events : List Event) :
    outcome (makeSample entry sampleTools [] ⟨key, samplePaths, existing⟩ events) =
      (true, 1, true) := by
  rw [makeSample, Kernel.make]
  generalize (sample entry sampleTools).preparedSource = text
  simp only [sample, sampleTools, Toolchain.booked]
  generalize Files.readText = readText
  cbv

/-- The sample is compiled once, and its artifact is there afterwards. -/
theorem prepare_sampleTools (entry : String) :
    ((sample entry sampleTools).prepare.runFrom ({}, sampleHost [])).1.isOk ∧
      ((sample entry sampleTools).prepare.runFrom ({}, sampleHost [])).2.2.compilations = 1 ∧
      ((sample entry sampleTools).prepare.runFrom ({}, sampleHost [])).2.2.files.isFile
        samplePaths.artifact := by
  obtain ⟨key, existing, events, events', hok, hhost⟩ :=
    prepare_sample entry sampleTools [] (by cbv)
  have hmade := outcome_makeSample entry key existing events
  generalize makeSample entry sampleTools [] ⟨key, samplePaths, existing⟩ events = made
    at hok hhost hmade
  rw [outcome, Prod.mk.injEq, Prod.mk.injEq] at hmade
  obtain ⟨hsucceeded, hcompiled, hfile⟩ := hmade
  rw [hok, hhost]
  exact ⟨hsucceeded, hcompiled, hfile⟩

end Kernel

end KernelForge
