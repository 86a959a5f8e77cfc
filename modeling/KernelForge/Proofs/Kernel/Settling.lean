import KernelForge.Proofs.Kernel.Calls
import KernelForge.Proofs.Store.Settled

/-!
# Preparations that share a store

While the toolchain is confined, a preparation takes nothing away that stood, and the artifact that
it makes is settled. Once an artifact is settled, a preparation finds it or cannot write its source,
and asks for nothing. Main statements: `prepare_evolves`, `prepare_settles` and
`prepare_of_settled`.
-/

namespace KernelForge.Kernel

open Files

variable {k : Kernel} {t : Toolchain} {l : Lifecycle} {h : Host}

theorem openedFiles_evolves (k : Kernel) {f : Files} (hf : f.WellFormed) :
    f.Evolves (k.openedFiles f) := (createAll_grows hf _).evolves

/-- Making an artifact takes nothing away. -/
theorem make_evolves (ht : k.toolchain.Confined) (hf : h.files.WellFormed) {r : Resolution}
    (hr : r.paths = k.paths) : h.files.Evolves ((k.make ⟨k.store⟩ r).runFrom h).2.files := by
  have hmaking := make_making ht hf hr
  generalize (k.make ⟨k.store⟩ r).runFrom h = result at hmaking ⊢
  cases hmaking with
  | unwritten reaches =>
    exact ⟨reaches.wellFormed, reaches.here, .of_node? fun q n hn ↦ (reaches.shows q).trans hn⟩
  | unpublished written _ wellFormed here keeps _ =>
    exact ⟨wellFormed, here, written.keeps.trans keeps⟩
  | published written _ _ _ _ _ _ _ _ _ _ published =>
    exact ⟨published.wellFormed, published.here.trans written.here,
      written.keeps.trans published.keeps⟩

/-- A preparation takes nothing away. -/
theorem prepare_evolves (ht : k.toolchain.Confined) (l : Lifecycle) (hf : h.files.WellFormed) :
    h.files.Evolves (k.prepare.runFrom (l, h)).2.2.files := by
  have hopened := k.openedFiles_evolves hf
  have hmade : ∀ {r : Resolution} {events : List Event} {answer : Except KernelError Unit}
      {h' : Host}, r.paths = k.paths →
      (k.make ⟨k.store⟩ r).runFrom { h with files := k.openedFiles h.files, events } =
        (answer, h') → h.files.Evolves h'.files := by
    intro r events answer h' hr hmake
    have hmade := make_evolves ht (h := { h with files := k.openedFiles h.files, events })
      hopened.wellFormed hr
    rw [hmake] at hmade
    exact hopened.trans hmade
  have hpreparing := prepare_preparing k l h
  generalize k.prepare.runFrom (l, h) = result at hpreparing ⊢
  cases hpreparing with
  | refused => exact .refl hf
  | present => exact .refl hf
  | unopened => exact hopened
  | cached => exact hopened
  | failed pending isFile paths make =>
    have hevolves := hmade paths make
    exact hevolves
  | compiled pending isFile paths make =>
    have hevolves := hmade paths make
    exact hevolves

/-- An artifact that is made is settled. -/
theorem make_settles (ht : k.toolchain.Confined) (hf : h.files.WellFormed) {r : Resolution}
    (hr : r.paths = k.paths) {h' : Host}
    (hmake : (k.make ⟨k.store⟩ r).runFrom h = (.ok (), h')) :
    h'.files.Settled k.paths.artifact := by
  have hmaking := make_making ht hf hr
  rw [hmake] at hmaking
  cases hmaking with
  | published written _ _ _ locates short _ _ _ _ _ published =>
    rcases locates.keeps written.wellFormed published.wellFormed published.here published.keeps with
      hl | hb
    · exact .stands hl short published.artifact published.isFile
    · exact .blocked hb

/-- What cannot be made because a file is in the way is not asked for. -/
theorem make_of_blocked (ht : k.toolchain.Confined) (hf : h.files.WellFormed) {r : Resolution}
    (hr : r.paths = k.paths) (hb : h.files.Blocked k.paths.artifact) :
    ∃ error f, (k.make ⟨k.store⟩ r).runFrom h = (.error error, { h with files := f }) := by
  have hmaking := make_making ht hf hr
  generalize (k.make ⟨k.store⟩ r).runFrom h = result at hmaking ⊢
  cases hmaking with
  | unwritten => exact ⟨_, _, rfl⟩
  | unpublished written => exact absurd written.locates (not_locates_source hb)
  | published written => exact absurd written.locates (not_locates_source hb)

/-- A preparation that answers and made calls has made its artifact, which is settled. -/
theorem prepare_settles (ht : k.toolchain.Confined) (hf : h.files.WellFormed) {p : Prepared}
    (hok : (k.prepare.runFrom (l, h)).1 = .ok p)
    (hcalls : (k.prepare.runFrom (l, h)).2.2.ledger ≠ h.ledger) :
    (k.prepare.runFrom (l, h)).2.2.files.Settled k.paths.artifact := by
  have hopened := k.openedFiles_evolves hf
  have hpreparing := prepare_preparing k l h
  generalize k.prepare.runFrom (l, h) = result at hpreparing hok hcalls ⊢
  cases hpreparing with
  | refused => cases hok
  | present => exact absurd rfl hcalls
  | unopened => cases hok
  | cached => exact absurd rfl hcalls
  | failed => cases hok
  | compiled pending isFile paths make =>
    have hsettles := make_settles ht hopened.wellFormed paths make
    exact hsettles

/-- A preparation asks for nothing once its artifact is settled. -/
theorem prepare_of_settled (ht : k.toolchain.Confined) (hf : h.files.WellFormed)
    (hsettled : h.files.Settled k.paths.artifact) :
    (k.prepare.runFrom (l, h)).2.2.ledger = h.ledger := by
  have hopened := k.openedFiles_evolves hf
  have hsettled' := hsettled.evolves hf hopened
  have hpreparing := prepare_preparing k l h
  generalize k.prepare.runFrom (l, h) = result at hpreparing ⊢
  -- where the artifact is missing, a file is in the way
  have hmake : ∀ {r : Resolution} {events : List Event} {answer : Except KernelError Unit}
      {h' : Host}, (k.openedFiles h.files).isFile k.paths.artifact = false → r.paths = k.paths →
      (k.make ⟨k.store⟩ r).runFrom { h with files := k.openedFiles h.files, events } =
        (answer, h') → h'.ledger = h.ledger := by
    intro r events answer h' hmissing hr hrun
    rcases hsettled'.isFile_or_blocked k.isSlashed_artifact with hfile | hb
    · rw [hmissing] at hfile
      cases hfile
    · obtain ⟨error, f, hmade⟩ := make_of_blocked ht
        (h := { h with files := k.openedFiles h.files, events }) hopened.wellFormed hr hb
      rw [hrun, Prod.mk.injEq] at hmade
      rw [hmade.2]
      rfl
  cases hpreparing with
  | refused => rfl
  | present => rfl
  | unopened => rfl
  | cached => rfl
  | failed pending isFile paths make =>
    have hledger := hmake isFile paths make
    exact hledger
  | compiled pending isFile paths make =>
    have hledger := hmake isFile paths make
    exact hledger

/-- What a kernel remembers to have prepared is its own artifact. -/
def Remembers (k : Kernel) (l : Lifecycle) : Prop :=
  ∀ p, l.prepared = some p → p.record = k.artifactRecord

/-- A preparation that answers, answers with the artifact of the kernel. -/
theorem prepare_record (hl : k.Remembers l) :
    k.Remembers (k.prepare.runFrom (l, h)).2.1 ∧
      ∀ p, (k.prepare.runFrom (l, h)).1 = .ok p → p.record = k.artifactRecord := by
  have hpreparing := prepare_preparing k l h
  generalize k.prepare.runFrom (l, h) = result at hpreparing ⊢
  have hmade : ∀ {origin : Origin} {stage : Stage},
      k.Remembers ⟨stage, some ⟨k.artifactRecord, origin, k.paths.source⟩, none⟩ := by
    intro origin stage p hp
    cases hp
    rfl
  have hnone : ∀ {stage : Stage} {reason : Option String}, k.Remembers ⟨stage, none, reason⟩ := by
    intro stage reason p hp
    cases hp
  cases hpreparing with
  | refused => exact ⟨hl, fun p hp ↦ by cases hp⟩
  | present failure prepared isFile =>
    refine ⟨hl, fun p hp ↦ ?_⟩
    cases hp
    exact hl _ prepared
  | unopened => exact ⟨hnone, fun p hp ↦ by cases hp⟩
  | cached => exact ⟨hmade, fun p hp ↦ by cases hp; rfl⟩
  | failed => exact ⟨hnone, fun p hp ↦ by cases hp⟩
  | compiled => exact ⟨hmade, fun p hp ↦ by cases hp; rfl⟩

end KernelForge.Kernel
