import KernelForge.Proofs.Fleet.Running
import KernelForge.Proofs.Kernel.Settling
import KernelForge.Proofs.Target.Executing

/-!
# Compiling at most once

Kernels that share the directory of a store, and whose artifacts others spare, publish at most one
compilation for a symbol, a prepared source and a kind of artifact; later preparations for these
find the artifact and ask for nothing. A single kernel compiles at most once more than its prepared
artifact was found missing, whatever happens elsewhere and whatever its toolchain does. Main
statement: `compiles_at_most_once`.
-/

namespace KernelForge

open Files

/-- What an artifact is made of: its symbol, its prepared source and its kind. -/
def Kernel.recipe (k : Kernel) : String × String × ArtifactKind :=
  (k.symbol, k.preparedSource, k.adapter.target.artifactKind)

namespace Kernel

variable {k k' : Kernel}

/-- Kernels with one store and one recipe have one artifact. -/
theorem artifactRecord_eq (hstore : k.store = k'.store) (hrecipe : k.recipe = k'.recipe) :
    k.artifactRecord = k'.artifactRecord := by
  simp only [recipe, Prod.mk.injEq] at hrecipe
  obtain ⟨hsymbol, hsource, hkind⟩ := hrecipe
  have htarget : k.adapter.target = k'.adapter.target := by
    revert hkind
    cases k.adapter.target <;> cases k'.adapter.target <;> simp [Target.artifactKind]
  simp only [artifactRecord, paths, key, hstore, hsymbol, hsource, htarget]

theorem artifact_eq_of_recipe (hstore : k.store = k'.store) (hrecipe : k.recipe = k'.recipe) :
    k.paths.artifact = k'.paths.artifact :=
  congrArg ArtifactRecord.path (artifactRecord_eq hstore hrecipe)

end Kernel

/-- The path of an artifact of one of the kernels. -/
def IsArtifactPath {ι : Type} (kernels : ι → Kernel) (p : Path) : Prop :=
  ∃ i, (kernels i).paths.artifact = p

/-- Kernels that share the directory `c` of a store. Their toolchains are confined and booked, and
executing an artifact spares those of all. -/
structure Sharing {ι : Type} (kernels : ι → Kernel) (c : Path) : Prop where
  /-- The toolchains keep a ledger, and write at the output and at the header alone. -/
  booked : ∀ i, ∃ t : Toolchain, t.Confined ∧ (kernels i).toolchain = t.booked
  /-- The directory is that of every store. -/
  store : ∀ i, (kernels i).store = c
  /-- Executing an artifact spares those of all kernels. -/
  execute : ∀ i record groups (w : World), w.host.files.WellFormed →
    w.host.files.Spares (IsArtifactPath kernels)
      (((kernels i).adapter.execute (kernels i).toolchain record groups).runFrom w).2.host.files

namespace Sharing

variable {ι : Type} {kernels : ι → Kernel} {c : Path} (hs : Sharing kernels c)

include hs

theorem confined (i : ι) : (kernels i).toolchain.Confined := by
  obtain ⟨t, ht, hk⟩ := hs.booked i
  exact hk ▸ ht.booked

theorem abides (i : ι) :
    (kernels i).Abides fun h h' ↦
      h.files.WellFormed → h.files.Spares (IsArtifactPath kernels) h'.files where
  refl _ hf := .refl hf
  trans h h' hf := (h hf).trans (h' (h hf).wellFormed)
  tell _ _ hf := .refl hf
  execute record groups w hf := hs.execute i record groups w hf

end Sharing

namespace Fleet

variable {ι : Type} [DecidableEq ι] {kernels : ι → Kernel} {c : Path} {F : Fleet ι} {m : Move ι}
  {moves : List (Move ι)}

/-- What happens elsewhere spares the artifacts of the kernels. -/
def Sparing (kernels : ι → Kernel) (F : Fleet ι) : Move ι → Prop
  | .operate .. => True
  | .elsewhere world => F.world.host.files.Spares (IsArtifactPath kernels) world.host.files

/-- Whether a move publishes a compilation for a recipe. -/
def publications (kernels : ι → Kernel) (recipe : String × String × ArtifactKind) (F : Fleet ι)
    (m : Move ι) : Nat :=
  match F.preparation? kernels m with
  | some P => if (kernels P.who).recipe = recipe ∧ P.publishes kernels then 1 else 0
  | none => 0

/-- The compilations that a move of the kernel `i` calls for. -/
def compilationsOf (kernels : ι → Kernel) (i : ι) (F : Fleet ι) : Move ι → Nat
  | .operate j op => if j = i then (F.step kernels (.operate j op)).world.host.compilations -
      F.world.host.compilations else 0
  | .elsewhere _ => 0

/-- Whether a move finds the prepared artifact of the kernel `i` missing. -/
def missingOf (kernels : ι → Kernel) (i : ι) (F : Fleet ι) (m : Move ι) : Nat :=
  match F.preparation? kernels m with
  | some P => if P.who = i ∧ P.findsMissing then 1 else 0
  | none => 0

/-! ### Kernels that share a store -/

/-- The tree can arise, and what a kernel remembers is its own artifact. -/
structure Sound (kernels : ι → Kernel) (F : Fleet ι) : Prop where
  /-- The tree can arise. -/
  wellFormed : F.world.host.files.WellFormed
  /-- What a kernel remembers is its own artifact. -/
  remembers : ∀ i, (kernels i).Remembers (F.lives i)

section Run

variable (hs : Sharing kernels c)

include hs

/-- A move takes nothing away, and then spares the artifacts; a preparation comes before that. -/
theorem step_evolves (hF : F.Sound kernels) (hm : F.Sparing kernels m) :
    ∃ f, F.world.host.files.Evolves f ∧
      f.Spares (IsArtifactPath kernels) (F.step kernels m).world.host.files ∧
      ∀ P, F.preparation? kernels m = some P → f = (P.hostAfter kernels).files := by
  cases m with
  | elsewhere world =>
    exact ⟨_, .refl hF.wellFormed, hm, fun P hP ↦ by cases hP⟩
  | operate i op =>
    rcases step_operate (hs.abides i) F op with
      ⟨hnone, -, hspares⟩ | ⟨P, events, hP, hwho, hlife, hhost, -, hspares⟩
    · exact ⟨_, .refl hF.wellFormed, hspares hF.wellFormed,
        fun P hP ↦ by cases hnone.symm.trans hP⟩
    · have hevolves : P.host.files.Evolves (P.hostAfter kernels).files :=
        Kernel.prepare_evolves (hs.confined P.who) P.life (by rw [hhost]; exact hF.wellFormed)
      rw [hhost] at hevolves
      refine ⟨_, hevolves, hspares hevolves.wellFormed, fun P' hP' ↦ ?_⟩
      rw [hP, Option.some.injEq] at hP'
      rw [hP']

theorem step_sound (hF : F.Sound kernels) (hm : F.Sparing kernels m) :
    (F.step kernels m).Sound kernels := by
  obtain ⟨f, -, hspares, -⟩ := step_evolves hs hF hm
  refine ⟨hspares.wellFormed, ?_⟩
  cases m with
  | elsewhere world => exact hF.remembers
  | operate i op =>
    rcases step_operate (hs.abides i) F op with
      ⟨-, hlives, -⟩ | ⟨P, events, -, hwho, hlife, -, hlives, -⟩
    · rw [hlives]
      exact hF.remembers
    · intro j
      rw [hlives]
      by_cases hj : j = i
      · rw [if_pos hj, hj, ← hwho]
        exact (Kernel.prepare_record (by rw [hlife, hwho]; exact hF.remembers i)).1
      · rw [if_neg hj]
        exact hF.remembers j

/-- What is settled in the store stays so. -/
theorem step_settled (hF : F.Sound kernels) (hm : F.Sparing kernels m) {i : ι}
    (h : F.world.host.files.Settled (kernels i).paths.artifact) :
    (F.step kernels m).world.host.files.Settled (kernels i).paths.artifact := by
  obtain ⟨f, hevolves, hspares, -⟩ := step_evolves hs hF hm
  exact (h.evolves hF.wellFormed hevolves).spares hspares ⟨i, rfl⟩

/-- A compilation that is published settles its artifact. -/
theorem step_publishes (hF : F.Sound kernels) (hm : F.Sparing kernels m) {P : Preparation ι}
    (hP : F.preparation? kernels m = some P) (hpublishes : P.publishes kernels) :
    (F.step kernels m).world.host.files.Settled (kernels P.who).paths.artifact := by
  obtain ⟨f, hevolves, hspares, hf⟩ := step_evolves hs hF hm
  obtain ⟨-, hfiles⟩ := preparation_eq hP
  rw [Preparation.publishes, Bool.and_eq_true, decide_eq_true_eq] at hpublishes
  obtain ⟨hok, hcalls⟩ := hpublishes
  obtain ⟨p, hp⟩ := Act.exists_ok_of_isOk hok
  have hledger : (P.hostAfter kernels).ledger ≠ P.host.ledger := by
    intro he
    rw [Host.compilations, Host.compilations, he] at hcalls
    exact Nat.lt_irrefl _ hcalls
  have hsettled := Kernel.prepare_settles (hs.confined P.who)
    (by rw [hfiles]; exact hF.wellFormed) hp hledger
  exact hsettled.spares (hf P hP ▸ hspares) ⟨P.who, rfl⟩

/-- Where the artifact is settled, a preparation asks for nothing. -/
theorem ledger_of_settled (hF : F.Sound kernels) {P : Preparation ι}
    (hP : F.preparation? kernels m = some P)
    (h : F.world.host.files.Settled (kernels P.who).paths.artifact) :
    (P.hostAfter kernels).ledger = P.host.ledger := by
  obtain ⟨-, hfiles⟩ := preparation_eq hP
  exact Kernel.prepare_of_settled (hs.confined P.who) (by rw [hfiles]; exact hF.wellFormed)
    (by rw [hfiles]; exact h)

theorem run_sound (hF : F.Sound kernels) (hmoves : F.Along kernels (Sparing kernels) moves) :
    (F.run kernels moves).Sound kernels :=
  hmoves.run (fun _ _ hF hm ↦ step_sound hs hF hm) hF

theorem run_settled (hF : F.Sound kernels) (hmoves : F.Along kernels (Sparing kernels) moves)
    {i : ι} (h : F.world.host.files.Settled (kernels i).paths.artifact) :
    (F.run kernels moves).world.host.files.Settled (kernels i).paths.artifact :=
  (hmoves.run (P := fun F ↦ F.Sound kernels ∧
      F.world.host.files.Settled (kernels i).paths.artifact)
    (fun _ _ hF hm ↦ ⟨step_sound hs hF.1 hm, step_settled hs hF.1 hm hF.2⟩) ⟨hF, h⟩).2

/-- Nothing is published for a recipe whose artifact is settled. -/
theorem publications_of_settled (hF : F.Sound kernels) {i : ι}
    (h : F.world.host.files.Settled (kernels i).paths.artifact) :
    publications kernels (kernels i).recipe F m = 0 := by
  rw [publications]
  split
  · next P hP =>
    rw [if_neg]
    rintro ⟨hrecipe, hpublishes⟩
    have hpath := Kernel.artifact_eq_of_recipe ((hs.store P.who).trans (hs.store i).symm) hrecipe
    have hledger := ledger_of_settled hs hF hP (hpath ▸ h)
    simp [Preparation.publishes, Host.compilations, hledger] at hpublishes
  · rfl

/-- Once an artifact is settled, nothing is published for its recipe any more. -/
theorem tally_publications_of_settled (hF : F.Sound kernels)
    (hmoves : F.Along kernels (Sparing kernels) moves) {i : ι}
    (h : F.world.host.files.Settled (kernels i).paths.artifact) :
    F.tally kernels (publications kernels (kernels i).recipe) moves = 0 := by
  induction moves generalizing F with
  | nil => rfl
  | cons m moves ih =>
    rw [tally, publications_of_settled hs hF h,
      ih (step_sound hs hF hmoves.1) hmoves.2 (step_settled hs hF hmoves.1 h)]

/-- At most one compilation is published for a recipe. -/
theorem tally_publications_le (hF : F.Sound kernels)
    (hmoves : F.Along kernels (Sparing kernels) moves) (recipe : String × String × ArtifactKind) :
    F.tally kernels (publications kernels recipe) moves ≤ 1 := by
  induction moves generalizing F with
  | nil => exact Nat.zero_le _
  | cons m moves ih =>
    have hrest := ih (step_sound hs hF hmoves.1) hmoves.2
    rw [tally]
    by_cases hfirst : publications kernels recipe F m = 0
    · omega
    · -- what is published here settles the artifact for the rest of the run
      rw [publications] at hfirst ⊢
      split at hfirst
      · next P hP =>
        by_cases hpublishes : (kernels P.who).recipe = recipe ∧ P.publishes kernels
        · obtain ⟨rfl, hpublishes⟩ := hpublishes
          rw [tally_publications_of_settled hs (step_sound hs hF hmoves.1) hmoves.2
            (step_publishes hs hF hmoves.1 hP hpublishes)]
          split <;> omega
        · exact absurd (if_neg hpublishes) hfirst
      · exact absurd rfl hfirst

/-- After a compilation was published, a preparation for its recipe asks for nothing and answers
with the same record. -/
theorem preparation_of_published (hF : F.Sound kernels) {before after : List (Move ι)}
    (hmoves : F.Along kernels (Sparing kernels) (before ++ m :: after)) {P P' : Preparation ι}
    {m' : Move ι} (hP : (F.run kernels before).preparation? kernels m = some P)
    (hpublishes : P.publishes kernels)
    (hP' : (F.run kernels (before ++ m :: after)).preparation? kernels m' = some P')
    (hrecipe : (kernels P'.who).recipe = (kernels P.who).recipe) :
    (P'.hostAfter kernels).ledger = P'.host.ledger ∧ ∀ p p', P.answer kernels = .ok p →
      P'.answer kernels = .ok p' → p'.record = p.record := by
  obtain ⟨hbefore, hm, hafter⟩ := along_append.mp hmoves
  have hsound := run_sound hs hF hbefore
  have hsound' := step_sound hs hsound hm
  have hend := run_sound hs hF hmoves
  have hstore : (kernels P'.who).store = (kernels P.who).store :=
    (hs.store _).trans (hs.store _).symm
  have hsettled := run_settled hs hsound' hafter (step_publishes hs hsound hm hP hpublishes)
  rw [run_append] at hend hP'
  refine ⟨ledger_of_settled hs hend hP' ?_, fun p p' hp hp' ↦ ?_⟩
  · rw [Kernel.artifact_eq_of_recipe hstore hrecipe]
    exact hsettled
  · have hrecord := (Kernel.prepare_record (h := P.host)
      ((preparation_eq hP).1 ▸ hsound.remembers P.who)).2 p hp
    have hrecord' := (Kernel.prepare_record (h := P'.host)
      ((preparation_eq hP').1 ▸ hend.remembers P'.who)).2 p' hp'
    rw [hrecord, hrecord', Kernel.artifactRecord_eq hstore hrecipe]

end Run

/-! ### One kernel, whatever happens elsewhere -/

/-- Whether a kernel was never prepared. -/
def isFresh (F : Fleet ι) (i : ι) : Bool :=
  (F.lives i).prepared.isNone && (F.lives i).failure.isNone

/-- A preparation pays for its compilation: either the prepared artifact is missing, or the kernel
was never prepared; afterwards it was. -/
private theorem prepare_pays {k : Kernel} {t : Toolchain} (hk : k.toolchain = t.booked)
    (l : Lifecycle) (h : Host) :
    (k.prepare.runFrom (l, h)).2.2.compilations - h.compilations ≤
      (l.failure.isNone && l.prepared.any fun p ↦ !h.files.isFile p.record.path).toNat +
        (l.prepared.isNone && l.failure.isNone).toNat := by
  obtain ⟨calls, ⟨hcalls, hcount⟩, hpending⟩ := Kernel.prepare_called hk l h
  rw [Host.compilations, Host.compilations, hcalls, List.countP_append, Nat.add_sub_cancel]
  by_cases hnone : calls = []
  · simp [hnone]
  · obtain ⟨hfailure, hmissing⟩ := hpending hnone
    cases hprepared : l.prepared with
    | none => simpa [hfailure] using hcount
    | some p => simpa [hfailure, hmissing p hprepared] using hcount

/-- A move pays for the compilations of a kernel. -/
theorem step_pays {i : ι} {t : Toolchain} (hk : (kernels i).toolchain = t.booked)
    (hkeeps : (kernels i).adapter.KeepsLedger) (F : Fleet ι) (m : Move ι) :
    compilationsOf kernels i F m + ((F.step kernels m).isFresh i).toNat ≤
      missingOf kernels i F m + (F.isFresh i).toNat := by
  cases m with
  | elsewhere world =>
    have hsame : (F.step kernels (.elsewhere world)).isFresh i = F.isFresh i := rfl
    rw [hsame, compilationsOf]
    omega
  | operate j op =>
    by_cases hj : j = i
    · subst hj
      rw [compilationsOf, if_pos rfl, missingOf]
      rcases step_operate (Kernel.abides_ledger hk hkeeps) F op with
        ⟨hnone, hlives, hledger⟩ | ⟨P, events, hP, hwho, hlife, hhost, hlives, hledger⟩
      · simp only [hnone, isFresh, hlives, Host.compilations, hledger]
        omega
      · obtain ⟨who, life, host⟩ := P
        obtain rfl : who = j := hwho
        obtain rfl : life = F.lives who := hlife
        have hpays := prepare_pays hk (F.lives who) host
        have hafter : (F.step kernels (.operate who op)).isFresh who = false := by
          rw [isFresh, hlives, if_pos rfl]
          rcases Kernel.prepare_remembers (kernels who) (F.lives who) host with h | h
          · simp [Preparation.lifeAfter, Option.isNone_eq_false_iff, Option.isSome_iff_ne_none, h]
          · simp [Preparation.lifeAfter, Option.isNone_eq_false_iff, Option.isSome_iff_ne_none, h]
        have hbefore : F.world.host.compilations = host.compilations := by
          rw [show host = _ from hhost]
          rfl
        have hgrowth : (F.step kernels (.operate who op)).world.host.compilations =
            ((kernels who).prepare.runFrom (F.lives who, host)).2.2.compilations :=
          congrArg (List.countP _) hledger
        have hmissing : missingOf kernels who F (.operate who op) =
            ((F.lives who).failure.isNone && (F.lives who).prepared.any fun p ↦
              !host.files.isFile p.record.path).toNat := by
          simp [missingOf, hP, Preparation.findsMissing, Bool.toNat, Bool.cond_eq_ite]
        rw [missingOf] at hmissing
        rw [hafter, hmissing, hbefore, hgrowth]
        exact hpays
    · have hsame : (F.step kernels (.operate j op)).isFresh i = F.isFresh i := by
        simp [isFresh, step, Ne.symm hj]
      rw [hsame, compilationsOf, if_neg hj]
      omega

/-- Preparations of one kernel compile at most once more than they find its artifact missing. -/
theorem tally_compilations_le {i : ι} {t : Toolchain} (hk : (kernels i).toolchain = t.booked)
    (hkeeps : (kernels i).adapter.KeepsLedger) (F : Fleet ι) (moves : List (Move ι)) :
    F.tally kernels (compilationsOf kernels i) moves ≤
      1 + F.tally kernels (missingOf kernels i) moves := by
  have hle := tally_le (fun F ↦ (F.isFresh i).toNat) (step_pays hk hkeeps) F moves
  have hfresh : (F.isFresh i).toNat ≤ 1 := Bool.toNat_le _
  omega

/-- Three kernels with one store: two with the same recipe, and one for the other target. -/
def trio (i : Fin 3) : Kernel :=
  if i = 2 then
    { Kernel.sample "k" Kernel.sampleTools with adapter := .tpu {} ⟨"idle", fun _ ↦ pure ()⟩ }
  else Kernel.sample (if i = 0 then "k" else "again") Kernel.sampleTools

/-- The kernels as they are made, in a world with the empty directory of the store. -/
def trioFleet : Fleet (Fin 3) := ⟨fun _ ↦ {}, { host := Kernel.sampleHost [] }⟩

theorem sharing_trio : Sharing trio (.ofString "/c") where
  booked i := by
    rw [trio]
    split <;> exact Kernel.confined_sampleTools
  store i := by
    rw [trio]
    split <;> rfl
  execute i record groups w hf := by
    have hsame : (((trio i).adapter.execute (trio i).toolchain record groups).runFrom
        w).2.host.files = w.host.files := by
      refine Adapter.execute_keeps Host.files (fun _ _ ↦ rfl) ?_ ?_ record groups w
      · intro config native he call w
        rw [trio] at he
        split at he
        · cases he
          rfl
        · cases he
      · intro r h
        rw [trio]
        split <;> rfl
    rw [hsame]
    exact .refl hf

private theorem publishes_trio : Preparation.publishes trio ⟨0, {}, Kernel.sampleHost []⟩ := by
  obtain ⟨hok, hcompiled, -⟩ := Kernel.prepare_sampleTools "k"
  have hnone : Host.compilations (Kernel.sampleHost []) = 0 := rfl
  have htrio : trio 0 = Kernel.sample "k" Kernel.sampleTools := rfl
  rw [Preparation.publishes, Preparation.answer, Preparation.hostAfter, htrio, hok, hcompiled,
    hnone]
  decide

end Fleet

end KernelForge
