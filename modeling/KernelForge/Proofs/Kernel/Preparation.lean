import KernelForge.Proofs.Kernel.Making
import Mathlib

/-!
# Preparing a kernel

What one preparation can do: it is refused, it finds the artifact it prepared before, or it opens
the store and finds or makes the artifact there. Main statements: `prepare_preparing`, which names
every case, so that the laws of whole runs are drawn from it; and `prepare_settled`, which says that
the toolchain matters where the artifact is made and nowhere else. The runs of the samples are
evaluated by `cbv`, with equations from all over the library: it is imported whole for them.
-/

namespace KernelForge.Kernel

open Files

variable {k : Kernel} {l : Lifecycle} {h : Host}

/-- What is known of the artifact of a kernel once it is there. -/
def artifactRecord (k : Kernel) : ArtifactRecord :=
  ⟨k.key, k.paths.artifact, k.adapter.target, k.symbol⟩

/-- The files once the store is opened. -/
def openedFiles (k : Kernel) (f : Files) : Files := ((createDirectories k.store).runFrom f).2

/-- Nothing failed before, and an artifact that was prepared before is gone. -/
def IsPending (l : Lifecycle) (f : Files) : Prop :=
  l.failure = none ∧ ∀ p, l.prepared = some p → f.isFile p.record.path = false

/-- How preparing `k` with the life `l` on `h` can end. -/
inductive Preparing (k : Kernel) (l : Lifecycle) (h : Host) :
    Except KernelError Prepared × (Lifecycle × Host) → Prop where
  /-- An earlier preparation failed. -/
  | refused {reason : String} (failure : l.failure = some reason) :
      Preparing k l h (.error (.preparationFailed k.entry reason), (l, h))
  /-- The prepared artifact is there. -/
  | present {p : Prepared} (failure : l.failure = none) (prepared : l.prepared = some p)
      (isFile : h.files.isFile p.record.path) : Preparing k l h (.ok p, (l, h))
  /-- The store could not be opened. -/
  | unopened {error : KernelError} {events : List Event} (pending : IsPending l h.files)
      (closed : ((createDirectories k.store).runFrom h.files).1 ≠ .ok ()) :
      Preparing k l h (.error error, (⟨.failed, none, some error.message⟩,
        { h with files := k.openedFiles h.files, events }))
  /-- The artifact is in the store. -/
  | cached {events : List Event} (pending : IsPending l h.files)
      (isFile : (k.openedFiles h.files).isFile k.paths.artifact) :
      Preparing k l h (.ok ⟨k.artifactRecord, .cached, k.paths.source⟩,
        (⟨.ready, some ⟨k.artifactRecord, .cached, k.paths.source⟩, none⟩,
          { h with files := k.openedFiles h.files, events }))
  /-- The artifact could not be made. -/
  | failed {error : KernelError} {h' : Host} {r : Resolution} {events events' : List Event}
      (pending : IsPending l h.files)
      (isFile : (k.openedFiles h.files).isFile k.paths.artifact = false) (paths : r.paths = k.paths)
      (make : (k.make ⟨k.store⟩ r).runFrom { h with files := k.openedFiles h.files, events } =
        (.error error, h')) :
      Preparing k l h (.error error, (⟨.failed, none, some error.message⟩,
        { h' with events := events' }))
  /-- The artifact was made. -/
  | compiled {h' : Host} {r : Resolution} {events events' : List Event}
      (pending : IsPending l h.files)
      (isFile : (k.openedFiles h.files).isFile k.paths.artifact = false) (paths : r.paths = k.paths)
      (make : (k.make ⟨k.store⟩ r).runFrom { h with files := k.openedFiles h.files, events } =
        (.ok (), h')) :
      Preparing k l h (.ok ⟨k.artifactRecord, .compiled, k.paths.source⟩,
        (⟨.ready, some ⟨k.artifactRecord, .compiled, k.paths.source⟩, none⟩,
          { h' with events := events' }))

theorem onHost_run {α : Type} (act : Act Host KernelError α) (l : Lifecycle) (h : Host) :
    (onHost act).runFrom (l, h) = ((act.runFrom h).1, (l, (act.runFrom h).2)) := rfl

/-- Opening the store makes its directory. -/
theorem openAt_run (k : Kernel) (h : Host) :
    (∃ error, ((createDirectories k.store).runFrom h.files).1 ≠ .ok () ∧
        (Store.openAt k.store).runFrom h =
          (.error error, { h with files := k.openedFiles h.files })) ∨
      (Store.openAt k.store).runFrom h =
        (.ok ⟨k.store⟩, { h with files := k.openedFiles h.files }) := by
  rw [Store.openAt, Act.runFrom_bind, Store.onFile_run, openedFiles]
  rcases (createDirectories k.store).runFrom h.files with ⟨cause | _, f'⟩
  · exact Or.inl ⟨_, by simp, rfl⟩
  · exact Or.inr rfl

/-- Resolving an artifact looks whether it is there. -/
theorem resolve_run (k : Kernel) (h : Host) :
    ∃ events, (Store.resolve (ε := KernelError) ⟨k.store⟩ k.symbol k.preparedSource
        k.adapter.target.artifactKind).runFrom h =
      (.ok ⟨k.key, k.paths,
          if h.files.isFile k.paths.artifact then some k.paths.artifact else none⟩,
        { h with events }) := ⟨_, rfl⟩

/-- The host with the store opened, and other events. -/
private def opened (k : Kernel) (h : Host) (events : List Event) : Host :=
  { h with files := k.openedFiles h.files, events }

/-- What a build does once the artifact is resolved. -/
private def finish (k : Kernel) (store : Store) (r : Resolution) : Step Prepared := do
  if r.isHit then
    onLife fun l ↦ { l with stage := .artifactCached }
    onHost (Host.tell .debug "using cached kernel"
      [("kernel.name", k.entry), ("path", r.paths.artifact.text)])
    pure ⟨k.record r, .cached, r.paths.source⟩
  else
    onHost (k.make store r)
    onLife fun l ↦ { l with stage := .artifactCompiled }
    onHost (Host.tell .info "compiled kernel" [("kernel.name", k.entry),
      ("backend", k.adapter.target.name), ("path", r.paths.artifact.text)])
    pure ⟨k.record r, .compiled, r.paths.source⟩

/-- How a preparation ends that made the artifact, or could not make it. -/
def settled (k : Kernel) :
    Except KernelError Unit × Host → Except KernelError Prepared × (Lifecycle × Host)
  | (.ok (), h) =>
    (.ok ⟨k.artifactRecord, .compiled, k.paths.source⟩,
      (⟨.ready, some ⟨k.artifactRecord, .compiled, k.paths.source⟩, none⟩,
        { h with events := ⟨.info, "compiled kernel", [("kernel.name", k.entry),
          ("backend", k.adapter.target.name), ("path", k.paths.artifact.text)]⟩ :: h.events }))
  | (.error error, h) =>
    (.error error, (⟨.failed, none, some error.message⟩, { h with events :=
      ⟨.debug, "preparation failed", [("kernel.name", k.entry), ("error", error.message)]⟩ ::
        h.events }))

/-- Whatever the toolchain, a build fails to open the store, or goes on from the store opened and
the artifact resolved. -/
private theorem build_cases (k : Kernel) (l : Lifecycle) (h : Host) :
    (∃ error, ((createDirectories k.store).runFrom h.files).1 ≠ .ok () ∧
      ∀ t, (k.withToolchain t).build.runFrom (l, h) =
        (.error error, ({ l with stage := .sourcePrepared }, opened k h h.events))) ∨
      ∃ events, ∀ t, (k.withToolchain t).build.runFrom (l, h) =
        ((k.withToolchain t).finish ⟨k.store⟩ ⟨k.key, k.paths,
          if (k.openedFiles h.files).isFile k.paths.artifact then some k.paths.artifact
          else none⟩).runFrom ({ l with stage := .sourcePrepared }, opened k h events) := by
  have hbuild : ∀ t, (k.withToolchain t).build.runFrom (l, h) =
      (onHost (Store.openAt k.store) >>= fun store ↦
        onHost (store.resolve k.symbol k.preparedSource k.adapter.target.artifactKind) >>= fun r ↦
          (k.withToolchain t).finish store r).runFrom ({ l with stage := .sourcePrepared }, h) :=
    fun t ↦ rfl
  rcases openAt_run k h with ⟨error, hclosed, hopen⟩ | hopen
  · exact Or.inl ⟨error, hclosed, fun t ↦ by rw [hbuild, Act.runFrom_bind, onHost_run, hopen]; rfl⟩
  · obtain ⟨events, hresolve⟩ := resolve_run k { h with files := k.openedFiles h.files }
    refine Or.inr ⟨events, fun t ↦ ?_⟩
    rw [hbuild, Act.runFrom_bind, onHost_run, hopen]
    simp only
    rw [Act.runFrom_bind, onHost_run, hresolve]
    rfl

section BuildOnce

variable {s : Lifecycle × Host}

private theorem buildOnce_ok {p : Prepared} (hrun : k.build.runFrom s = (.ok p, (l, h))) :
    k.buildOnce.runFrom s = (.ok p, ({ l with prepared := some p, stage := .ready }, h)) := by
  rw [buildOnce, Act.runFrom_bind, Act.runFrom_attempt, hrun]
  rfl

private theorem buildOnce_error {error : KernelError}
    (hrun : k.build.runFrom s = (.error error, (l, h))) :
    k.buildOnce.runFrom s = (.error error,
      ({ l with failure := some error.message, stage := .failed }, { h with events :=
        ⟨.debug, "preparation failed", [("kernel.name", k.entry), ("error", error.message)]⟩ ::
          h.events })) := by
  rw [buildOnce, Act.runFrom_bind, Act.runFrom_attempt, hrun]
  rfl

end BuildOnce

/-- Whatever the toolchain, a kernel that was not prepared fails to open the store, finds the
artifact there, or goes on as making the artifact goes. -/
private theorem buildOnce_cases (k : Kernel) (stage : Stage) (h : Host) :
    (∃ error events, ((createDirectories k.store).runFrom h.files).1 ≠ .ok () ∧
      ∀ t, (k.withToolchain t).buildOnce.runFrom (⟨stage, none, none⟩, h) =
        (.error error, (⟨.failed, none, some error.message⟩, opened k h events))) ∨
      (∃ events, (k.openedFiles h.files).isFile k.paths.artifact ∧
        ∀ t, (k.withToolchain t).buildOnce.runFrom (⟨stage, none, none⟩, h) =
          (.ok ⟨k.artifactRecord, .cached, k.paths.source⟩,
            (⟨.ready, some ⟨k.artifactRecord, .cached, k.paths.source⟩, none⟩,
              opened k h events))) ∨
      ∃ r events, (k.openedFiles h.files).isFile k.paths.artifact = false ∧ r.paths = k.paths ∧
        ∀ t, (k.withToolchain t).buildOnce.runFrom (⟨stage, none, none⟩, h) =
          k.settled (((k.withToolchain t).make ⟨k.store⟩ r).runFrom (opened k h events)) := by
  rcases k.build_cases ⟨stage, none, none⟩ h with ⟨error, hclosed, hrun⟩ | ⟨events, hrun⟩
  · exact Or.inl ⟨error, ⟨.debug, "preparation failed", [("kernel.name", k.entry),
      ("error", error.message)]⟩ :: h.events, hclosed, fun t ↦ buildOnce_error (hrun t)⟩
  right
  cases hfile : (k.openedFiles h.files).isFile k.paths.artifact with
  | true =>
    left
    refine ⟨⟨.debug, "using cached kernel",
      [("kernel.name", k.entry), ("path", k.paths.artifact.text)]⟩ :: events, rfl, fun t ↦ ?_⟩
    exact buildOnce_ok ((hrun t).trans (by rw [hfile, finish]; rfl))
  | false =>
    right
    refine ⟨⟨k.key, k.paths, none⟩, events, rfl, rfl, fun t ↦ ?_⟩
    have hfinish := hrun t
    rw [hfile, finish] at hfinish
    simp only [Resolution.isHit, Bool.false_eq_true, if_false, Option.isSome_none] at hfinish
    rw [Act.runFrom_bind, onHost_run] at hfinish
    rcases hmake : ((k.withToolchain t).make ⟨k.store⟩ ⟨k.key, k.paths, none⟩).runFrom
      (opened k h events) with ⟨error | _, h'⟩
    · rw [hmake] at hfinish
      exact buildOnce_error hfinish
    · rw [hmake] at hfinish
      exact buildOnce_ok hfinish

private theorem buildOnce_preparing (hpending : IsPending l h.files) (stage : Stage)
    (events : List Event) :
    Preparing k l h (k.buildOnce.runFrom (⟨stage, none, none⟩, { h with events })) := by
  show Preparing k l h ((k.withToolchain k.toolchain).buildOnce.runFrom _)
  rcases k.buildOnce_cases stage { h with events } with
    ⟨error, events', hclosed, hrun⟩ | ⟨events', hfile, hrun⟩ | ⟨r, events', hfile, hr, hrun⟩
  · rw [hrun]
    exact .unopened hpending hclosed
  · rw [hrun]
    exact .cached hpending hfile
  · rw [hrun]
    rcases hmake : ((k.withToolchain k.toolchain).make ⟨k.store⟩ r).runFrom
      (opened k { h with events } events') with ⟨error | _, h'⟩
    · exact .failed hpending hfile hr hmake
    · exact .compiled hpending hfile hr hmake

/-- A preparation is refused after a failure, keeps to an artifact that is there, or builds. -/
private theorem prepare_run (k : Kernel) (l : Lifecycle) (h : Host) :
    k.prepare.runFrom (l, h) =
      match l.failure, l.prepared with
      | some reason, _ => (.error (.preparationFailed k.entry reason), (l, h))
      | none, none => k.buildOnce.runFrom (l, h)
      | none, some p =>
        if h.files.isFile p.record.path then (.ok p, (l, h))
        else k.buildOnce.runFrom ({ l with prepared := none, stage := .uninitialized },
          { h with events := ⟨.debug, "artifact vanished, preparing again",
            [("kernel.name", k.entry), ("path", p.record.path.text)]⟩ :: h.events }) := by
  rw [prepare, Act.runFrom_bind, Act.runFrom_reads]
  obtain ⟨stage, prepared, failure⟩ := l
  cases failure with
  | some reason => rfl
  | none =>
    cases prepared with
    | none => rfl
    | some p =>
      simp only
      rw [Act.runFrom_bind, Act.runFrom_reads]
      simp only
      split
      · rfl
      · rw [Act.runFrom_bind, onHost_run]
        rfl

/-- Every preparation is one of the cases. -/
theorem prepare_preparing (k : Kernel) (l : Lifecycle) (h : Host) :
    Preparing k l h (k.prepare.runFrom (l, h)) := by
  rw [prepare_run]
  obtain ⟨stage, prepared, failure⟩ := l
  cases failure with
  | some reason => exact .refused rfl
  | none =>
    cases prepared with
    | none => exact buildOnce_preparing ⟨rfl, by simp⟩ stage h.events
    | some p =>
      simp only
      split
      · next hfile => exact .present rfl rfl hfile
      · next hfile =>
        refine buildOnce_preparing ⟨rfl, fun q hq ↦ ?_⟩ .uninitialized _
        rw [Option.some.injEq] at hq
        simpa [hq] using hfile

/-- What a preparation answers is kept in mind. -/
theorem prepared_of_ok {p : Prepared} (hp : (k.prepare.runFrom (l, h)).1 = .ok p) :
    (k.prepare.runFrom (l, h)).2.1.prepared = some p := by
  have hpreparing := prepare_preparing k l h
  generalize k.prepare.runFrom (l, h) = result at hpreparing hp ⊢
  cases hpreparing with
  | refused => cases hp
  | present failure prepared =>
    cases hp
    exact prepared
  | unopened => cases hp
  | cached =>
    cases hp
    rfl
  | failed => cases hp
  | compiled =>
    cases hp
    rfl

/-- A preparation asks nothing of the toolchain, or ends as making the artifact ends. -/
theorem prepare_settled (k : Kernel) (l : Lifecycle) (h : Host) :
    (∀ t, (k.withToolchain t).prepare.runFrom (l, h) = k.prepare.runFrom (l, h)) ∨
      ∃ r events, r.paths = k.paths ∧ ∀ t, (k.withToolchain t).prepare.runFrom (l, h) =
        k.settled (((k.withToolchain t).make ⟨k.store⟩ r).runFrom
          { h with files := k.openedFiles h.files, events }) := by
  have hbuild : ∀ stage told,
      (∀ t, (k.withToolchain t).buildOnce.runFrom (⟨stage, none, none⟩, { h with events := told }) =
          k.buildOnce.runFrom (⟨stage, none, none⟩, { h with events := told })) ∨
        ∃ r events, r.paths = k.paths ∧ ∀ t,
          (k.withToolchain t).buildOnce.runFrom (⟨stage, none, none⟩, { h with events := told }) =
            k.settled (((k.withToolchain t).make ⟨k.store⟩ r).runFrom
              { h with files := k.openedFiles h.files, events }) := by
    intro stage told
    rcases k.buildOnce_cases stage { h with events := told } with
      ⟨error, events, -, hrun⟩ | ⟨events, -, hrun⟩ | ⟨r, events, -, hr, hrun⟩
    · exact Or.inl fun t ↦ (hrun t).trans (hrun k.toolchain).symm
    · exact Or.inl fun t ↦ (hrun t).trans (hrun k.toolchain).symm
    · exact Or.inr ⟨r, events, hr, hrun⟩
  simp only [prepare_run]
  obtain ⟨stage, prepared, failure⟩ := l
  cases failure with
  | some reason => exact Or.inl fun _ ↦ rfl
  | none =>
    cases prepared with
    | none => exact hbuild stage h.events
    | some p =>
      simp only
      split
      · exact Or.inl fun _ ↦ rfl
      · exact hbuild .uninitialized (⟨.debug, "artifact vanished, preparing again",
          [("kernel.name", k.entry), ("path", p.record.path.text)]⟩ :: h.events)

/-- A kernel that is yet to be prepared finds an artifact that is in its store. -/
theorem prepare_eq_cached (hpending : IsPending l h.files)
    (hopen : ((createDirectories k.store).runFrom h.files).1 = .ok ())
    (hfile : (k.openedFiles h.files).isFile k.paths.artifact = true) :
    ∃ events, k.prepare.runFrom (l, h) =
      (.ok ⟨k.artifactRecord, .cached, k.paths.source⟩,
        (⟨.ready, some ⟨k.artifactRecord, .cached, k.paths.source⟩, none⟩,
          { h with files := k.openedFiles h.files, events })) := by
  have hpreparing := prepare_preparing k l h
  generalize k.prepare.runFrom (l, h) = result at hpreparing ⊢
  cases hpreparing with
  | refused failure => simp [hpending.1] at failure
  | present failure prepared isFile => simp [hpending.2 _ prepared] at isFile
  | unopened pending closed => exact absurd hopen closed
  | cached => exact ⟨_, rfl⟩
  | failed pending isFile => simp [hfile] at isFile
  | compiled pending isFile => simp [hfile] at isFile

/-- Where the store can be opened and lacks the artifact, a preparation goes as making the artifact
goes. -/
theorem prepare_eq_make (hpending : IsPending l h.files)
    (hopen : ((createDirectories k.store).runFrom h.files).1 = .ok ())
    (hmissing : (k.openedFiles h.files).isFile k.paths.artifact = false) :
    ∃ r events, r.paths = k.paths ∧
      (k.prepare.runFrom (l, h)).1.isOk = ((k.make ⟨k.store⟩ r).runFrom
        { h with files := k.openedFiles h.files, events }).1.isOk ∧
      ∃ events', (k.prepare.runFrom (l, h)).2.2 = { ((k.make ⟨k.store⟩ r).runFrom
        { h with files := k.openedFiles h.files, events }).2 with events := events' } := by
  have hpreparing := prepare_preparing k l h
  generalize k.prepare.runFrom (l, h) = result at hpreparing ⊢
  cases hpreparing with
  | refused failure => simp [hpending.1] at failure
  | present failure prepared isFile => simp [hpending.2 _ prepared] at isFile
  | unopened pending closed => exact absurd hopen closed
  | cached pending isFile => simp [hmissing] at isFile
  | failed pending isFile paths make =>
    exact ⟨_, _, paths, by rw [make]; exact ⟨rfl, _, rfl⟩⟩
  | compiled pending isFile paths make =>
    exact ⟨_, _, paths, by rw [make]; exact ⟨rfl, _, rfl⟩⟩

/-! ### A kernel with an empty source -/

section Sample

/-- A kernel with an empty source, whose store is the directory `/c`. -/
def sample (entry : String) (t : Toolchain) : Kernel where
  source := { text := "" }
  adapter := .rvv {}
  toolchain := t
  store := .ofString "/c"
  entry := entry
  symbol := "k"
  results := []

/-- The key of a sample. -/
def sampleKey : StoreKey := ⟨"381642d4ea28cd90ca23a1edddcc040ff2e98f9c317a0c5c7857874213d3b7e4"⟩

/-- Where the files of the artifact of a sample lie. -/
def samplePaths : ArtifactPaths := .of (.ofString "/c") "k" sampleKey .executable

/-- A host with the directory of the store of a sample, and what else is given there. -/
def sampleHost (others : List (Bytes × Node)) : Host where
  files := {
    disk := {
      nodes := ([utf8 "c"], .directory 1) :: others.map fun e ↦ ([utf8 "c", e.1], e.2)
      next := 2 }
    here := 0 }

variable (entry : String) (t : Toolchain) (others : List (Bytes × Node))

theorem key_sample : (sample entry t).key = sampleKey := by
  have hdigest : Sha256.digest (StoreKey.framed "k" (Target.withPrelude "")) =
      [56, 22, 66, 212, 234, 40, 205, 144, 202, 35, 161, 237, 221, 204, 4, 15, 242, 233, 143, 156,
        49, 122, 12, 92, 120, 87, 135, 66, 19, 211, 183, 228] := by
    decide +kernel
  show StoreKey.mk (Bytes.hex (Sha256.digest (StoreKey.framed "k" (Target.withPrelude "")))) = _
  rw [hdigest]
  cbv

theorem paths_sample : (sample entry t).paths = samplePaths := by
  rw [paths, key_sample]
  rfl

private theorem createDirectories_sample :
    (createDirectories (.ofString "/c")).runFrom (sampleHost others).files =
      (.ok (), (sampleHost others).files) := by
  cbv

theorem openedFiles_sampleHost {k : Kernel} (hstore : k.store = .ofString "/c") :
    k.openedFiles (sampleHost others).files = (sampleHost others).files := by
  rw [openedFiles, hstore, createDirectories_sample]

/-- What making the artifact of a sample ends in. -/
def makeSample (r : Resolution) (events : List Event) : Except KernelError Unit × Host :=
  ((sample entry t).make ⟨.ofString "/c"⟩ r).runFrom { sampleHost others with events }

/-- What comes of preparing a kernel with the store and the paths of a sample is what comes of
making its artifact. -/
theorem prepare_sampleHost {k : Kernel} (hstore : k.store = .ofString "/c")
    (hpaths : k.paths = samplePaths)
    (hmissing : (sampleHost others).files.isFile samplePaths.artifact = false) :
    ∃ key existing events events',
      (k.prepare.runFrom ({}, sampleHost others)).1.isOk = ((k.make ⟨.ofString "/c"⟩
          ⟨key, samplePaths, existing⟩).runFrom { sampleHost others with events }).1.isOk ∧
        (k.prepare.runFrom ({}, sampleHost others)).2.2 = { ((k.make ⟨.ofString "/c"⟩
          ⟨key, samplePaths, existing⟩).runFrom { sampleHost others with events }).2 with
            events := events' } := by
  have hopened := openedFiles_sampleHost others hstore
  obtain ⟨⟨key, paths, existing⟩, events, hr, hok, events', hhost⟩ :=
    prepare_eq_make (k := k) (l := {}) (h := sampleHost others) ⟨rfl, by simp⟩
      (by rw [hstore, createDirectories_sample]) (by rw [hopened, hpaths, hmissing])
  rw [hpaths] at hr
  subst hr
  rw [hopened, hstore] at hok hhost
  exact ⟨key, existing, events, events', hok, by simpa only using hhost⟩

/-- What comes of preparing a sample is what comes of making its artifact. -/
theorem prepare_sample (hmissing : (sampleHost others).files.isFile samplePaths.artifact = false) :
    ∃ key existing events events',
      ((sample entry t).prepare.runFrom ({}, sampleHost others)).1.isOk =
          (makeSample entry t others ⟨key, samplePaths, existing⟩ events).1.isOk ∧
        ((sample entry t).prepare.runFrom ({}, sampleHost others)).2.2 =
          { (makeSample entry t others ⟨key, samplePaths, existing⟩ events).2 with
            events := events' } := by
  obtain ⟨key, existing, events, events', hok, hhost⟩ :=
    prepare_sampleHost others rfl (paths_sample entry t) hmissing
  refine ⟨key, existing, events, events', hok, ?_⟩
  rw [makeSample]
  exact hhost

end Sample

end KernelForge.Kernel
