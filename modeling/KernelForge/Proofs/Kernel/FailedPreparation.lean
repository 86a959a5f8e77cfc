import KernelForge.Proofs.Kernel.Preparation
import KernelForge.Proofs.Tool.Processes

/-!
# What a failed preparation leaves

A preparation that fails undoes what it began: what it leaves is the directory of the store, the
prepared source of the kernel and, for one target, its header. Nothing is left of scratch files and
scratch directories, the artifact is as it was, and so are the files of other keys. The header is
written through a link that stands under its name; without one, it stands under its own name. Main
statement: `prepare_error`.
-/

namespace KernelForge.Kernel

open Files

/-- What a failed preparation of `k` may leave at a place. -/
inductive Leftover (k : Kernel) (f f' : Files) (q : Place) : Prop where
  /-- A new directory, made under the path of the store or that of a directory above it while the
  store was opened. -/
  | directory (free : f.disk.node? q = none) (isDirectory : f'.disk.IsDirectory q)
      (leads : ∃ p ∈ k.store.ancestors, f.MadeBy (k.openedFiles f) p q)
  /-- The prepared source, complete and under its own name. -/
  | source {place : Place} {serial : Nat} (own : q = place ++ [k.sourceName])
      (locates : (k.openedFiles f).Locates k.paths.source place k.sourceName)
      (complete : f'.disk.node? q = some (.file serial (utf8 k.preparedSource) false))
  /-- A header under its own name. -/
  | header {place : Place} {n : Node} (target : k.adapter.target = .rvv)
      (own : q = place ++ [k.headerName])
      (locates : (k.openedFiles f).Locates k.paths.header place k.headerName)
      (node : f'.disk.node? q = some n) (isFile : n.isFile)

/-- From `f` to `f'`, the store is spared but for what a failed preparation of `k` may leave. -/
structure Spared (k : Kernel) (f f' : Files) : Prop where
  /-- The tree can arise. -/
  wellFormed : f'.WellFormed
  /-- The current directory is the same. -/
  here : f'.here = f.here
  /-- A place shows what it showed, but for what may be left. -/
  stays : ∀ q, f'.disk.node? q = f.disk.node? q ∨ k.Leftover f f' q
  /-- The artifact is as it was, unless its name is that of a new directory above the store. -/
  artifact : ∀ place, (k.openedFiles f).Locates k.paths.artifact place k.artifactName →
    f'.disk.node? (place ++ [k.artifactName]) = f.disk.node? (place ++ [k.artifactName]) ∨
      f'.disk.IsDirectory (place ++ [k.artifactName])

/-- No link stands under the name of the header once the store is opened. -/
def NoHeaderLink (k : Kernel) (f : Files) : Prop :=
  k.adapter.target = .rvv → ∀ place t,
    (k.openedFiles f).Locates k.paths.header place k.headerName →
      (k.openedFiles f).disk.node? (place ++ [k.headerName]) ≠ some (.link t)

variable {k : Kernel} {l : Lifecycle} {h : Host} {f f' : Files}

theorem openedFiles_grows (k : Kernel) (hf : f.WellFormed) :
    f.Grows (k.openedFiles f) k.store.ancestors := createAll_grows hf _

/-- It is enough to look at every place. -/
theorem Spared.of_stays (hf' : f'.WellFormed) (hhere : f'.here = f.here)
    (h : ∀ q, f'.disk.node? q = f.disk.node? q ∨ k.Leftover f f' q) : k.Spared f f' where
  wellFormed := hf'
  here := hhere
  stays := h
  artifact place hlocates := by
    rcases h (place ++ [k.artifactName]) with hsame | hleft
    · exact Or.inl hsame
    · cases hleft with
      | directory _ hdir _ => exact Or.inr hdir
      | source own =>
        have hname := (List.append_inj' own rfl).2
        exact absurd hname (by simp [artifactName_ne_sourceName])
      | header _ own =>
        have hname := (List.append_inj' own rfl).2
        exact absurd hname (by simp [artifactName_ne_headerName])

theorem Spared.refl (hf : f.WellFormed) : k.Spared f f :=
  .of_stays hf rfl fun _ ↦ Or.inl rfl

/-- Opening the store adds directories alone. -/
theorem openedFiles_cases (k : Kernel) (hf : f.WellFormed) (q : Place) :
    (k.openedFiles f).disk.node? q = f.disk.node? q ∨ f.disk.node? q = none ∧
      (k.openedFiles f).disk.IsDirectory q ∧
        ∃ p ∈ k.store.ancestors, f.MadeBy (k.openedFiles f) p q := by
  have hgrows := k.openedFiles_grows hf
  cases hn : f.disk.node? q with
  | some n => exact Or.inl (hgrows.stays q n hn)
  | none =>
    cases hn' : (k.openedFiles f).disk.node? q with
    | none => exact Or.inl rfl
    | some n => exact Or.inr ⟨rfl, hgrows.made q hn (by simp [hn'])⟩

/-- What came about after the store was opened is left after it was not there. -/
theorem Spared.of_opened (hf : f.WellFormed) (hf' : f'.WellFormed)
    (hhere : f'.here = (k.openedFiles f).here)
    (h : ∀ q, f'.disk.node? q = (k.openedFiles f).disk.node? q ∨ k.Leftover f f' q) :
    k.Spared f f' := by
  refine .of_stays hf' (hhere.trans (k.openedFiles_grows hf).here) fun q ↦ ?_
  rcases h q with hsame | hleft
  · rcases k.openedFiles_cases hf q with hold | ⟨hfree, ⟨s, hs⟩, hleads⟩
    · exact Or.inl (hsame.trans hold)
    · exact Or.inr (.directory hfree ⟨s, hsame.trans hs⟩ hleads)
  · exact Or.inr hleft

/-- An artifact that could not be made leaves its source and its header at most. -/
private theorem make_spared (ht : k.toolchain.Confined) (hf : f.WellFormed)
    (hlink : k.NoHeaderLink f) (hh : h.files = k.openedFiles f) {r : Resolution}
    (hr : r.paths = k.paths) {error : KernelError} {h' : Host}
    (hmake : (k.make ⟨k.store⟩ r).runFrom h = (.error error, h')) : k.Spared f h'.files := by
  have hopened : h.files.WellFormed := hh ▸ (k.openedFiles_grows hf).wellFormed
  have hmaking := make_making ht hopened hr
  rw [hmake] at hmaking
  cases hmaking with
  | unwritten reaches =>
    refine .of_opened hf reaches.wellFormed (reaches.here.trans (by rw [hh])) fun q ↦ Or.inl ?_
    rw [reaches.shows, hh]
  | unpublished written isHeader wellFormed here _ stays =>
    refine .of_opened hf wellFormed (here.trans (by rw [hh])) fun q ↦ ?_
    rw [← hh]
    obtain ⟨serial, hreaches⟩ := written.reaches
    rcases stays q with hsame | ⟨hq, n, hn, hfile⟩
    · rw [hreaches.shows] at hsame
      split at hsame
      · next hown => exact Or.inr (.source hown (hh ▸ written.locates) hsame)
      · exact Or.inl hsame
    · right
      have htarget := isHeader.target q hq
      have hlocates := isHeader.locates q hq
      have hown := isHeader.own (fun t ↦ hh ▸ hlink htarget _ t (hh ▸ hlocates)) q hq
      exact .header htarget hown (hh ▸ hlocates) hn hfile

/-- A preparation that fails leaves new directories of the store, its own prepared source and its
own header at most, if its toolchain writes where it is asked to. -/
theorem prepare_error (k : Kernel) (l : Lifecycle) (h : Host) (ht : k.toolchain.Orderly)
    (hf : h.files.WellFormed) (hlink : k.NoHeaderLink h.files) {error : KernelError}
    (hfail : (k.prepare.runFrom (l, h)).1 = .error error) :
    k.Spared h.files (k.prepare.runFrom (l, h)).2.2.files := by
  have hpreparing := prepare_preparing k l h
  generalize k.prepare.runFrom (l, h) = r at hfail hpreparing ⊢
  cases hpreparing with
  | refused => exact .refl hf
  | unopened =>
    exact .of_opened hf (k.openedFiles_grows hf).wellFormed rfl fun q ↦ Or.inl rfl
  | failed pending isFile paths make =>
    have hspared := make_spared ht.isConfined hf hlink rfl paths make
    exact hspared
  | present => cases hfail
  | cached => cases hfail
  | compiled => cases hfail

/-! ### A header that is written through a link -/

/-- A kernel whose compiler leaves something and then fails. -/
def failing : Kernel := sample "k" (.leaving (utf8 "half") (utf8 "/* header */")
  (some (.compileFailed "cc" "exit status: 1" "error")))

/-- A link to the name of the artifact, under the name of the header. -/
def headerLink : Bytes × Node :=
  (utf8 ("k_" ++ sampleKey.text ++ ".h"), .link (.ofString ("k_" ++ sampleKey.text)))

/-- The preparation fails, and the header that it left through the link stands under the name of the
artifact, where nothing stood. -/
theorem prepare_error_headerLink : (sampleHost [headerLink]).files.WellFormed ∧
    failing.toolchain.Orderly ∧
    (failing.prepare.runFrom ({}, sampleHost [headerLink])).1.isOk = false ∧
    (sampleHost [headerLink]).files.isFile failing.paths.artifact = false ∧
    (failing.prepare.runFrom ({}, sampleHost [headerLink])).2.2.files.isFile
      failing.paths.artifact := by
  have hmissing : (sampleHost [headerLink]).files.isFile samplePaths.artifact = false := by
    cbv
  obtain ⟨key, existing, events, events', hok, hhost⟩ := prepare_sample "k" _ [headerLink] hmissing
  refine ⟨by decide +kernel, .confined (Toolchain.confined_leaving _ _ _), ?_, ?_, ?_⟩
  · rw [failing, hok]
    cbv
  · rw [failing, paths_sample, hmissing]
  · rw [failing, hhost, paths_sample]
    cbv

/-- In an empty directory there is no link. -/
theorem noHeaderLink_sampleHost {k : Kernel} (hstore : k.store = .ofString "/c") :
    k.NoHeaderLink (sampleHost []).files := by
  intro _ place t _ hn
  rw [openedFiles_sampleHost [] hstore, Disk.node?] at hn
  split at hn
  · cases hn
  · simp only [sampleHost, List.map_nil, List.lookup] at hn
    split at hn <;> cases hn

theorem prepare_failing : (failing.prepare.runFrom ({}, sampleHost [])).1.isOk = false := by
  obtain ⟨key, existing, events, events', hok, -⟩ := prepare_sample "k" _ [] (by cbv)
  rw [failing, hok, makeSample, Kernel.make]
  -- the text of the source does not matter, so it need not be evaluated
  generalize Kernel.preparedSource _ = text
  cbv

/-- Without the link, the preparation fails as well, and leaves its source and its header. -/
theorem prepare_error_failing : ∃ error,
    (failing.prepare.runFrom ({}, sampleHost [])).1 = .error error ∧
      failing.Spared (sampleHost []).files
        (failing.prepare.runFrom ({}, sampleHost [])).2.2.files := by
  obtain ⟨error, herror⟩ := Act.exists_error_of_isOk_eq_false prepare_failing
  have hlink : failing.NoHeaderLink (sampleHost []).files := noHeaderLink_sampleHost rfl
  exact ⟨error, herror, prepare_error failing {} (sampleHost [])
    (.confined (Toolchain.confined_leaving _ _ _)) (by decide +kernel) hlink herror⟩

end KernelForge.Kernel
