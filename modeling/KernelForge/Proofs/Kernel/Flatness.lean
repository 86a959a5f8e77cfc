import KernelForge.Proofs.Disk.Joined
import KernelForge.Proofs.Kernel.FailedPreparation

/-!
# The store is flat

A symbol without a slash makes names without a slash, so that the source, the artifact and the
header of a kernel lie right in the directory of its store. A preparation then changes nothing but
what stands under these names, and makes the directory where it is missing; only a link under such
a name leads it elsewhere. A symbol with a slash makes paths that are no names in the store. Main
statements: `isChild_iff` and `prepare_flat`.
-/

namespace KernelForge.Kernel

open Files

variable {k : Kernel} {l : Lifecycle} {h : Host} {f f' : Files} {q : Place}

/-- The paths of the files of the artifact of a kernel. -/
def ownPaths (k : Kernel) : List Path := [k.paths.source, k.paths.artifact, k.paths.header]

/-- Their names. -/
def ownNames (k : Kernel) : List Bytes := [k.sourceName, k.artifactName, k.headerName]

/-- The store of `k` is the directory at a place, once it is opened. -/
def StoredIn (k : Kernel) (f : Files) (directory : Place) : Prop :=
  (k.openedFiles f).place (k.store.join ⟨Path.dot⟩) = .ok directory

/-! ### Names in the store -/

/-- What stands behind the store in the paths of `k`, but for the ending. -/
def stemText (k : Kernel) : String := k.symbol ++ "_" ++ k.key.text

theorem withEnd_stem (k : Kernel) (t : String) :
    k.stem.withEnd (utf8 t) = k.store.joinText (k.stemText ++ t) := by
  rw [stem, ArtifactPaths.stem, ← Path.joinText_append]
  · rfl
  · intro h
    simpa using congrArg String.toList h

/-- The paths of `k` are set behind the store with one of three endings. -/
theorem mem_ownPaths {p : Path} (hp : p ∈ k.ownPaths) :
    ∃ t, Path.slash ∉ utf8 t ∧ p = k.stem.withEnd (utf8 t) := by
  simp only [ownPaths, List.mem_cons, List.not_mem_nil, or_false] at hp
  rcases hp with rfl | rfl | rfl
  · exact ⟨_, ArtifactPaths.slash_not_mem_c, k.source_eq⟩
  · exact ⟨_, ArtifactPaths.slash_not_mem_ending _, k.artifact_eq⟩
  · exact ⟨_, ArtifactPaths.slash_not_mem_h, k.header_eq⟩

/-- Behind a symbol without a slash, a path is the name that it ends in. -/
theorem withEnd_stem_eq_join (hplain : '/' ∉ k.symbol.toList) (t : String) :
    k.stem.withEnd (utf8 t) = k.store.join ⟨Path.lastPiece k.stem.bytes ++ utf8 t⟩ := by
  rw [withEnd_stem, Path.joinText, Path.ofString, utf8_append, stem,
    ArtifactPaths.lastPiece_stem_of_not_mem _ _ _ hplain]
  rfl

/-- What a path of `k` ends in is a name. -/
theorem lastPiece_stem_append (k : Kernel) {t : String} (ht : Path.slash ∉ utf8 t) :
    Path.slash ∉ Path.lastPiece k.stem.bytes ++ utf8 t ∧
      Path.lastPiece k.stem.bytes ++ utf8 t ≠ [] := by
  rw [List.mem_append, not_or]
  exact ⟨⟨Path.slash_not_mem_lastPiece _, ht⟩,
    fun hnil ↦ k.isStem_stem.lastPiece_ne_nil (List.append_eq_nil_iff.mp hnil).1⟩

theorem isChild_withEnd (hplain : '/' ∉ k.symbol.toList) {t : String} (ht : Path.slash ∉ utf8 t) :
    Path.IsChild k.store (k.stem.withEnd (utf8 t)) := by
  obtain ⟨hslash, hnil⟩ := k.lastPiece_stem_append ht
  exact ⟨_, hslash, hnil, k.isStem_stem.ne_dot _, k.isStem_stem.ne_dotDot _,
    withEnd_stem_eq_join hplain t⟩

/-- Where the symbol is no absolute path, the files of a kernel lie right in its store exactly if
the symbol has no slash. -/
theorem isChild_iff (hrelative : (Path.ofString k.symbol).isAbsolute = false) {p : Path}
    (hp : p ∈ k.ownPaths) : Path.IsChild k.store p ↔ '/' ∉ k.symbol.toList := by
  obtain ⟨t, ht, rfl⟩ := mem_ownPaths hp
  refine ⟨fun hchild hmem ↦ ?_, fun hplain ↦ isChild_withEnd hplain ht⟩
  rw [withEnd_stem, Path.joinText] at hchild
  have hbytes : (Path.ofString (k.stemText ++ t)).bytes =
      utf8 k.symbol ++ utf8 ("_" ++ k.key.text ++ t) := by
    rw [Path.ofString, ← utf8_append, stemText]
    simp only [String.append_assoc]
  refine Path.not_isChild ?_ ?_ hchild
  · rw [Path.isAbsolute, hbytes]
    rw [Path.isAbsolute, Path.ofString] at hrelative
    cases hsymbol : utf8 k.symbol with
    | nil => rw [List.nil_append, String.append_assoc, utf8_append]; rfl
    | cons b rest => simpa [hsymbol] using hrelative
  · rw [hbytes]
    exact List.mem_append_left _ (slash_mem_utf8_iff.mpr hmem)

/-! ### What a preparation changes -/

/-- What a preparation of `k` may change at a place. -/
inductive Touched (k : Kernel) (f f' : Files) (q : Place) : Prop where
  /-- A new directory, made under the path of the store or that of a directory above it while the
  store was opened. -/
  | directory (free : f.disk.node? q = none) (isDirectory : f'.disk.IsDirectory q)
      (leads : ∃ p ∈ k.store.ancestors, f.MadeBy (k.openedFiles f) p q)
  /-- One of its own names in its store. -/
  | child {directory : Place} {name : Bytes} (stored : k.StoredIn f directory)
      (own : q = directory ++ [name]) (isOwn : name ∈ k.ownNames)
  /-- A header that is written through a link, which stands under its name. -/
  | linked {directory : Place} {t : Path} {n : Node} (target : k.adapter.target = .rvv)
      (stored : k.StoredIn f directory)
      (link : (k.openedFiles f).disk.node? (directory ++ [k.headerName]) = some (.link t))
      (node : f'.disk.node? q = some n) (isFile : n.isFile)
  /-- A part of a scratch directory that cannot be removed, for the artifact has taken the place of
  a link. -/
  | scratch {directory : Place} {t : Path} (stored : k.StoredIn f directory)
      (link : (k.openedFiles f).disk.node? (directory ++ [k.artifactName]) = some (.link t))
      (free : f.disk.node? q = none)

/-- The source is located in the store. -/
theorem Written.storedIn {g f₁ : Files} {place : Place} (hplain : '/' ∉ k.symbol.toList)
    (hh : h.files = k.openedFiles g) (hw : k.Written h.files f₁ place) : k.StoredIn g place := by
  have hlocates := hw.locates
  rw [source_eq, withEnd_stem_eq_join hplain] at hlocates
  rw [StoredIn, ← hh]
  obtain ⟨hslash, hnil⟩ := k.lastPiece_stem_append ArtifactPaths.slash_not_mem_c
  exact hlocates.place_directory hslash hnil

/-- A written source stands under its own name. -/
theorem Written.touched {g f₁ : Files} {place : Place} (hw : k.Written h.files f₁ place)
    (stored : k.StoredIn g place) (f' : Files) (q : Place) :
    f₁.disk.node? q = h.files.disk.node? q ∨ k.Touched g f' q := by
  obtain ⟨serial, hreaches⟩ := hw.reaches
  rw [hreaches.shows]
  split
  · next hown => exact Or.inr (.child stored hown (by simp [ownNames]))
  · exact Or.inl rfl

/-- What is no file beside a written source was there before. -/
theorem Written.node_eq {f₁ : Files} {place : Place} (hw : k.Written h.files f₁ place)
    {n? : Option Node} (hn : f₁.disk.node? q = n?) (hfile : ∀ n ∈ n?, ¬ n.isFile) :
    h.files.disk.node? q = n? := by
  obtain ⟨serial, hreaches⟩ := hw.reaches
  rw [hreaches.shows] at hn
  split at hn
  · subst hn
    exact absurd rfl (hfile _ rfl)
  · exact hn

/-- What is free once the store is opened was free before. -/
theorem free_of_openedFiles (hf : f.WellFormed) (hfree : (k.openedFiles f).disk.node? q = none) :
    f.disk.node? q = none := by
  rcases k.openedFiles_cases hf q with hold | ⟨hnone, -⟩
  · exact hold ▸ hfree
  · exact hnone

/-- A header stands under its own name, unless that is the name of a link. -/
theorem HeaderPlace.touched {g : Files} {place : Place} {atHeader : Place → Prop} {n : Node}
    (hh : h.files = k.openedFiles g) (hp : k.HeaderPlace h.files place atHeader)
    (stored : k.StoredIn g place) (hq : atHeader q) (hn : f'.disk.node? q = some n)
    (hfile : n.isFile) : k.Touched g f' q := by
  by_cases hlink : ∃ t, h.files.disk.node? (place ++ [k.headerName]) = some (.link t)
  · obtain ⟨t, ht⟩ := hlink
    exact .linked (hp.target q hq) stored (hh ▸ ht) hn hfile
  · exact .child stored (hp.own (not_exists.mp hlink) q hq) (by simp [ownNames])

/-- Where the store is opened, making the artifact touches the places that a preparation may. -/
theorem make_touched (hplain : '/' ∉ k.symbol.toList) (ht : k.toolchain.Confined)
    (hf : f.WellFormed) (hh : h.files = k.openedFiles f) {r : Resolution} (hr : r.paths = k.paths)
    (q : Place) : ((k.make ⟨k.store⟩ r).runFrom h).2.files.disk.node? q = h.files.disk.node? q ∨
      k.Touched f ((k.make ⟨k.store⟩ r).runFrom h).2.files q := by
  have hmaking := make_making ht (hh ▸ (k.openedFiles_grows hf).wellFormed) hr
  generalize (k.make ⟨k.store⟩ r).runFrom h = result at hmaking ⊢
  cases hmaking with
  | unwritten reaches => exact Or.inl (reaches.shows q)
  | unpublished written isHeader _ _ _ stays =>
    have stored := written.storedIn hplain hh
    rcases stays q with hsame | ⟨hq, n, hn, hfile⟩
    · rw [hsame]
      exact written.touched stored _ q
    · exact Or.inr (isHeader.touched hh stored hq hn hfile)
  | @published h₃ g f₁ f₂ place scratch n events output written isHeader _ _ _ _ _ _ _ _ _
      published =>
    have stored := written.storedIn hplain hh
    by_cases hscratch : scratch <+: q
    · have hfree := published.below q hscratch
      by_cases hlink : ∃ t, f₁.disk.node? (place ++ [k.artifactName]) = some (.link t)
      · obtain ⟨t, hlink⟩ := hlink
        have hlink' := written.node_eq hlink (by simp [Node.isFile])
        have hfree' := written.node_eq hfree (by simp)
        rw [hh] at hlink' hfree'
        exact Or.inr (.scratch stored hlink' (free_of_openedFiles hf hfree'))
      · rw [published.gone (not_exists.mp hlink) q hscratch, ← hfree]
        exact written.touched stored _ q
    · by_cases hown : q = place ++ [k.artifactName]
      · exact Or.inr (.child stored hown (by simp [ownNames]))
      · rcases published.stays q hscratch hown with hsame | ⟨hq, n, hn, hfile⟩
        · rw [hsame]
          exact written.touched stored _ q
        · exact Or.inr (isHeader.touched hh stored hq hn hfile)

/-- The store of a kernel is flat: without a slash in its symbol, its source, its artifact and its
header lie right in the store, and a preparation, however it ends, changes nothing but what stands
under these names, and makes the directory of the store and those above it. Where a link stands
under such a name, a header may be written through it, or a scratch directory be left. -/
theorem prepare_flat (k : Kernel) (l : Lifecycle) (h : Host) (hplain : '/' ∉ k.symbol.toList)
    (ht : k.toolchain.Orderly) (hf : h.files.WellFormed) :
    (∀ p ∈ k.ownPaths, Path.IsChild k.store p) ∧ ∀ q,
      (k.prepare.runFrom (l, h)).2.2.files.disk.node? q = h.files.disk.node? q ∨
        k.Touched h.files (k.prepare.runFrom (l, h)).2.2.files q := by
  refine ⟨fun p hp ↦ ?_, fun q ↦ ?_⟩
  · obtain ⟨t, ht, rfl⟩ := mem_ownPaths hp
    exact isChild_withEnd hplain ht
  have hopened : ∀ f', f'.disk.node? q = (k.openedFiles h.files).disk.node? q ∨
      k.Touched h.files f' q → f'.disk.node? q = h.files.disk.node? q ∨
        k.Touched h.files f' q := by
    rintro f' (hsame | htouched)
    · rcases k.openedFiles_cases hf q with hold | ⟨hfree, ⟨s, hs⟩, hleads⟩
      · exact Or.inl (hsame.trans hold)
      · exact Or.inr (.directory hfree ⟨s, hsame.trans hs⟩ hleads)
    · exact Or.inr htouched
  have hpreparing := prepare_preparing k l h
  generalize k.prepare.runFrom (l, h) = result at hpreparing ⊢
  cases hpreparing with
  | refused => exact Or.inl rfl
  | present => exact Or.inl rfl
  | unopened => exact hopened _ (Or.inl rfl)
  | cached => exact hopened _ (Or.inl rfl)
  | @failed _ _ _ events _ _ _ paths make =>
    have htouched := make_touched (h := { h with files := k.openedFiles h.files, events }) hplain
      ht.isConfined hf rfl paths q
    rw [make] at htouched
    exact hopened _ htouched
  | @compiled _ _ events _ _ _ paths make =>
    have htouched := make_touched (h := { h with files := k.openedFiles h.files, events }) hplain
      ht.isConfined hf rfl paths q
    rw [make] at htouched
    exact hopened _ htouched

/-- A kernel whose symbol is a name. -/
def housed : Kernel := sample "k" (.leaving (utf8 "code") (utf8 "header") none)

/-- In the empty directory of its store, the kernel changes what stands under its own names. -/
theorem prepare_flat_housed : (∀ p ∈ housed.ownPaths, Path.IsChild (.ofString "/c") p) ∧ ∀ q,
    (housed.prepare.runFrom ({}, sampleHost [])).2.2.files.disk.node? q =
        (sampleHost []).files.disk.node? q ∨
      housed.Touched (sampleHost []).files
        (housed.prepare.runFrom ({}, sampleHost [])).2.2.files q :=
  prepare_flat housed {} (sampleHost []) (by decide) (.confined (Toolchain.confined_leaving _ _ _))
    (by decide +kernel)

/-! ### A kernel whose symbol has a slash -/

/-- A kernel whose symbol leads out of its store. -/
def escaping : Kernel :=
  { sample "../o/k" (.leaving (utf8 "code") (utf8 "header") none) with symbol := "../o/k" }

/-- The key of the kernel. -/
def escapingKey : StoreKey :=
  ⟨"55728070c6772ff3f2b3156a7b5aa3e64aa4a8419ac34d44be5e3caaf9210a14"⟩

/-- A host with the empty directory of the store, and another one beside it. -/
def escapingHost : Host where
  files := {
    disk := {
      nodes := [([utf8 "c"], .directory 1), ([utf8 "o"], .directory 2)]
      next := 3 }
    here := 0 }

private theorem paths_escaping :
    escaping.paths = .of (.ofString "/c") "../o/k" escapingKey .executable := by
  have hdigest : Sha256.digest (StoreKey.framed "../o/k" (Target.withPrelude "")) =
      [85, 114, 128, 112, 198, 119, 47, 243, 242, 179, 21, 106, 123, 90, 163, 230, 74, 164, 168, 65,
        154, 195, 77, 68, 190, 94, 60, 170, 249, 33, 10, 20] := by
    decide +kernel
  have hkey : escaping.key = escapingKey := by
    show StoreKey.mk
      (Bytes.hex (Sha256.digest (StoreKey.framed "../o/k" (Target.withPrelude "")))) = _
    rw [hdigest]
    cbv
  rw [paths, hkey]
  rfl

/-- The path of an artifact of the kernel in the directory beside the store. -/
def escaped : Path := .ofString ("/o/k_" ++ escapingKey.text)

/-- Whether making the artifact went well, and whether it is beside the store. -/
private def escapes (r : Except KernelError Unit × Host) : Bool × Bool :=
  (r.1.isOk, r.2.files.isFile escaped)

private theorem escapes_make (key : StoreKey) (existing : Option Path) (events : List Event) :
    escapes ((escaping.make ⟨escaping.store⟩ ⟨key, escaping.paths, existing⟩).runFrom
      { escapingHost with events }) = (true, true) := by
  rw [Kernel.make, paths_escaping]
  generalize escaping.preparedSource = text
  cbv

/-- The store is an empty directory, but the artifact is left in the directory beside it, where
nothing stood. -/
theorem prepare_flat_escaping : escapingHost.files.WellFormed ∧ escaping.toolchain.Orderly ∧
    escaping.StoredIn escapingHost.files [utf8 "c"] ∧
    (∀ p ∈ escaping.ownPaths, ¬ Path.IsChild escaping.store p) ∧
    (escaping.prepare.runFrom ({}, escapingHost)).1.isOk ∧
    escapingHost.files.isFile escaped = false ∧
    (escaping.prepare.runFrom ({}, escapingHost)).2.2.files.isFile escaped := by
  have hopen : (createDirectories escaping.store).runFrom escapingHost.files =
      (.ok (), escapingHost.files) := by
    cbv
  have hopened : escaping.openedFiles escapingHost.files = escapingHost.files :=
    congrArg Prod.snd hopen
  obtain ⟨⟨key, paths, existing⟩, events, rfl, hok, events', hhost⟩ :=
    prepare_eq_make (k := escaping) (l := {}) (h := escapingHost) ⟨rfl, by simp⟩
      (congrArg Prod.fst hopen) (by rw [hopened, paths_escaping]; cbv)
  rw [hopened] at hok hhost
  have hmade := escapes_make key existing events
  simp only [escapes, Prod.mk.injEq] at hmade
  refine ⟨by decide +kernel, .confined (Toolchain.confined_leaving _ _ _), ?_, fun p hp hchild ↦ ?_,
    hok.trans hmade.1, by cbv, ?_⟩
  · rw [StoredIn, hopened]
    cbv
  · exact (isChild_iff (by decide +kernel) hp).mp hchild (by decide +kernel)
  · simpa only [hhost] using hmade.2

end KernelForge.Kernel
