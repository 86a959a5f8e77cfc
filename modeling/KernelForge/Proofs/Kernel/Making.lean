import KernelForge.Kernel.Basic
import KernelForge.Proofs.Store.Names
import KernelForge.Proofs.Target.Building

/-!
# Making an artifact

An artifact that is not in the store is made in two steps: its prepared source is written, and it is
built and published. Main statement: for a confined toolchain, the files afterwards are as one of
the cases of `Making` says (`make_making`).
-/

namespace KernelForge.Kernel

open Files

variable {k : Kernel} {h h' : Host}

/-- The kernel with another toolchain. -/
def withToolchain (k : Kernel) (t : Toolchain) : Kernel := { k with toolchain := t }

/-- The key of the artifact of a kernel. -/
def key (k : Kernel) : StoreKey := .of k.symbol k.preparedSource

/-- Where the files of the artifact of a kernel lie. -/
def paths (k : Kernel) : ArtifactPaths :=
  .of k.store k.symbol k.key k.adapter.target.artifactKind

/-- What is common to the paths of the files of the artifact of a kernel. -/
def stem (k : Kernel) : Path := ArtifactPaths.stem k.store k.symbol k.preparedSource

/-- The name of the file with the prepared source. -/
def sourceName (k : Kernel) : Bytes := Path.lastPiece k.stem.bytes ++ utf8 ".c"

/-- The name of the header. -/
def headerName (k : Kernel) : Bytes := Path.lastPiece k.stem.bytes ++ utf8 ".h"

/-- The name of the artifact. -/
def artifactName (k : Kernel) : Bytes :=
  Path.lastPiece k.stem.bytes ++ utf8 k.adapter.target.artifactKind.ending

section Paths

variable {f f' : Files} {place : Place} {last : Bytes}

theorem isStem_stem (k : Kernel) : k.stem.IsStem := ArtifactPaths.isStem _ _ _

theorem source_eq (k : Kernel) : k.paths.source = k.stem.withEnd (utf8 ".c") :=
  ArtifactPaths.source_eq _ _ _ _

theorem header_eq (k : Kernel) : k.paths.header = k.stem.withEnd (utf8 ".h") :=
  ArtifactPaths.header_eq _ _ _ _

theorem artifact_eq (k : Kernel) :
    k.paths.artifact = k.stem.withEnd (utf8 k.adapter.target.artifactKind.ending) :=
  ArtifactPaths.artifact_eq _ _ _ _

theorem sourceName_ne_headerName (k : Kernel) : k.sourceName ≠ k.headerName := by
  intro h
  have := List.append_cancel_left h
  revert this
  decide

theorem artifactName_ne_sourceName (k : Kernel) : k.artifactName ≠ k.sourceName :=
  fun h ↦ ArtifactPaths.ending_ne_c _ (List.append_cancel_left h)

theorem slash_not_mem_artifactName (k : Kernel) : Path.slash ∉ k.artifactName := by
  rw [artifactName, List.mem_append, not_or]
  exact ⟨Path.slash_not_mem_lastPiece _, ArtifactPaths.slash_not_mem_ending _⟩

theorem artifactName_ne_nil (k : Kernel) : k.artifactName ≠ [] := by
  intro h
  exact k.isStem_stem.lastPiece_ne_nil (List.append_eq_nil_iff.mp h).1

theorem artifactName_ne_headerName (k : Kernel) : k.artifactName ≠ k.headerName :=
  fun h ↦ ArtifactPaths.ending_ne_h _ (List.append_cancel_left h)

theorem isAbsolute_source (h : k.store.isAbsolute) : k.paths.source.isAbsolute :=
  Path.isAbsolute_join_of_isAbsolute h _

theorem isSlashed_source (k : Kernel) : k.paths.source.isSlashed = false := by
  rw [source_eq]
  exact k.isStem_stem.isSlashed_eq ArtifactPaths.slash_not_mem_c

theorem isSlashed_artifact (k : Kernel) : k.paths.artifact.isSlashed = false := by
  rw [artifact_eq]
  exact k.isStem_stem.isSlashed_eq (ArtifactPaths.slash_not_mem_ending _)

theorem last_of_source (h : f.Locates k.paths.source place last) : last = k.sourceName := by
  rw [source_eq] at h
  exact h.last_withEnd k.isStem_stem ArtifactPaths.slash_not_mem_c

/-- Where the source is located, so is the artifact, if its path is not too long. -/
theorem locates_artifact (h : f.Locates k.paths.source place last) {spot : Spot}
    (hstart : f.start k.paths.artifact = .ok spot) :
    f.Locates k.paths.artifact place k.artifactName := by
  rw [source_eq] at h
  rw [artifact_eq] at hstart ⊢
  exact h.withEnd k.isStem_stem ArtifactPaths.slash_not_mem_c
    (ArtifactPaths.slash_not_mem_ending _) hstart

/-- Where the source is located, so is the header, if its path is not too long. -/
theorem locates_header (h : f.Locates k.paths.source place last) {spot : Spot}
    (hstart : f.start k.paths.header = .ok spot) :
    f.Locates k.paths.header place k.headerName := by
  rw [source_eq] at h
  rw [header_eq] at hstart ⊢
  exact h.withEnd k.isStem_stem ArtifactPaths.slash_not_mem_c ArtifactPaths.slash_not_mem_h hstart

/-- A file in the way of the artifact is in the way of the source. -/
theorem not_locates_source (h : f.Blocked k.paths.artifact) :
    ¬ f.Locates k.paths.source place last := by
  intro hs
  obtain ⟨here, left, hstart, -⟩ := id hs
  rw [artifact_eq] at h
  have hb : f.Blocked k.paths.source := by
    rw [source_eq] at hstart ⊢
    exact h.withEnd k.isStem_stem (ArtifactPaths.slash_not_mem_ending _)
      ArtifactPaths.slash_not_mem_c hstart
  have := hb.ending
  rw [hs.ending] at this
  cases this

end Paths

/-! ### What making does to the files -/

/-- The files in which the prepared source of `k` stands in the directory `place`. -/
structure Written (k : Kernel) (f f' : Files) (place : Place) : Prop where
  /-- The source is located there. -/
  locates : f.Locates k.paths.source place k.sourceName
  /-- Its name is not too long. -/
  short : ¬ nameLimit < k.sourceName.length
  /-- No directory stood under its name. -/
  replaced : ∀ s, f.disk.node? (place ++ [k.sourceName]) ≠ some (.directory s)
  /-- It is all that changed. -/
  reaches : ∃ serial, f.Reaches f' fun q ↦ if q = place ++ [k.sourceName] then
    some (.file serial (utf8 k.preparedSource) false) else f.disk.node? q

/-- A place where a header of `k` may have been written: under its own name in `place`, unless a
link stands there. -/
structure HeaderPlace (k : Kernel) (f : Files) (place : Place) (atHeader : Place → Prop) :
    Prop where
  /-- Only one target has headers. -/
  target : ∀ q, atHeader q → k.adapter.target = .rvv
  /-- The header is looked up in the directory. -/
  locates : ∀ q, atHeader q → f.Locates k.paths.header place k.headerName
  /-- Without a link, the header goes under its own name. -/
  own : (∀ t, f.disk.node? (place ++ [k.headerName]) ≠ some (.link t)) →
    ∀ q, atHeader q → q = place ++ [k.headerName]

/-- How making the artifact of `k` from `h` can end. -/
inductive Making (k : Kernel) (h : Host) : Except KernelError Unit × Host → Prop where
  /-- The source could not be written, and the tree shows what it showed. -/
  | unwritten {error : KernelError} {f' : Files} (reaches : h.files.Reaches f' h.files.disk.node?) :
      Making k h (.error error, { h with files := f' })
  /-- The source was written, and of the artifact nothing is left but a header. -/
  | unpublished {error : KernelError} {h' : Host} {f₁ : Files} {place : Place}
      {atHeader : Place → Prop} (written : k.Written h.files f₁ place)
      (isHeader : k.HeaderPlace h.files place atHeader) (wellFormed : h'.files.WellFormed)
      (here : h'.files.here = h.files.here) (keeps : f₁.disk.Keeps h'.files.disk)
      (stays : ∀ q, h'.files.disk.node? q = f₁.disk.node? q ∨
        atHeader q ∧ ∃ n, h'.files.disk.node? q = some n ∧ n.isFile) :
      Making k h (.error error, h')
  /-- The source was written, and the artifact was built and published. -/
  | published {h₃ : Host} {g f₁ f₂ : Files} {place scratch : Place} {n : Node}
      {events : List Event} {output : Path} (written : k.Written h.files f₁ place)
      (isHeader : k.HeaderPlace h.files place (k.adapter.AtHeader k.paths.header f₂))
      (wellFormed : f₂.WellFormed) (here : f₂.here = f₁.here)
      (locates : f₁.Locates k.paths.artifact place k.artifactName)
      (short : ¬ nameLimit < k.artifactName.length)
      (elsewhere : ∀ q, ¬ scratch <+: q → f₂.disk.node? q = f₁.disk.node? q)
      (built : (k.adapter.build k.toolchain k.paths.source output k.paths.header).runFrom
        { h with files := f₂ } = (.ok (), h₃))
      (left : h₃.files.Locates output scratch k.artifactName)
      (slashed : output.isSlashed = false)
      (node : h₃.files.disk.node? (scratch ++ [k.artifactName]) = some n)
      (published : Published f₁ g scratch (place ++ [k.artifactName]) n
        (k.adapter.AtHeader k.paths.header f₂)) :
      Making k h (.ok (), { h₃ with files := g, events })

section Make

variable {f : Files}

theorem Written.keeps {place : Place} (hw : k.Written h.files f place) :
    h.files.disk.Keeps f.disk := by
  obtain ⟨serial, hreaches⟩ := hw.reaches
  exact (Disk.Keeps.refl _).set hw.replaced rfl fun q m hm ↦ hreaches.shows q

theorem Written.wellFormed {place : Place} (hw : k.Written h.files f place) : f.WellFormed := by
  obtain ⟨serial, hreaches⟩ := hw.reaches
  exact hreaches.wellFormed

theorem Written.here {place : Place} (hw : k.Written h.files f place) : f.here = h.files.here := by
  obtain ⟨serial, hreaches⟩ := hw.reaches
  exact hreaches.here

/-- Where a build in a scratch directory writes the header. -/
theorem headerPlace_scratched {place T : Place} {name : Bytes} {scratch : Path} {f₁ : Files}
    (hf : h.files.WellFormed) (hw : k.Written h.files f place)
    (hs : Scratched f f₁ scratch T name) :
    k.HeaderPlace h.files place (k.adapter.AtHeader k.paths.header f₁) := by
  -- the header is looked up where the source is
  have hlocates : ∀ q, k.adapter.AtHeader k.paths.header f₁ q →
      h.files.Locates k.paths.header place k.headerName := by
    intro q hq
    cases hstart : h.files.start k.paths.header with
    | ok spot => exact locates_header hw.locates hstart
    | error cause =>
      have := hq.2
      simp [Files.target, start_eq_error hstart, bind, Except.bind] at this
  refine ⟨fun q hq ↦ hq.1, hlocates, fun hlink q hq ↦ ?_⟩
  rcases (hlocates q hq).keeps hf hs.reaches.wellFormed (hs.reaches.here.trans hw.here)
    (hw.keeps.trans hs.keeps) with hl | hb
  · refine hl.target_ok (fun t ht ↦ ?_) hq.2
    obtain ⟨serial, hreaches⟩ := hw.reaches
    have hne : place ++ [k.headerName] ≠ place ++ [k.sourceName] := by
      intro he
      exact k.sourceName_ne_headerName (by simpa using he.symm)
    rw [hs.reaches.shows] at ht
    split at ht
    · cases ht
    · rw [hreaches.shows, if_neg hne] at ht
      exact hlink t ht
  · exact absurd hq.2 (hb.target q)

theorem fileName?_artifact (k : Kernel) : k.paths.artifact.fileName? = some k.artifactName := by
  rw [artifact_eq, k.isStem_stem.fileName? (ArtifactPaths.slash_not_mem_ending _)]
  rfl

/-- Until a scratch directory is there, making an artifact asks nothing of the toolchain; then it
publishes what the build leaves in that directory. -/
theorem make_cases (k : Kernel) (hf : h.files.WellFormed) {r : Resolution}
    (hr : r.paths = k.paths) :
    (∃ error f', h.files.Reaches f' h.files.disk.node? ∧ ∀ t,
        ((k.withToolchain t).make ⟨k.store⟩ r).runFrom h = (.error error, { h with files := f' })) ∨
      (∃ error place f₁ f', k.Written h.files f₁ place ∧ f₁.Reaches f' f₁.disk.node? ∧ ∀ t,
        ((k.withToolchain t).make ⟨k.store⟩ r).runFrom h = (.error error, { h with files := f' })) ∨
      ∃ place f₁ scratch T name f₂, k.Written h.files f₁ place ∧ Scratched f₁ f₂ scratch T name ∧
        ∀ t, ((k.withToolchain t).make ⟨k.store⟩ r).runFrom h =
          (Store.publishFrom scratch (scratch.join ⟨k.artifactName⟩) k.paths.artifact
            (k.adapter.build t k.paths.source (scratch.join ⟨k.artifactName⟩)
              k.paths.header)).runFrom { h with files := f₂ } := by
  have hmake : ∀ t, (k.withToolchain t).make ⟨k.store⟩ r = (do
      Store.writeSource ⟨k.store⟩ k.paths k.preparedSource
      Store.publish ⟨k.store⟩ k.paths.artifact fun output ↦
        k.adapter.build t k.paths.source output k.paths.header) := fun t ↦ by rw [make, hr]; rfl
  rcases Store.writeSource_cases ⟨k.store⟩ k.paths k.preparedSource hf isAbsolute_source with
    ⟨error, f', hwrite, hreaches⟩ |
      ⟨place, last, serial, f₁, hwrite, hlocates, hshort, hreplaced, hreaches⟩
  · exact Or.inl ⟨error, f', hreaches, fun t ↦ by rw [hmake, Act.runFrom_bind_error hwrite]⟩
  right
  obtain rfl := last_of_source hlocates
  have hw : k.Written h.files f₁ place := ⟨hlocates, hshort, hreplaced, serial, hreaches⟩
  rcases Store.openScratch_cases (h := { h with files := f₁ }) hreaches.wellFormed ⟨k.store⟩
    k.paths.artifact with ⟨error, f', hopen, hsame⟩ | ⟨scratch, T, name, f₂, hopen, hs⟩
  · refine Or.inl ⟨error, place, f₁, f', hw, hsame, fun t ↦ ?_⟩
    rw [hmake, Act.runFrom_bind_ok hwrite, Store.publish, Act.runFrom_bind_error hopen]
  · refine Or.inr ⟨place, f₁, scratch, T, name, f₂, hw, hs, fun t ↦ ?_⟩
    have houtput : Store.outputIn scratch k.paths.artifact = scratch.join ⟨k.artifactName⟩ := by
      rw [Store.outputIn, fileName?_artifact]
      rfl
    rw [hmake, Act.runFrom_bind_ok hwrite, Store.publish, Act.runFrom_bind_ok hopen, houtput]

/-- Where the output of a build in a scratch directory is left. -/
theorem scratch_output (k : Kernel) {scratch : Path} {T : Place} {name : Bytes}
    {f₁ f₂ : Files} (hs : Scratched f₁ f₂ scratch T name) :
    (scratch.join ⟨k.artifactName⟩).isSlashed = false ∧
      (f₂.Locates (scratch.join ⟨k.artifactName⟩) (T ++ [name]) k.artifactName ∨
        ∃ cause, ∀ g : Files, g.start (scratch.join ⟨k.artifactName⟩) = .error cause) ∧
      f₂.disk.node? (T ++ [name] ++ [k.artifactName]) = none := by
  obtain ⟨hslash, hpath⟩ := hs.output k.slash_not_mem_artifactName k.artifactName_ne_nil
    (k.isStem_stem.ne_dot _) (k.isStem_stem.ne_dotDot _)
  refine ⟨hslash, hpath, ?_⟩
  rw [hs.shows (by simp)]
  exact hs.below (List.prefix_append _ _)

/-- Where the artifact is to be published, once the source is written. -/
theorem Written.target {f₁ : Files} {place : Place} (hw : k.Written h.files f₁ place)
    (hf : h.files.WellFormed) {spot : Spot} (hstart : f₁.start k.paths.artifact = .ok spot) :
    f₁.Locates k.paths.artifact place k.artifactName ∨ f₁.Blocked k.paths.artifact :=
  (locates_artifact hw.locates (start_isOk hstart h.files)).keeps hf hw.wellFormed hw.here hw.keeps

/-- Making the artifact of a kernel whose toolchain is confined ends in one of three ways. -/
theorem make_making (ht : k.toolchain.Confined) (hf : h.files.WellFormed) {r : Resolution}
    (hr : r.paths = k.paths) : Making k h ((k.make ⟨k.store⟩ r).runFrom h) := by
  show Making k h (((k.withToolchain k.toolchain).make ⟨k.store⟩ r).runFrom h)
  rcases k.make_cases hf hr with ⟨error, f', hreaches, hrun⟩ |
    ⟨error, place, f₁, f', hw, hsame, hrun⟩ | ⟨place, f₁, scratch, T, name, f₂, hw, hs, hrun⟩
  · rw [hrun]
    exact .unwritten hreaches
  · rw [hrun]
    have hnone : k.HeaderPlace h.files place fun _ ↦ False :=
      ⟨fun _ ↦ False.elim, fun _ ↦ False.elim, fun _ _ ↦ False.elim⟩
    refine .unpublished hw hnone hsame.wellFormed (hsame.here.trans hw.here)
      (Disk.Keeps.of_node? fun q n hn ↦ ?_) fun q ↦ Or.inl (hsame.shows q)
    rw [hsame.shows, hn]
  rw [hrun]
  have hheader := headerPlace_scratched hf hw hs
  obtain ⟨hslash, hpath, hfree⟩ := k.scratch_output hs
  obtain ⟨hbuilt, hfile⟩ := k.adapter.build_built (h := { h with files := f₂ }) k.paths.source
    k.paths.header ht hs.reaches.wellFormed (Path.isAbsolute_join_of_isAbsolute hs.absolute _) hpath
    hfree
  rcases Store.publishFrom_cases scratch (scratch.join ⟨k.artifactName⟩) k.paths.artifact
      (k.adapter.build k.toolchain k.paths.source (scratch.join ⟨k.artifactName⟩) k.paths.header)
      { h with files := f₂ } with ⟨error, hrun⟩ | ⟨h₃, f₄, events, hbuild, hrename, hrun⟩
  · rw [hrun]
    obtain ⟨g, hclean, hg, hhere, hkeeps, hstays⟩ := hs.failed hbuilt
    rw [Store.clean, hclean]
    exact .unpublished hw hheader hg (hhere.trans hw.here) hkeeps hstays
  · rw [hrun, Store.clean]
    rw [hbuild] at hbuilt hfile
    obtain ⟨n, hn, hleft, hlocates', hshort', hpublished⟩ :=
      hs.published hbuilt (hfile rfl) hpath (fun _ ↦ hw.target hf) hrename
    show Making k h (.ok (), { h₃ with files := ((removeTree scratch).runFrom f₄).2, events })
    refine .published hw hheader hs.reaches.wellFormed hs.reaches.here hlocates' hshort'
      (fun q hq ↦ hs.shows ?_) hbuild hleft hslash hn hpublished
    rintro rfl
    exact hq (List.prefix_refl _)

end Make

end KernelForge.Kernel
