import KernelForge.Proofs.Disk.Leading
import KernelForge.Proofs.Kernel.Calls

/-!
# What a preparation adds to its store

In the directory of its store, a preparation adds its own source, its own header and its own
artifact. An artifact that it adds was left by a compilation that succeeded and was given the
prepared source, which lies beside the artifact. Main statement: `prepare_added`.
-/

namespace KernelForge

open Files

/-- In the list `calls`, a compilation that succeeded was given `source` and left `n`. -/
def Compiled (calls : List ToolCall) (source : String) (n : Node) : Prop :=
  ∃ call ∈ calls, call.succeeded ∧ (∃ r, call.asked = .compile r (some source)) ∧ call.left = n.left

/-- A build that succeeds compiled the source that it was given. -/
theorem Adapter.build_compiled {t : Toolchain} {source output header : Path} {h h' : Host}
    (a : Adapter) (ht : t.Confined) (hf : h.files.WellFormed) {place : Place}
    {name : Bytes} {serial : Nat} {text : String} {n : Node}
    (hsource : h.files.Locates source place name) (hslash : source.isSlashed = false)
    (hshort : ¬ nameLimit < name.length)
    (hnode : h.files.disk.node? (place ++ [name]) = some (.file serial (utf8 text) false))
    (hheader : ∀ q, a.AtHeader header h.files q → q ≠ place ++ [name])
    (hbuild : (a.build t.booked source output header).runFrom h = (.ok (), h'))
    (houtput : h'.files.node output = .ok n) : Compiled h'.ledger text n := by
  obtain ⟨request, h₁, rfl, rfl, -, hchanges, hextends, -, hcompile⟩ :=
    a.build_asked ht.booked hf hbuild
  -- what is compiled is what was written, since the header goes elsewhere
  have hsource₁ := hsource.extends hf hchanges.wellFormed hchanges.here hextends
  have hnode₁ : h₁.files.disk.node? (place ++ [name]) = some (.file serial (utf8 text) false) := by
    rw [hchanges.stays _ fun hq ↦ hheader _ hq rfl, hnode]
  have hread : h₁.files.readText request.source = .ok text := by
    have hfound := hsource₁.node_eq hshort hnode₁ (by simp) (Or.inl hslash)
    simp [readText, Files.read, hfound, Node.file?, text?_utf8, bind, Except.bind]
  have hledger := t.ledger_compile h₁ request
  rw [hcompile, hread, leftAt, houtput] at hledger
  rw [hledger]
  exact ⟨_, List.mem_cons_self, rfl, ⟨request, rfl⟩, rfl⟩

namespace Kernel

variable {k : Kernel} {t : Toolchain} {l : Lifecycle} {h h' : Host} {directory place : Place}

/-! ### Names in the directory -/

section Names

theorem source_eq_join (hk : '/' ∉ k.symbol.toList) :
    k.paths.source = k.store.join ⟨k.sourceName⟩ := by
  rw [sourceName, stem, ArtifactPaths.lastPiece_stem_of_not_mem _ _ _ hk, ← utf8_append]
  rfl

theorem artifact_eq_join (hk : '/' ∉ k.symbol.toList) :
    k.paths.artifact = k.store.join ⟨k.artifactName⟩ := by
  rw [artifactName, stem, ArtifactPaths.lastPiece_stem_of_not_mem _ _ _ hk, ← utf8_append]
  cases hkind : k.adapter.target.artifactKind with
  | sharedLibrary =>
    simp [paths, ArtifactPaths.of, hkind, ArtifactKind.extension?, ArtifactKind.ending,
      Path.joinText, Path.ofString, key, String.append_assoc]
  | executable =>
    simp [paths, ArtifactPaths.of, hkind, ArtifactKind.extension?, ArtifactKind.ending,
      Path.joinText, Path.ofString, key]

theorem slash_not_mem_sourceName (k : Kernel) : Path.slash ∉ k.sourceName := by
  rw [sourceName, List.mem_append, not_or]
  exact ⟨Path.slash_not_mem_lastPiece _, ArtifactPaths.slash_not_mem_c⟩

theorem sourceName_ne_nil (k : Kernel) : k.sourceName ≠ [] := by
  intro h
  exact k.isStem_stem.lastPiece_ne_nil (List.append_eq_nil_iff.mp h).1

/-- The source of a kernel is written in the directory of its store. -/
theorem Written.place_eq {f f' : Files} (hw : k.Written f f' place)
    (hk : '/' ∉ k.symbol.toList) (hleads : f.Leads k.store directory) : place = directory := by
  have hlocates := hw.locates
  rw [source_eq_join hk] at hlocates
  exact (hleads.locates k.slash_not_mem_sourceName k.sourceName_ne_nil hlocates).1

end Names

/-! ### What is added -/

/-- What a preparation of `k` may add in the directory of its store. -/
inductive Added (k : Kernel) (directory : Place) (f : Files) (calls : List ToolCall) (q : Place) :
    Prop where
  /-- The prepared source, complete. -/
  | source {serial : Nat} (own : q = directory ++ [k.sourceName])
      (complete : f.disk.node? q = some (.file serial (utf8 k.preparedSource) false))
  /-- A header. -/
  | header {n : Node} (own : q = directory ++ [k.headerName]) (node : f.disk.node? q = some n)
      (isFile : n.isFile)
  /-- The artifact, as it was compiled from the source that lies beside it. -/
  | artifact {n : Node} {serial : Nat} (own : q = directory ++ [k.artifactName])
      (node : f.disk.node? q = some n) (isFile : n.isFile)
      (compiled : Compiled calls k.preparedSource n)
      (beside : f.disk.node? (directory ++ [k.sourceName]) =
        some (.file serial (utf8 k.preparedSource) false))

/-- What is added is added in the directory. -/
theorem Added.inside {f : Files} {calls : List ToolCall} {q : Place}
    (h : k.Added directory f calls q) : ∃ name, q = directory ++ [name] := by
  cases h with
  | source own => exact ⟨_, own⟩
  | header own => exact ⟨_, own⟩
  | artifact own => exact ⟨_, own⟩

theorem Added.isFile {f : Files} {calls : List ToolCall} {q : Place}
    (h : k.Added directory f calls q) : ∃ n, f.disk.node? q = some n ∧ n.isFile := by
  cases h with
  | source own complete => exact ⟨_, complete, rfl⟩
  | header own node isFile => exact ⟨_, node, isFile⟩
  | artifact own node isFile => exact ⟨_, node, isFile⟩

section Make

variable (ht : t.Confined) (hk : k.toolchain = t.booked) (hsymbol : '/' ∉ k.symbol.toList)

theorem Written.stays {f f' : Files} (hw : k.Written f f' directory) (q : Place) :
    f'.disk.node? q = f.disk.node? q ∨ q = directory ++ [k.sourceName] ∧
      ∃ serial, f'.disk.node? q = some (.file serial (utf8 k.preparedSource) false) := by
  obtain ⟨serial, hreaches⟩ := hw.reaches
  rw [hreaches.shows]
  split
  · next hq => exact Or.inr ⟨hq, serial, rfl⟩
  · exact Or.inl rfl

/-- What stands once the source is written. -/
theorem Written.shows {f f' : Files} (hw : k.Written f f' directory) :
    ∃ serial, f'.disk.node? (directory ++ [k.sourceName]) =
      some (.file serial (utf8 k.preparedSource) false) := by
  obtain ⟨serial, hreaches⟩ := hw.reaches
  exact ⟨serial, by rw [hreaches.shows, if_pos rfl]⟩

/-- Where no link gives way to the source, directories and links stay. -/
theorem Written.extends {f f' : Files} (hw : k.Written f f' directory)
    (hlink : ∀ p, f.disk.node? (directory ++ [k.sourceName]) ≠ some (.link p)) :
    f.disk.Extends f'.disk := by
  intro q n hn hway
  rcases hw.stays q with hsame | ⟨rfl, -⟩
  · rw [hsame, hn]
  · cases n with
    | directory s => exact absurd hn (hw.replaced s)
    | link p => exact absurd hn (hlink p)
    | _ => cases hway

include ht hk hsymbol

/-- What making an artifact adds. -/
theorem make_added (hf : h.files.WellFormed) (hleads : h.files.Leads k.store directory)
    (hlink : ∀ name p, h.files.disk.node? (directory ++ [name]) ≠ some (.link p))
    {r : Resolution} (hr : r.paths = k.paths) (q : Place) :
    ((k.make ⟨k.store⟩ r).runFrom h).2.files.disk.node? q = h.files.disk.node? q ∨
      k.Added directory ((k.make ⟨k.store⟩ r).runFrom h).2.files
        ((k.make ⟨k.store⟩ r).runFrom h).2.ledger q := by
  have hmaking := make_making (hk ▸ ht.booked) hf hr
  generalize (k.make ⟨k.store⟩ r).runFrom h = result at hmaking ⊢
  cases hmaking with
  | unwritten reaches => exact Or.inl (reaches.shows q)
  | unpublished written isHeader wellFormed here keeps stays =>
    obtain rfl := written.place_eq hsymbol hleads
    rcases stays q with hsame | ⟨hq, n, hn, hfile⟩
    · rcases written.stays q with hold | ⟨hown, serial, hshows⟩
      · exact Or.inl (hsame.trans hold)
      · exact Or.inr (.source hown (hsame.trans hshows))
    · exact Or.inr (.header (isHeader.own (hlink _) q hq) hn hfile)
  | @published h₃ g f₁ f₂ place scratch n events output written isHeader wellFormed here locates
      short elsewhere built left slashed node published =>
    obtain rfl := written.place_eq hsymbol hleads
    obtain ⟨serial, hsource⟩ := written.shows
    have hscratch : ∀ {q n}, f₁.disk.node? q = some n → ¬ scratch <+: q := by
      intro q n hn hq
      rw [published.below q hq] at hn
      cases hn
    have hheader : ∀ q, k.adapter.AtHeader k.paths.header f₂ q → q = place ++ [k.headerName] :=
      isHeader.own (hlink _)
    have hcompiled : Compiled h₃.ledger k.preparedSource n := by
      have hextends : h.files.disk.Extends f₂.disk := by
        intro q n hn hway
        have hn₁ := written.extends (hlink _) q n hn hway
        rw [elsewhere q (hscratch hn₁), hn₁]
      have hnode : h₃.files.node output = .ok n := by
        refine left.node_eq short node ?_ (Or.inl slashed)
        rintro p rfl
        cases published.isFile
      rw [hk] at built
      refine k.adapter.build_compiled ht (h := { h with files := f₂ }) wellFormed
        (written.locates.extends hf wellFormed (here.trans written.here) hextends)
        k.isSlashed_source written.short (by rw [elsewhere _ (hscratch hsource), hsource])
        (fun q hq ↦ ?_) built hnode
      simp [hheader q hq, k.sourceName_ne_headerName.symm]
    have hbeside : g.disk.node? (place ++ [k.sourceName]) =
        some (.file serial (utf8 k.preparedSource) false) := by
      rcases published.stays _ (hscratch hsource) (by simp [k.artifactName_ne_sourceName.symm]) with
        hsame | ⟨hq, -⟩
      · rw [hsame, hsource]
      · exact absurd (hheader _ hq) (by simp [k.sourceName_ne_headerName])
    by_cases hq : q = place ++ [k.artifactName]
    · exact Or.inr (.artifact hq (hq ▸ published.artifact) published.isFile hcompiled hbeside)
    by_cases hbelow : scratch <+: q
    · -- the scratch directory is gone, and it was not there before
      have hno : ∀ p, f₁.disk.node? (place ++ [k.artifactName]) ≠ some (.link p) := by
        intro p hp
        rcases written.stays (place ++ [k.artifactName]) with hsame | ⟨hown, -⟩
        · exact hlink _ p (hsame.symm.trans hp)
        · simp [k.artifactName_ne_sourceName] at hown
      rcases written.stays q with hsame | ⟨-, serial', hshows⟩
      · exact Or.inl ((published.gone hno q hbelow).trans
          ((published.below q hbelow).symm.trans hsame))
      · exact absurd hbelow (hscratch hshows)
    · rcases published.stays q hbelow hq with hsame | ⟨hown, m, hm, hfile⟩
      · rcases written.stays q with hold | ⟨hown, serial', hshows⟩
        · exact Or.inl (hsame.trans hold)
        · exact Or.inr (.source hown (hsame.trans hshows))
      · exact Or.inr (.header (hheader q hown) hm hfile)

/-- What a preparation adds: directories on the way to its store where there were none, and then its
own source, its own header and its own artifact. -/
theorem prepare_added (hf : h.files.WellFormed) (hleads : h.files.Leads k.store directory)
    (hlink : ∀ name p, h.files.disk.node? (directory ++ [name]) ≠ some (.link p)) (q : Place) :
    (k.prepare.runFrom (l, h)).2.2.files.disk.node? q = h.files.disk.node? q ∨
      (q <+: directory ∧ h.files.disk.node? q = none ∧
        (k.prepare.runFrom (l, h)).2.2.files.disk.IsDirectory q) ∨
      k.Added directory (k.prepare.runFrom (l, h)).2.2.files
        (k.prepare.runFrom (l, h)).2.2.ledger q := by
  have hopened := hleads.createDirectories hf
  have hgrows : h.files.Grows (k.openedFiles h.files) k.store.ancestors := createAll_grows hf _
  have hleads' : (k.openedFiles h.files).Leads k.store directory :=
    hleads.extends hf hgrows.wellFormed hgrows.here hgrows.extends fun q _ hfree ↦ by
      rcases hopened q with hsame | ⟨-, -, hdir⟩
      · exact Or.inl (hsame.trans hfree)
      · exact Or.inr hdir
  have hlink' : ∀ name p,
      (k.openedFiles h.files).disk.node? (directory ++ [name]) ≠ some (.link p) := by
    intro name p hp
    rcases hopened (directory ++ [name]) with hsame | ⟨-, -, s, hs⟩
    · exact hlink name p (hsame.symm.trans hp)
    · exact absurd (hp.symm.trans hs) (by simp)
  have hmade : ∀ {r : Resolution} {events : List Event} {answer : Except KernelError Unit}
      {h' : Host}, r.paths = k.paths →
      (k.make ⟨k.store⟩ r).runFrom { h with files := k.openedFiles h.files, events } =
        (answer, h') → h'.files.disk.node? q = h.files.disk.node? q ∨
          (q <+: directory ∧ h.files.disk.node? q = none ∧ h'.files.disk.IsDirectory q) ∨
          k.Added directory h'.files h'.ledger q := by
    intro r events answer h' hr hmake
    have hadded := make_added ht hk hsymbol
      (h := { h with files := k.openedFiles h.files, events }) hgrows.wellFormed hleads' hlink' hr q
    rw [hmake] at hadded
    rcases hadded with hsame | hadded
    · rcases hopened q with hold | ⟨hway, hfree, s, hs⟩
      · exact Or.inl (hsame.trans hold)
      · exact Or.inr (Or.inl ⟨hway, hfree, s, hsame.trans hs⟩)
    · exact Or.inr (Or.inr hadded)
  have hpreparing := prepare_preparing k l h
  generalize k.prepare.runFrom (l, h) = result at hpreparing ⊢
  cases hpreparing with
  | refused => exact Or.inl rfl
  | present => exact Or.inl rfl
  | unopened => exact (hopened q).imp_right Or.inl
  | cached => exact (hopened q).imp_right Or.inl
  | failed pending isFile paths make =>
    have hadded := hmade paths make
    exact hadded
  | compiled pending isFile paths make =>
    have hadded := hmade paths make
    exact hadded

end Make

end Kernel

end KernelForge
