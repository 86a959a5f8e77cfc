import KernelForge.Proofs.Kernel.FailedPreparation
import KernelForge.Proofs.Kernel.Settling
import KernelForge.Proofs.Store.Separation
import KernelForge.Proofs.Tool.Computing

/-!
# Artifacts that are found in place of compiled ones

A preparation that compiles leaves what the compiler makes of the prepared source and of what the
adapter asks for. The name of the artifact tells the source and says nothing of the architecture,
the chip or the SDK: what another kernel finds under its own name was made of its own source, as the
first kernel had it compiled. Main statement: `cached_eq_compiled`.
-/

namespace KernelForge

open Files

variable {t : Toolchain} {out : CompileSettings → Bytes → RehearsedOutput}

/-- A build that succeeds leaves what is computed of its source, and the compilation is the newest
call. -/
theorem Adapter.build_computed {source output header : Path} {h h' : Host} (a : Adapter)
    (ht : t.Confined) (hout : t.Computes out) (hf : h.files.WellFormed) {place : Place}
    {name content : Bytes} {serial : Nat} {n : Node}
    (hsource : h.files.Locates source place name ∨ h.files.Blocked source)
    (hslash : source.isSlashed = false) (hshort : ¬ nameLimit < name.length)
    (hnode : h.files.disk.node? (place ++ [name]) = some (.file serial content false))
    (hheader : ∀ q, a.AtHeader header h.files q → q ≠ place ++ [name])
    (hbuild : (a.build t.booked source output header).runFrom h = (.ok (), h'))
    (houtput : h'.files.node output = .ok n) (hfile : n.isFile) :
    ∃ request text calls, a.Asks request ∧ n.left = out request.settings content ∧
      h'.ledger = ⟨.compile request text, true, n.left⟩ :: calls := by
  obtain ⟨request, h₁, rfl, rfl, hasks, hchanges, -, hkeeps, hcompile⟩ :=
    a.build_asked ht.booked hf hbuild
  have hledger := t.ledger_compile h₁ request
  have hcomputed := hout.booked request h₁ n
  rw [hcompile] at hledger hcomputed
  obtain ⟨text, hread, hleft⟩ := hcomputed rfl houtput hfile
  rw [leftAt, houtput] at hledger
  refine ⟨request, _, _, hasks, ?_, hledger⟩
  -- the compiler has read its source, so that no file is in the way
  have hlocates : h₁.files.Locates request.source place name := by
    have hkept : h₁.files.Locates request.source place name ∨ h₁.files.Blocked request.source := by
      rcases hsource with hl | hb
      · exact hl.keeps hf hchanges.wellFormed hchanges.here hkeeps
      · exact Or.inr (hb.keeps hf hchanges.wellFormed hchanges.here hkeeps)
    rcases hkept with hl | hb
    · exact hl
    · simp [Files.read, hb.node_eq hchanges.wellFormed, bind, Except.bind] at hread
  have hnode₁ : h₁.files.disk.node? (place ++ [name]) = some (.file serial content false) := by
    rw [hchanges.stays _ fun hq ↦ hheader _ hq rfl, hnode]
  have hfound := hlocates.node_eq hshort hnode₁ (by simp) (Or.inl hslash)
  have htext : content = text := by
    simpa [Files.read, hfound, Node.file?, bind, Except.bind] using hread
  rw [hleft, htext]

namespace Kernel

variable {k : Kernel} {l : Lifecycle} {h h' : Host}

/-- The toolchain of `k` is confined, computes `out` and keeps a ledger. -/
def CompilesBy (k : Kernel) (out : CompileSettings → Bytes → RehearsedOutput) : Prop :=
  ∃ t : Toolchain, t.Confined ∧ t.Computes out ∧ k.toolchain = t.booked

theorem CompilesBy.confined (hk : k.CompilesBy out) : k.toolchain.Confined := by
  obtain ⟨t, ht, -, hbooked⟩ := hk
  exact hbooked ▸ ht.booked

/-- Preparing `k` compiles by the request `r` and leaves `x` as the artifact. -/
structure Compiles (k : Kernel) (l : Lifecycle) (h : Host) (r : CompileRequest)
    (x : RehearsedOutput) : Prop where
  /-- It answers with a compiled artifact. -/
  prepared : ∃ p, (k.prepare.runFrom (l, h)).1 = .ok p ∧ p.origin = .compiled
  /-- The compilation is the last of the calls that it made. -/
  asked : ∃ text left calls, (k.prepare.runFrom (l, h)).2.2.ledger =
    ⟨.compile r text, true, left⟩ :: calls ++ h.ledger
  /-- The artifact is there. -/
  isFile : (k.prepare.runFrom (l, h)).2.2.files.isFile k.paths.artifact
  /-- It is as described. -/
  left : (k.prepare.runFrom (l, h)).2.2.files.leftAt k.paths.artifact = x

/-- Preparing `k` answers with the artifact at `p`, which was in the store, and `x` is there. -/
structure Hits (k : Kernel) (l : Lifecycle) (h : Host) (p : Path) (x : RehearsedOutput) : Prop where
  /-- It answers with a cached artifact at the path. -/
  prepared : ∃ a, (k.prepare.runFrom (l, h)).1 = .ok a ∧ a.origin = .cached ∧ a.record.path = p
  /-- The artifact is as described. -/
  left : (k.prepare.runFrom (l, h)).2.2.files.leftAt p = x

/-- An artifact that is made is what is computed of the prepared source, and the compilation is the
newest call. -/
theorem make_computed (hk : k.CompilesBy out) (hf : h.files.WellFormed)
    (hlink : k.adapter.target = .rvv → ∀ place p,
      h.files.Locates k.paths.header place k.headerName →
      h.files.disk.node? (place ++ [k.headerName]) ≠ some (.link p))
    {r : Resolution} (hr : r.paths = k.paths)
    (hmake : (k.make ⟨k.store⟩ r).runFrom h = (.ok (), h')) :
    ∃ request text calls, k.adapter.Asks request ∧
      h'.ledger = ⟨.compile request text, true,
        out request.settings (utf8 k.preparedSource)⟩ :: calls ∧
      (h'.files.isFile k.paths.artifact →
        h'.files.leftAt k.paths.artifact = out request.settings (utf8 k.preparedSource)) := by
  have hmaking := make_making hk.confined hf hr
  rw [hmake] at hmaking
  cases hmaking with
  | @published h₃ g f₁ f₂ place scratch n events output written isHeader wellFormed here locates
      short elsewhere built left slashed node published =>
    obtain ⟨t, ht, hout, hbooked⟩ := hk
    obtain ⟨serial, hreaches⟩ := written.reaches
    have hsource : f₁.disk.node? (place ++ [k.sourceName]) =
        some (.file serial (utf8 k.preparedSource) false) := by
      rw [hreaches.shows, if_pos rfl]
    have hscratch : ∀ q n, f₁.disk.node? q = some n → f₂.disk.node? q = some n := by
      intro q n hn
      rw [elsewhere q, hn]
      intro hq
      rw [published.below q hq] at hn
      cases hn
    have hheader : ∀ q, k.adapter.AtHeader k.paths.header f₂ q → q ≠ place ++ [k.sourceName] := by
      intro q hq he
      have hown := isHeader.own (fun p ↦ hlink hq.1 place p (isHeader.locates q hq)) q hq
      rw [hown] at he
      exact k.sourceName_ne_headerName (List.singleton_inj.mp (List.append_cancel_left he)).symm
    have hlinkless : ∀ p, n ≠ .link p := by
      rintro p rfl
      cases published.isFile
    rw [hbooked] at built
    obtain ⟨request, text, calls, hasks, hleft, hledger⟩ :=
      k.adapter.build_computed ht hout (h := { h with files := f₂ }) wellFormed
        (written.locates.keeps hf wellFormed (here.trans written.here)
          (written.keeps.trans (Disk.Keeps.of_node? hscratch)))
        k.isSlashed_source written.short (hscratch _ _ hsource) hheader built
        (left.node_eq short node hlinkless (Or.inl slashed)) published.isFile
    refine ⟨request, text, calls, hasks, hleft ▸ hledger, fun hfile ↦ ?_⟩
    rcases locates.keeps written.wellFormed published.wellFormed published.here published.keeps with
      hl | hb
    · have hnode := hl.node_eq short published.artifact hlinkless (Or.inl k.isSlashed_artifact)
      show g.leftAt k.paths.artifact = _
      rw [leftAt, hnode, ← hleft]
    · have hblocked := hb.isFile published.wellFormed
      rw [show g.isFile k.paths.artifact = true from hfile] at hblocked
      cases hblocked

/-- What a preparation compiles is what is computed of the prepared source and of what the adapter
asks for. -/
theorem Compiles.eq_out {r : CompileRequest} {x : RehearsedOutput} (hc : k.Compiles l h r x)
    (hk : k.CompilesBy out) (hf : h.files.WellFormed) (hlink : k.NoHeaderLink h.files) :
    k.adapter.Asks r ∧ x = out r.settings (utf8 k.preparedSource) := by
  obtain ⟨⟨p, hp, horigin⟩, ⟨text, left, calls, hasked⟩, hfile, hleft⟩ := hc
  have hpreparing := prepare_preparing k l h
  generalize k.prepare.runFrom (l, h) = result at hpreparing hp hasked hfile hleft
  cases hpreparing with
  | refused => cases hp
  | present =>
    have hlength := congrArg List.length hasked
    simp at hlength
    omega
  | unopened => cases hp
  | cached =>
    cases hp
    cases horigin
  | failed => cases hp
  | @compiled _ _ events _ pending isFile paths make =>
    obtain ⟨request, text', calls', hasks, hledger, hartifact⟩ :=
      make_computed (h := { h with files := k.openedFiles h.files, events }) hk
        (k.openedFiles_grows hf).wellFormed (fun htarget place p hl ↦ hlink htarget place p hl)
        paths make
    obtain ⟨hcall, -⟩ := List.cons.inj (hasked.symm.trans hledger)
    rw [ToolCall.mk.injEq, RehearsalStep.compile.injEq] at hcall
    obtain ⟨⟨rfl, -⟩, -, -⟩ := hcall
    exact ⟨hasks, hleft.symm.trans (hartifact hfile)⟩

/-- Kernels with one path for their artifacts have one prepared source, unless the bytes under their
keys collide. -/
theorem preparedSource_eq_or_collision {k₁ k₂ : Kernel} (hstore : k₁.store = k₂.store)
    (h : k₂.paths.artifact = k₁.paths.artifact) :
    k₁.preparedSource = k₂.preparedSource ∨
      Sha256.Collision (StoreKey.framed k₁.symbol k₁.preparedSource)
        (StoreKey.framed k₂.symbol k₂.preparedSource) := by
  rw [artifact_eq, artifact_eq, stem, stem, hstore] at h
  obtain ⟨-, hsame⟩ := ArtifactPaths.withEnd_inj (ArtifactPaths.isEnd_ending _)
    (ArtifactPaths.isEnd_ending _) h.symm
  exact hsame.imp_left And.right

/-- What the path of a hit is. -/
theorem Hits.path_eq {p : Path} {x : RehearsedOutput} (hh : k.Hits l h p x) (hl : k.Remembers l) :
    p = k.paths.artifact := by
  obtain ⟨a, ha, -, rfl⟩ := hh.prepared
  rw [(prepare_record hl).2 a ha]
  rfl

/-- Let two kernels share the directory of their stores, and let compilers compute the function
`out` of what they are asked for. If the first kernel has compiled an artifact and the second one
finds it in the store, it is what is computed of the source of the second kernel for the request of
the first one. Whatever the second kernel compiles where it finds nothing is the same, if it asks
for the same: for the vector extension, if the architectures are the same. -/
theorem cached_eq_compiled {k₁ k₂ : Kernel} {l₁ l₂ : Lifecycle} {h₁ h₂ : Host}
    {r₁ : CompileRequest} {x : RehearsedOutput} (hstore : k₁.store = k₂.store)
    (hk₁ : k₁.CompilesBy out) (hk₂ : k₂.CompilesBy out)
    (hf₁ : h₁.files.WellFormed) (hlink₁ : k₁.NoHeaderLink h₁.files) (hl₂ : k₂.Remembers l₂)
    (hfirst : k₁.Compiles l₁ h₁ r₁ x) (hsecond : k₂.Hits l₂ h₂ k₁.paths.artifact x) :
    Sha256.Collision (StoreKey.framed k₁.symbol k₁.preparedSource)
        (StoreKey.framed k₂.symbol k₂.preparedSource) ∨
      k₁.adapter.Asks r₁ ∧ x = out r₁.settings (utf8 k₂.preparedSource) ∧
        ∀ (l₃ : Lifecycle) (h₃ : Host) (r₂ : CompileRequest) (y : RehearsedOutput),
          h₃.files.WellFormed → k₂.NoHeaderLink h₃.files → k₂.Compiles l₃ h₃ r₂ y →
            k₂.adapter.Asks r₂ ∧ (r₁.settings = r₂.settings → x = y) ∧
              ∀ c₁ c₂, k₁.adapter = .rvv c₁ → k₂.adapter = .rvv c₂ → c₁.rvvArch = c₂.rvvArch →
                x = y := by
  obtain ⟨hasks₁, hx⟩ := hfirst.eq_out hk₁ hf₁ hlink₁
  rcases preparedSource_eq_or_collision hstore (hsecond.path_eq hl₂).symm with hsource | hcollision
  · right
    rw [hsource] at hx
    refine ⟨hasks₁, hx, fun l₃ h₃ r₂ y hf₃ hlink₃ hmiss ↦ ?_⟩
    obtain ⟨hasks₂, hy⟩ := hmiss.eq_out hk₂ hf₃ hlink₃
    have hsame : r₁.settings = r₂.settings → x = y := fun h ↦ by rw [hx, hy, h]
    refine ⟨hasks₂, hsame, fun c₁ c₂ hc₁ hc₂ harch ↦ hsame ?_⟩
    rw [hc₁] at hasks₁
    rw [hc₂] at hasks₂
    obtain ⟨hdriver₁, harch₁, hoptions₁⟩ := hasks₁
    obtain ⟨hdriver₂, harch₂, hoptions₂⟩ := hasks₂
    rw [CompileRequest.settings, CompileRequest.settings, hdriver₁, hdriver₂, harch₁, harch₂,
      hoptions₁, hoptions₂, harch]
  · exact Or.inl hcollision

/-! ### Two architectures -/

section Architectures

/-- The compiler whose output is the name of the architecture. -/
def archTools : Toolchain :=
  (Toolchain.computing (fun settings _ ↦ utf8 (settings.arch.getD "")) (utf8 "header")).booked

/-- A kernel for an architecture. -/
def archKernel (entry arch : String) : Kernel :=
  { sample entry archTools with adapter := .rvv { rvvArch := arch } }

/-- The files of the store once the kernel is compiled. -/
def archFiles (text arch : String) : Files where
  disk := {
    nodes := [
      ([utf8 "c", utf8 ("k_" ++ sampleKey.text)], .file 5 (utf8 arch) false),
      ([utf8 "c", utf8 ("k_" ++ sampleKey.text ++ ".h")], .file 4 (utf8 "header") false),
      ([utf8 "c", utf8 ("k_" ++ sampleKey.text ++ ".c")],
        .file 2 (utf8 text) false),
      ([utf8 "c"], .directory 1)]
    next := 6
    removed := [(3, 1), (3, 1)] }
  here := 0
  drawn := 2

variable {entry entry' arch arch' text : String}

theorem isFile_archFiles : (archFiles text arch).isFile samplePaths.artifact = true := by cbv

theorem leftAt_archFiles :
    (archFiles text arch).leftAt samplePaths.artifact = .file (utf8 arch) := by
  cbv

theorem compilesBy_archKernel : (archKernel entry arch).CompilesBy
    fun settings _ ↦ .file (utf8 (settings.arch.getD "")) :=
  ⟨_, Toolchain.confined_computing _ _, Toolchain.computes_computing _ _, rfl⟩

theorem paths_archKernel : (archKernel entry arch).paths = samplePaths :=
  paths_sample entry archTools

/-- A preparation in an empty directory that succeeds compiles. -/
private theorem compiles_of_isOk {k : Kernel} (hk : k.CompilesBy out)
    (hstore : k.store = .ofString "/c") (hpaths : k.paths = samplePaths)
    (hok : (k.prepare.runFrom ({}, sampleHost [])).1.isOk)
    (hfile : (k.prepare.runFrom ({}, sampleHost [])).2.2.files.isFile k.paths.artifact) :
    ∃ r, k.Compiles {} (sampleHost []) r
      ((k.prepare.runFrom ({}, sampleHost [])).2.2.files.leftAt k.paths.artifact) := by
  have hopened := openedFiles_sampleHost [] hstore
  have hmissing : (sampleHost []).files.isFile samplePaths.artifact = false := by cbv
  have hlink := noHeaderLink_sampleHost hstore
  suffices h : ∃ r,
      (∃ p, (k.prepare.runFrom ({}, sampleHost [])).1 = .ok p ∧ p.origin = .compiled) ∧
      ∃ text left calls, (k.prepare.runFrom ({}, sampleHost [])).2.2.ledger =
        ⟨.compile r text, true, left⟩ :: calls ++ (sampleHost []).ledger by
    obtain ⟨r, hprepared, hasked⟩ := h
    exact ⟨r, hprepared, hasked, hfile, rfl⟩
  have hpreparing := prepare_preparing k {} (sampleHost [])
  generalize k.prepare.runFrom ({}, sampleHost []) = result at hpreparing hok ⊢
  cases hpreparing with
  | refused => cases hok
  | present _ prepared => cases prepared
  | unopened => cases hok
  | cached _ isFile =>
    rw [hopened, hpaths, hmissing] at isFile
    cases isFile
  | failed => cases hok
  | @compiled _ _ events _ pending isFile paths make =>
    have hf : (sampleHost []).files.WellFormed := by decide +kernel
    obtain ⟨r, text, calls, -, hledger, -⟩ := make_computed
      (h := { sampleHost [] with files := k.openedFiles (sampleHost []).files, events }) hk
      (k.openedFiles_grows hf).wellFormed (fun htarget place p hl ↦ hlink htarget place p hl)
      paths make
    have hnone : (sampleHost []).ledger = [] := rfl
    rw [← List.append_nil (_ :: calls)] at hledger
    rw [hnone]
    exact ⟨r, ⟨_, rfl, rfl⟩, text, _, calls, hledger⟩

/-- Whether making the artifact went well, and the files then. -/
private def archMade (entry arch : String) (r : Resolution) (events : List Event) : Bool × Files :=
  let made := ((archKernel entry arch).make ⟨.ofString "/c"⟩ r).runFrom
    { sampleHost [] with events }
  (made.1.isOk, made.2.files)

-- neither the text of the source nor that it can be read matters, so they need not be evaluated
private theorem archMade_eq (entry arch : String) (key : StoreKey) (existing : Option Path)
    (events : List Event) : archMade entry arch ⟨key, samplePaths, existing⟩ events =
      (true, archFiles (archKernel entry arch).preparedSource arch) := by
  rw [archMade, Kernel.make]
  generalize (archKernel entry arch).preparedSource = text
  simp only [archKernel, archTools, Toolchain.booked]
  generalize Files.readText = readText
  cbv

/-- The kernel is compiled in the empty directory of its store. -/
private theorem compiles_archKernel (entry arch : String) :
    ((archKernel entry arch).prepare.runFrom ({}, sampleHost [])).2.2.files =
        archFiles (archKernel entry arch).preparedSource arch ∧
      ∃ r, (archKernel entry arch).Compiles {} (sampleHost []) r (.file (utf8 arch)) := by
  obtain ⟨key, existing, events, events', hok, hhost⟩ :=
    prepare_sampleHost (k := archKernel entry arch) [] rfl paths_archKernel (by cbv)
  have hmade := archMade_eq entry arch key existing events
  simp only [archMade, Prod.mk.injEq] at hmade
  obtain ⟨hok', hfiles'⟩ := hmade
  have hfiles : ((archKernel entry arch).prepare.runFrom ({}, sampleHost [])).2.2.files =
      archFiles (archKernel entry arch).preparedSource arch := by
    simpa only [hhost] using hfiles'
  obtain ⟨r, hcompiles⟩ := compiles_of_isOk compilesBy_archKernel rfl paths_archKernel
    (hok.trans hok') (by rw [hfiles, paths_archKernel, isFile_archFiles])
  rw [hfiles, paths_archKernel, leftAt_archFiles] at hcompiles
  exact ⟨hfiles, r, hcompiles⟩

/-- Whatever architecture it is for, a kernel finds what is in the store. -/
private theorem hits_archKernel {h : Host} (hfiles : h.files = archFiles text arch) :
    (archKernel entry' arch').Hits {} h samplePaths.artifact (.file (utf8 arch)) := by
  have hopen : (createDirectories (archKernel entry' arch').store).runFrom h.files =
      (.ok (), archFiles text arch) := by
    rw [hfiles]
    cbv
  have hopened : (archKernel entry' arch').openedFiles h.files = archFiles text arch :=
    congrArg Prod.snd hopen
  have hfile : ((archKernel entry' arch').openedFiles h.files).isFile
      (archKernel entry' arch').paths.artifact = true := by
    rw [hopened, paths_archKernel, isFile_archFiles]
  obtain ⟨events, hprepare⟩ := prepare_eq_cached (k := archKernel entry' arch') (l := {}) (h := h)
    ⟨rfl, by simp⟩ (congrArg Prod.fst hopen) hfile
  refine ⟨⟨_, by rw [hprepare], rfl, congrArg ArtifactPaths.artifact paths_archKernel⟩, ?_⟩
  rw [hprepare]
  show ((archKernel entry' arch').openedFiles h.files).leftAt samplePaths.artifact = _
  rw [hopened, leftAt_archFiles]

/-- What the second kernel finds was compiled for the architecture of the first one; where it finds
nothing, it compiles for its own. -/
theorem cached_eq_compiled_architectures :
    let first := archKernel "k" "rv64gc"
    let second := archKernel "k" "rv64gcv"
    let out : CompileSettings → Bytes → RehearsedOutput :=
      fun settings _ ↦ .file (utf8 (settings.arch.getD ""))
    first.store = second.store ∧ first.CompilesBy out ∧ second.CompilesBy out ∧
      ∃ r₁ r₂, first.Compiles {} (sampleHost []) r₁ (.file (utf8 "rv64gc")) ∧
        second.Hits {} (first.prepare.runFrom ({}, sampleHost [])).2.2 first.paths.artifact
          (.file (utf8 "rv64gc")) ∧
        second.Compiles {} (sampleHost []) r₂ (.file (utf8 "rv64gcv")) ∧
        utf8 "rv64gc" ≠ utf8 "rv64gcv" := by
  obtain ⟨hfiles, r₁, hfirst⟩ := compiles_archKernel "k" "rv64gc"
  obtain ⟨-, r₂, hmiss⟩ := compiles_archKernel "k" "rv64gcv"
  refine ⟨rfl, compilesBy_archKernel, compilesBy_archKernel, r₁, r₂, hfirst, ?_, hmiss, by decide⟩
  rw [paths_archKernel]
  exact hits_archKernel hfiles

/-- A namesake for the same architecture finds what it would have compiled. -/
theorem cached_eq_compiled_namesakes :
    let first := archKernel "k" "rv64gc"
    let second := archKernel "again" "rv64gc"
    let out : CompileSettings → Bytes → RehearsedOutput :=
      fun settings _ ↦ .file (utf8 (settings.arch.getD ""))
    ∃ r₁ r₂, first.Compiles {} (sampleHost []) r₁ (.file (utf8 "rv64gc")) ∧
      second.Hits {} (first.prepare.runFrom ({}, sampleHost [])).2.2 first.paths.artifact
        (.file (utf8 "rv64gc")) ∧
      second.Compiles {} (sampleHost []) r₂ (.file (utf8 "rv64gc")) ∧
      (Sha256.Collision (StoreKey.framed first.symbol first.preparedSource)
          (StoreKey.framed second.symbol second.preparedSource) ∨
        first.adapter.Asks r₁ ∧
          .file (utf8 "rv64gc") = out r₁.settings (utf8 second.preparedSource) ∧
          second.adapter.Asks r₂) := by
  obtain ⟨hfiles, r₁, hfirst⟩ := compiles_archKernel "k" "rv64gc"
  obtain ⟨-, r₂, hmiss⟩ := compiles_archKernel "again" "rv64gc"
  have hstore : (archKernel "k" "rv64gc").store = (archKernel "again" "rv64gc").store := rfl
  have hf : (sampleHost []).files.WellFormed := by decide +kernel
  have hfresh : (archKernel "again" "rv64gc").Remembers {} := fun p hp ↦ by cases hp
  have hhit : (archKernel "again" "rv64gc").Hits {}
      ((archKernel "k" "rv64gc").prepare.runFrom ({}, sampleHost [])).2.2
      (archKernel "k" "rv64gc").paths.artifact (.file (utf8 "rv64gc")) := by
    rw [paths_archKernel]
    exact hits_archKernel hfiles
  have hagree := cached_eq_compiled hstore compilesBy_archKernel compilesBy_archKernel hf
    (noHeaderLink_sampleHost rfl) hfresh hfirst hhit
  refine ⟨r₁, r₂, hfirst, hhit, hmiss, hagree.imp_right fun ⟨hasks₁, hx, hcompiled⟩ ↦ ?_⟩
  exact ⟨hasks₁, hx, (hcompiled _ _ _ _ hf (noHeaderLink_sampleHost rfl) hmiss).1⟩

end Architectures

end Kernel

end KernelForge
