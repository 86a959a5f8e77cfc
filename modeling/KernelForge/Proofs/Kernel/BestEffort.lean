import KernelForge.Proofs.Kernel.FailedPreparation
import KernelForge.Proofs.Kernel.Invoking
import KernelForge.Proofs.Store.Twice
import KernelForge.Proofs.Target.Executing
import KernelForge.Proofs.Target.Twice

/-!
# Steps that decide nothing

For the vector extension, extracting a header and simulating are tried, and what comes of them
decides nothing: two toolchains that compile by one function prepare a kernel alike but for the
header, and an invocation fails or hands out tensors alike, whatever the simulator does. A link
under the name of the header is the exception, since the header is written through it. Main
statement: `trials_alike`.
-/

namespace KernelForge.Kernel

open Files

variable {k : Kernel} {l : Lifecycle} {h : Host} {config : ToolConfig} {t t' : Toolchain}
  {out : CompileRequest → Except Cause Bytes → Except DeviceError (Option Node)}

/-- The places of the header of `k`, under its own name. -/
def AtOwnHeader (k : Kernel) (f : Files) (q : Place) : Prop :=
  ∃ place, f.Locates k.paths.header place k.headerName ∧ q = place ++ [k.headerName]

/-- Without a link under the name of the header, a header goes there, and not into the scratch
directory. -/
theorem header_scratched (hf : h.files.WellFormed)
    (hlink : ∀ place t, h.files.Locates k.paths.header place k.headerName →
      h.files.disk.node? (place ++ [k.headerName]) ≠ some (.link t))
    {f₁ f₂ : Files} {place T : Place} {scratch : Path} {name : Bytes}
    (hw : k.Written h.files f₁ place) (hs : Scratched f₁ f₂ scratch T name) {q : Place}
    (hq : k.adapter.AtHeader k.paths.header f₂ q) :
    h.files.Locates k.paths.header place k.headerName ∧ q = place ++ [k.headerName] ∧
      ¬ T ++ [name] ++ [k.artifactName] <+: q := by
  have hheader := headerPlace_scratched hf hw hs
  have hlocates := hheader.locates q hq
  have hown : q = place ++ [k.headerName] := hheader.own (fun s ↦ hlink place s hlocates) q hq
  refine ⟨hlocates, hown, fun hp ↦ ?_⟩
  rw [hown, List.prefix_concat_iff] at hp
  rcases hp with he | hp
  · exact k.artifactName_ne_headerName (by simpa using (List.append_inj' he rfl).2)
  · obtain ⟨s, hdir⟩ := hw.locates.isDirectory
    exact hs.not_prefix (hw.keeps.directory _ _ hdir) ((List.prefix_append _ _).trans hp)

section Make

variable (hk : k.adapter = .rvv config) (ht : t.Confined) (ht' : t'.Confined)
  (hout : t.CompilesBy out) (hout' : t'.CompilesBy out)

include hk

theorem artifactName_short (hshort : ¬ nameLimit < k.sourceName.length) :
    ¬ nameLimit < k.artifactName.length := by
  have hending : utf8 k.adapter.target.artifactKind.ending = [] := by
    rw [hk]
    rfl
  rw [artifactName, hending]
  rw [sourceName] at hshort
  simp only [List.append_nil, List.length_append] at *
  omega

/-- A build in a scratch directory finds the prepared source, and nothing at its output. -/
theorem compilable_scratched (hf : h.files.WellFormed) {f₁ f₂ : Files} {place T : Place}
    {scratch : Path} {name : Bytes} (hw : k.Written h.files f₁ place)
    (hs : Scratched f₁ f₂ scratch T name) :
    f₂.Compilable k.paths.source (scratch.join ⟨k.artifactName⟩) place k.sourceName (T ++ [name])
      k.artifactName := by
  obtain ⟨hslash, hpath, hfree⟩ := k.scratch_output hs
  obtain ⟨serial, hreaches⟩ := hw.reaches
  have hsource := hreaches.shows (place ++ [k.sourceName])
  rw [if_pos rfl] at hsource
  have hlocates := hw.locates.keeps hf hs.reaches.wellFormed (hs.reaches.here.trans hw.here)
    (hw.keeps.trans hs.keeps)
  exact ⟨hs.reaches.wellFormed, hlocates, hw.short, k.isSlashed_source,
    ⟨_, hs.stays hsource, by simp⟩, Path.isAbsolute_join_of_isAbsolute hs.absolute _, hpath,
    artifactName_short hk hw.short, hslash, hfree⟩

include ht ht' hout hout'

/-- Two toolchains that compile by one function make an artifact alike: the answer is the same, and
so is what every place shows but that of the header. -/
theorem make_alike (hf : h.files.WellFormed)
    (hlink : ∀ place t, h.files.Locates k.paths.header place k.headerName →
      h.files.disk.node? (place ++ [k.headerName]) ≠ some (.link t))
    {r : Resolution} (hr : r.paths = k.paths) :
    (((k.withToolchain t').make ⟨k.store⟩ r).runFrom h).1 =
        (((k.withToolchain t).make ⟨k.store⟩ r).runFrom h).1 ∧
      ∀ q, ¬ k.AtOwnHeader h.files q →
        (((k.withToolchain t').make ⟨k.store⟩ r).runFrom h).2.files.disk.shown? q =
          (((k.withToolchain t).make ⟨k.store⟩ r).runFrom h).2.files.disk.shown? q := by
  rcases k.make_cases hf hr with ⟨error, f', -, hrun⟩ | ⟨error, place, f₁, f', -, -, hrun⟩ |
    ⟨place, f₁, scratch, T, name, f₂, hw, hs, hrun⟩
  · rw [hrun, hrun]
    exact ⟨rfl, fun _ _ ↦ rfl⟩
  · rw [hrun, hrun]
    exact ⟨rfl, fun _ _ ↦ rfl⟩
  rw [hrun, hrun]
  have hcompilable := compilable_scratched hk hf hw hs
  obtain ⟨hb, hfile⟩ := k.adapter.build_built (h := { h with files := f₂ }) k.paths.source
    k.paths.header ht hcompilable.wellFormed hcompilable.absolute hcompilable.leads
    hcompilable.free
  obtain ⟨hb', hfile'⟩ := k.adapter.build_built (h := { h with files := f₂ }) k.paths.source
    k.paths.header ht' hcompilable.wellFormed hcompilable.absolute hcompilable.leads
    hcompilable.free
  -- neither the source nor the output nor the artifact has the name of the header
  have hheader := fun q ↦ header_scratched (q := q) hf hlink hw hs
  have hsites : ∀ q, (Adapter.rvv config).AtHeader k.paths.header f₂ q →
      q ≠ place ++ [k.sourceName] ∧ q ≠ T ++ [name] ++ [k.artifactName] := by
    intro q hq
    rw [← hk] at hq
    obtain ⟨-, hown, haway⟩ := hheader q hq
    refine ⟨fun he ↦ k.sourceName_ne_headerName ?_, fun he ↦ haway (he ▸ List.prefix_refl _)⟩
    simpa using he.symm.trans hown
  have hartifact : ¬ k.adapter.AtHeader k.paths.header f₂ (place ++ [k.artifactName]) :=
    fun hq ↦ k.artifactName_ne_headerName (by simpa using (hheader _ hq).2.1)
  have hbuild :=
    Adapter.build_alike (h := { h with files := f₂ }) hcompilable hsites ht ht' hout hout'
  rw [← hk] at hbuild
  obtain ⟨hanswer, hsame⟩ := Store.publishFrom_alike (h := { h with files := f₂ }) hs hb hb'
    (fun q hq ↦ (hheader q hq).2.2) hbuild.1
    (fun hok ↦ ⟨hfile hok, hfile' (hbuild.1.trans hok), hbuild.2 hok⟩) hcompilable.leads
    (fun _ ↦ hw.target hf) hartifact
  refine ⟨hanswer, fun q hq ↦ hsame q fun hh ↦ hq ?_⟩
  obtain ⟨hlocates, hown, -⟩ := hheader q hh
  exact ⟨place, hlocates, hown⟩

end Make

/-! ### Preparing and invoking -/

/-- Two preparations of `k` from the world `w` differ in the header at most, and leave the storages
of the tensors alone. -/
structure PreparedAlike (k : Kernel) (w : World)
    (r r' : Except KernelError Prepared × (Lifecycle × World)) : Prop where
  /-- They answer the same artifact of the same origin, or the same failure. -/
  answer : r'.1 = r.1
  /-- They leave the kernel in the same stage, with the same in mind. -/
  life : r'.2.1 = r.2.1
  /-- Every place but that of the header shows the same. -/
  elsewhere : ∀ q, ¬ k.AtOwnHeader (k.openedFiles w.host.files) q →
    r'.2.2.host.files.disk.shown? q = r.2.2.host.files.disk.shown? q
  /-- The first one leaves the storages alone. -/
  heap : r.2.2.heap = w.heap
  /-- So does the second one. -/
  heap' : r'.2.2.heap = w.heap

namespace PreparedAlike

variable {w : World} {r r' : Except KernelError Prepared × (Lifecycle × World)}

/-- The artifact is the same. -/
theorem artifact (h : k.PreparedAlike w r r') (place : Place) :
    r'.2.2.host.files.disk.shown? (place ++ [k.artifactName]) =
      r.2.2.host.files.disk.shown? (place ++ [k.artifactName]) := by
  refine h.elsewhere _ ?_
  rintro ⟨place', -, he⟩
  exact k.artifactName_ne_headerName (by simpa using (List.append_inj' he rfl).2)

/-- The prepared source is the same. -/
theorem source (h : k.PreparedAlike w r r') (place : Place) :
    r'.2.2.host.files.disk.shown? (place ++ [k.sourceName]) =
      r.2.2.host.files.disk.shown? (place ++ [k.sourceName]) := by
  refine h.elsewhere _ ?_
  rintro ⟨place', -, he⟩
  exact k.sourceName_ne_headerName (by simpa using (List.append_inj' he rfl).2)

end PreparedAlike

/-- What an invocation of `k` answers but for the outcome: whether the kernel is prepared and what
the arguments are decide that. -/
def handedOut (k : Kernel) (l : Lifecycle) (args : List Argument) :
    Except KernelError (List Tensor) := do
  if l.prepared.isNone then throw (.notPrepared k.entry)
  let _ ← marshal args
  k.outputs args

/-- An invocation of `k` from `s` in which the simulator decides the outcome alone. -/
structure InvokedApart (k : Kernel) (s : Lifecycle × World) (args : List Argument)
    (r : Except KernelError Invocation × (Lifecycle × World)) : Prop where
  /-- Whether it fails, and what it hands out, is decided before the simulation. -/
  answer : r.1.map Invocation.outputs = k.handedOut s.1 args
  /-- The life of the kernel is the same. -/
  life : r.2.1 = s.1
  /-- The storages of the tensors hold what they held. -/
  heap : r.2.2.heap = s.2.heap
  /-- It is completed exactly if the simulation ran and reported success. -/
  outcome : ∀ i, r.1 = .ok i → ∃ p events, s.1.prepared = some p ∧ (i.outcome.isCompleted ↔
    ∃ run, ((k.toolchain.simulate ⟨p.record.path, []⟩).runFrom { s.2.host with events }).1 =
      .ok run ∧ run.success)

section Trial

variable (hk : k.adapter = .rvv config)

include hk

/-- For the vector extension, the simulator decides the outcome of an invocation alone. -/
theorem invokeIn_apart (s : Lifecycle × World) (args : List Argument) :
    k.InvokedApart s args ((k.invokeIn args).runFrom s) := by
  obtain ⟨l, w⟩ := s
  rw [invokeIn, Act.runFrom_bind, Act.runFrom_reads]
  simp only [Act.run_within, invoke]
  cases hprepared : l.prepared with
  | none => exact ⟨by simp [handedOut, hprepared]; rfl, rfl, rfl, fun i hi ↦ by cases hi⟩
  | some p =>
    simp only [Act.runFrom_bind, Act.runFrom_ofExcept]
    cases hmarshal : marshal args with
    | error error =>
      exact ⟨by simp [handedOut, hprepared, hmarshal]; rfl, rfl, rfl, fun i hi ↦ by cases hi⟩
    | ok groups =>
      cases houtputs : k.outputs args with
      | error error =>
        exact ⟨by simp [handedOut, hprepared, hmarshal, houtputs]; rfl, rfl, rfl,
          fun i hi ↦ by cases hi⟩
      | ok outputs =>
        obtain ⟨outcome, events, events', hexecute, hcompleted⟩ :=
          Adapter.execute_rvv config k.toolchain p.record groups { w with host := { w.host with
            events := ⟨.debug, "executing kernel", k.executionFields p.record groups⟩ ::
              w.host.events } }
        simp only [World.onHost, Act.run_within, Host.tell, Act.runFrom_changes, hk, hexecute]
        refine ⟨by simp [handedOut, hprepared, hmarshal, houtputs]; rfl, rfl, rfl, fun i hi ↦ ?_⟩
        obtain rfl := Except.ok.inj hi
        exact ⟨p, events, hprepared, hcompleted⟩

variable (ht : t.Confined) (ht' : t'.Confined) (hout : t.CompilesBy out) (hout' : t'.CompilesBy out)

include ht ht' hout hout'

/-- Two toolchains that compile by one function prepare alike. -/
theorem prepareIn_alike (l : Lifecycle) (w : World) (hf : w.host.files.WellFormed)
    (hlink : k.NoHeaderLink w.host.files) :
    k.PreparedAlike w ((k.withToolchain t).prepareIn.runFrom (l, w))
      ((k.withToolchain t').prepareIn.runFrom (l, w)) := by
  simp only [prepareIn, Act.run_within]
  rcases k.prepare_settled l w.host with hsame | ⟨r, events, hr, hrun⟩
  · rw [hsame t, hsame t']
    exact ⟨rfl, rfl, fun _ _ ↦ rfl, rfl, rfl⟩
  have hopened := (k.openedFiles_grows hf).wellFormed
  obtain ⟨hanswer, helse⟩ := make_alike (h := { w.host with
    files := k.openedFiles w.host.files, events }) hk ht ht' hout hout' hopened
    (fun place s hl ↦ hlink (by rw [hk]; rfl) place s hl) hr
  rw [hrun t, hrun t']
  generalize ((k.withToolchain t).make ⟨k.store⟩ r).runFrom _ = made at hanswer helse ⊢
  generalize ((k.withToolchain t').make ⟨k.store⟩ r).runFrom _ = made' at hanswer helse ⊢
  obtain ⟨answer, h₁⟩ := made
  obtain ⟨answer', h₁'⟩ := made'
  obtain rfl : answer' = answer := hanswer
  cases answer' with
  | error error => exact ⟨rfl, rfl, helse, rfl, rfl⟩
  | ok _ => exact ⟨rfl, rfl, helse, rfl, rfl⟩

/-- Whatever two toolchains that compile by one function do when they extract a header or simulate:
from one state, preparing and then invoking answer the same but for the outcome, and leave the same
but for the header. -/
theorem trials_alike (l : Lifecycle) (w : World) (hf : w.host.files.WellFormed)
    (hlink : k.NoHeaderLink w.host.files) (args : List Argument) :
    let r := (k.withToolchain t).prepareIn.runFrom (l, w)
    let r' := (k.withToolchain t').prepareIn.runFrom (l, w)
    let i := ((k.withToolchain t).invokeIn args).runFrom r.2
    let i' := ((k.withToolchain t').invokeIn args).runFrom r'.2
    k.PreparedAlike w r r' ∧ i'.1.map Invocation.outputs = i.1.map Invocation.outputs ∧
      (k.withToolchain t).InvokedApart r.2 args i ∧
      (k.withToolchain t').InvokedApart r'.2 args i' := by
  intro r r' i i'
  have halike : k.PreparedAlike w r r' := prepareIn_alike hk ht ht' hout hout' l w hf hlink
  have happly : (k.withToolchain t).InvokedApart r.2 args i :=
    invokeIn_apart (k := k.withToolchain t) hk r.2 args
  have happly' : (k.withToolchain t').InvokedApart r'.2 args i' :=
    invokeIn_apart (k := k.withToolchain t') hk r'.2 args
  refine ⟨halike, ?_, happly, happly'⟩
  rw [happly.answer, happly'.answer, halike.life]
  rfl

end Trial

/-! ### A header that is written, and one that is not -/

/-- A toolchain that leaves a header, and has no simulator. -/
def loud : Toolchain := .leaving (utf8 "code") (utf8 "/* header */") none

/-- The toolchain that compiles as that one does, cannot extract a header and has a simulator. -/
def quiet : Toolchain where
  compile := loud.compile
  extractHeader _ := throw (.headerFailed "cc" "no listing")
  simulate _ := pure ⟨"sim", "exit status: 0", true, "", ""⟩

theorem confined_loud : loud.Confined := Toolchain.confined_leaving _ _ _

theorem confined_quiet : quiet.Confined where
  compile := confined_loud.compile
  compiled := confined_loud.compiled
  extractHeader _ _ hf := ChangesAt.refl hf _
  header _ _ _ _ _ := Or.inl rfl

/-- Both compile by one function. -/
theorem compilesBy_loud_quiet : loud.CompilesBy (Toolchain.leavingOut (utf8 "code") none) ∧
    quiet.CompilesBy (Toolchain.leavingOut (utf8 "code") none) :=
  ⟨Toolchain.compilesBy_leaving _ _ _, Toolchain.compilesBy_leaving _ [] _⟩

section Sample

variable (key : StoreKey) (existing : Option Path) (events : List Event)

/-- Whether making a sample went well, and whether its header is there. -/
private def ended (r : Except KernelError Unit × Host) : Bool × Bool :=
  (r.1.isOk, r.2.files.isFile samplePaths.header)

private theorem ended_loud :
    ended (makeSample "k" loud [] ⟨key, samplePaths, existing⟩ events) = (true, true) := by
  rw [makeSample, Kernel.make]
  generalize (sample "k" loud).preparedSource = text
  cbv

-- what is told does not matter, so it need not be evaluated
private theorem ended_quiet :
    ended (makeSample "k" quiet [] ⟨key, samplePaths, existing⟩ events) = (true, false) := by
  rw [makeSample, Kernel.make]
  generalize (sample "k" quiet).preparedSource = text
  simp only [sample, Adapter.build, Adapter.buildAt, Adapter.tryHeader]
  generalize DeviceError.message = message
  generalize Path.text = told
  cbv

/-- A link to the prepared source, under the name of the header. -/
def sourceLink : Bytes × Node :=
  (utf8 ("k_" ++ sampleKey.text ++ ".h"), .link (.ofString ("k_" ++ sampleKey.text ++ ".c")))

private theorem source_loud : (makeSample "k" loud [sourceLink] ⟨key, samplePaths, existing⟩
    events).2.files.read samplePaths.source = .ok (utf8 "/* header */") := by
  rw [makeSample, Kernel.make]
  generalize (sample "k" loud).preparedSource = text
  cbv

private theorem source_quiet : (makeSample "k" quiet [sourceLink] ⟨key, samplePaths, existing⟩
    events).2.files.read samplePaths.source = .ok (utf8 (sample "k" quiet).preparedSource) := by
  rw [makeSample, Kernel.make]
  generalize (sample "k" quiet).preparedSource = text
  simp only [sample, Adapter.build, Adapter.buildAt, Adapter.tryHeader]
  generalize DeviceError.message = message
  generalize Path.text = told
  cbv

end Sample

/-- In an empty store, the header is all that tells the two toolchains apart: the artifact and the
prepared source are the same. -/
theorem trials_alike_sample :
    let w : World := { host := sampleHost [] }
    let r := (sample "k" loud).prepareIn.runFrom ({}, w)
    let r' := (sample "k" quiet).prepareIn.runFrom ({}, w)
    r.1.isOk ∧ r.2.2.host.files.isFile samplePaths.header ∧
      r'.2.2.host.files.isFile samplePaths.header = false ∧ (sample "k" loud).PreparedAlike w r r' ∧
      (∀ name ∈ [(sample "k" loud).artifactName, (sample "k" loud).sourceName], ∀ place,
        r'.2.2.host.files.disk.shown? (place ++ [name]) =
          r.2.2.host.files.disk.shown? (place ++ [name])) ∧
      (((sample "k" quiet).invokeIn []).runFrom r'.2).1.map Invocation.outputs =
        (((sample "k" loud).invokeIn []).runFrom r.2).1.map Invocation.outputs := by
  intro w r r'
  obtain ⟨key, existing, events, events', hok, hhost⟩ := prepare_sample "k" loud [] (by cbv)
  obtain ⟨key', existing', events₁, events₁', hok', hhost'⟩ := prepare_sample "k" quiet [] (by cbv)
  have hended := ended_loud key existing events
  have hended' := ended_quiet key' existing' events₁
  rw [ended, Prod.mk.injEq] at hended hended'
  obtain ⟨hout, hout'⟩ := compilesBy_loud_quiet
  obtain ⟨halike, hanswer, -, -⟩ := trials_alike (k := sample "k" loud) rfl confined_loud
    confined_quiet hout hout' {} w (by decide +kernel) (noHeaderLink_sampleHost rfl) []
  refine ⟨hok.trans hended.1, ?_, ?_, halike,
    by simpa using ⟨halike.artifact, halike.source⟩, hanswer⟩
  · show Files.isFile ((sample "k" loud).prepare.runFrom ({}, sampleHost [])).2.2.files _ = true
    rw [hhost]
    exact hended.2
  · show Files.isFile ((sample "k" quiet).prepare.runFrom ({}, sampleHost [])).2.2.files _ = false
    rw [hhost']
    exact hended'.2

/-- Where a link to the prepared source stands under the name of the header, the header is written
over the prepared source: what is there then depends on whether there is a header. -/
theorem source_sourceLink : (sampleHost [sourceLink]).files.WellFormed ∧ loud.Confined ∧
    quiet.Confined ∧ (∃ out, loud.CompilesBy out ∧ quiet.CompilesBy out) ∧
    ((sample "k" loud).prepare.runFrom ({}, sampleHost [sourceLink])).2.2.files.read
        (sample "k" loud).paths.source ≠
      ((sample "k" quiet).prepare.runFrom ({}, sampleHost [sourceLink])).2.2.files.read
        (sample "k" quiet).paths.source := by
  refine ⟨by decide +kernel, confined_loud, confined_quiet, ⟨_, compilesBy_loud_quiet⟩, ?_⟩
  have hmissing : (sampleHost [sourceLink]).files.isFile samplePaths.artifact = false := by
    cbv
  obtain ⟨key, existing, events, events', -, hhost⟩ :=
    prepare_sample "k" loud [sourceLink] hmissing
  obtain ⟨key', existing', events₁, events₁', -, hhost'⟩ :=
    prepare_sample "k" quiet [sourceLink] hmissing
  rw [hhost, hhost', paths_sample, paths_sample]
  simp only [source_loud, source_quiet]
  intro he
  have htext : utf8 (sample "k" quiet).preparedSource ≠ utf8 "/* header */" := by decide +kernel
  exact htext (Except.ok.inj he).symm

end KernelForge.Kernel
