import KernelForge.Proofs.Store.Publishing
import KernelForge.Proofs.Tool.Confined
import KernelForge.Target.Adapter

/-!
# Building for a target

A build asks for the header first where there is one, and then for one compilation; only a missing
SDK keeps it from asking. Main statements: `build_cases` and, for confined toolchains, what a build
does to the files (`build_built`).
-/

namespace KernelForge

/-- Looking for the SDK changes nothing. -/
theorem ToolConfig.linkOptions_run (c : ToolConfig) (h : Host) :
    ∃ r, c.linkOptions.runFrom h = (r, h) := by
  have hroot : ∃ r, c.resolveSdkRoot.runFrom h = (r, h) := by
    rw [resolveSdkRoot]
    simp only [Host.ask, Act.runFrom_bind, Act.runFrom_reads]
    split
    · exact ⟨_, rfl⟩
    · exact ⟨_, rfl⟩
  obtain ⟨_ | root, hroot⟩ := hroot
  · exact ⟨_, Act.runFrom_bind_error hroot _⟩
  · rw [linkOptions, Act.runFrom_bind_ok hroot]
    split <;> exact ⟨_, rfl⟩

namespace Adapter

variable {a : Adapter} {t : Toolchain} {source output header : Path} {h : Host}

/-- Whether a header could be had or not, the build goes on. -/
theorem tryHeader_run (t : Toolchain) (request : HeaderRequest) (h : Host) :
    ∃ events, (tryHeader t request).runFrom h =
      (.ok (), { ((t.extractHeader request).runFrom h).2 with events }) := by
  rw [tryHeader, Act.runFrom_bind, Act.runFrom_attempt]
  rcases (t.extractHeader request).runFrom h with ⟨error | count, h'⟩
  · exact ⟨_, rfl⟩
  · exact ⟨_, rfl⟩

/-- The host on which the compiler is asked: for a target that has one, the header was tried to be
written before. -/
def HeaderTried (a : Adapter) (t : Toolchain) (source header : Path) (h h' : Host) : Prop :=
  match a with
  | tpu .. => ∃ events, h' = { h with events }
  | rvv _ => ∃ request events, request.source = source ∧ request.header = header ∧
      h' = { ((t.extractHeader request).runFrom h).2 with events }

/-- What an adapter asks the compiler for, wherever the files lie. -/
def Asks (a : Adapter) (r : CompileRequest) : Prop :=
  match a with
  | tpu config _ => r.driver = .c ∧ r.arch = none ∧
      ∃ h : Host, (config.linkOptions.runFrom h).1 = .ok r.options
  | rvv config => r.driver = .riscvCxx ∧ r.arch = some config.rvvArch ∧
      r.options = { flags := rvvFlags }

/-- What a build for the vector extension asks the compiler for. -/
def rvvRequest (config : ToolConfig) (source output : Path) : CompileRequest :=
  ⟨.riscvCxx, source, output, some config.rvvArch, { flags := rvvFlags }⟩

/-- For the vector extension, a build tries a header and ends as the compilation does. -/
theorem build_rvv (config : ToolConfig) (t : Toolchain) (source output header : Path) (h : Host) :
    ∃ h', (rvv config).HeaderTried t source header h h' ∧
      ((rvv config).build t source output header).runFrom h =
        (((t.compile (rvvRequest config source output)).runFrom h').1.mapError .device,
          ((t.compile (rvvRequest config source output)).runFrom h').2) := by
  obtain ⟨events, hheader⟩ := tryHeader_run t ⟨.riscvC, source, header, some config.rvvArch⟩ h
  refine ⟨_, ⟨⟨.riscvC, source, header, some config.rvvArch⟩, events, rfl, rfl, rfl⟩, ?_⟩
  rw [build, Act.runFrom_mapError, buildAt, Act.runFrom_bind_ok hheader]
  rfl

/-- A build fails for want of an SDK, or asks for one compilation and ends as that does. -/
theorem build_cases (a : Adapter) (t : Toolchain) (source output header : Path) (h : Host) :
    (∃ error, (a.build t source output header).runFrom h = (.error error, h)) ∨
      ∃ request h', request.source = source ∧ request.output = output ∧ a.Asks request ∧
        a.HeaderTried t source header h h' ∧ (a.build t source output header).runFrom h =
          (((t.compile request).runFrom h').1.mapError .device,
            ((t.compile request).runFrom h').2) := by
  cases a with
  | tpu config native =>
    rw [build, Act.runFrom_mapError, buildAt]
    obtain ⟨error | options, hlink⟩ := config.linkOptions_run h
    · left
      exact ⟨_, by rw [Act.runFrom_bind_error hlink]; rfl⟩
    · right
      obtain ⟨events, htell⟩ := Host.tell_run .debug "compiling TPU kernel"
        [("tpu.chip", config.chip), ("source", source.text)] h
      refine ⟨⟨.c, source, output, none, options⟩, _, rfl, rfl,
        ⟨rfl, rfl, h, congrArg Prod.fst hlink⟩, ⟨events, rfl⟩, ?_⟩
      rw [Act.runFrom_bind_ok hlink, Act.runFrom_bind_ok htell]
  | rvv config =>
    obtain ⟨h', htried, hrun⟩ := build_rvv config t source output header h
    exact Or.inr ⟨rvvRequest config source output, h', rfl, rfl, ⟨rfl, rfl, rfl⟩, htried, hrun⟩

/-- The place where a build writes the header. -/
def AtHeader (a : Adapter) (header : Path) (f : Files) (q : Place) : Prop :=
  a.target = .rvv ∧ f.target header = .ok q

/-- What trying a header does to the files. -/
theorem HeaderTried.changes {h' : Host} (ht : t.Confined) (hf : h.files.WellFormed)
    (hh : a.HeaderTried t source header h h') :
    h.files.ChangesAt h'.files (a.AtHeader header h.files) ∧ ∀ q, a.AtHeader header h.files q →
      h'.files.disk.node? q = h.files.disk.node? q ∨
        ∃ n, h'.files.disk.node? q = some n ∧ n.isFile := by
  cases a with
  | tpu config native =>
    obtain ⟨events, rfl⟩ := hh
    exact ⟨Files.ChangesAt.refl hf _, fun _ _ ↦ Or.inl rfl⟩
  | rvv config =>
    obtain ⟨request, events, -, rfl, rfl⟩ := hh
    exact ⟨(ht.extractHeader request h hf).mono fun q hq ↦ ⟨rfl, hq⟩,
      fun q hq ↦ ht.header request h hf q hq.2⟩

/-- A build that succeeds asked for a compilation that succeeded; before, a header may have been
written. -/
theorem build_asked (a : Adapter) (ht : t.Confined) (hf : h.files.WellFormed) {h' : Host}
    (hbuild : (a.build t source output header).runFrom h = (.ok (), h')) :
    ∃ request h₁, request.source = source ∧ request.output = output ∧ a.Asks request ∧
      h.files.ChangesAt h₁.files (a.AtHeader header h.files) ∧
      h.files.disk.Extends h₁.files.disk ∧ h.files.disk.Keeps h₁.files.disk ∧
      (t.compile request).runFrom h₁ = (.ok (), h') := by
  rcases a.build_cases t source output header h with
    ⟨error, hrun⟩ | ⟨request, h₁, hsource, houtput, hasks, htried, hrun⟩
  · rw [hbuild] at hrun
    cases hrun
  obtain ⟨hchanges, hwritten⟩ := htried.changes ht hf
  have hsolid : ∀ q, a.AtHeader header h.files q → ∀ n, h.files.disk.node? q = some n →
      n.isSolid := fun q hq n hn ↦ Files.isSolid_of_target hq.2 hn
  refine ⟨request, h₁, hsource, houtput, hasks, hchanges, hchanges.extends hsolid,
    hchanges.keeps hsolid hwritten, ?_⟩
  rw [hbuild] at hrun
  rcases hcompile : (t.compile request).runFrom h₁ with ⟨error | _, h₂⟩
  · rw [hcompile, Prod.mk.injEq] at hrun
    cases hrun.1
  · rw [hcompile, Prod.mk.injEq] at hrun
    rw [hrun.2]

/-- Where nothing stood, a header stands at most once it was tried. -/
private theorem HeaderTried.holdsFile {h' : Host} {q : Place} (ht : t.Confined)
    (hf : h.files.WellFormed) (hh : a.HeaderTried t source header h h')
    (hfree : h.files.disk.node? q = none) : h'.files.HoldsFile q := by
  obtain ⟨hchanges, hwritten⟩ := hh.changes ht hf
  intro n hn
  by_cases hq : a.AtHeader header h.files q
  · rcases hwritten _ hq with hsame | ⟨m, hm, hfile⟩
    · rw [hsame, hfree] at hn
      cases hn
    · rw [hm, Option.some.injEq] at hn
      exact hn ▸ hfile
  · rw [hchanges.stays _ hq, hfree] at hn
    cases hn

/-- A compilation that succeeds leaves a file or nothing where its output can be. -/
private theorem compile_holdsFile {request : CompileRequest} {q : Place} (ht : t.Confined)
    (habsolute : request.output.isAbsolute) (hf : h.files.WellFormed)
    (htarget : ∀ place, h.files.target request.output = .ok place → place = q)
    (hholds : h.files.HoldsFile q) (hok : ((t.compile request).runFrom h).1 = .ok ()) :
    ((t.compile request).runFrom h).2.files.HoldsFile q := by
  cases hplace : h.files.target request.output with
  | ok place =>
    obtain rfl := htarget place hplace
    exact ht.compiled request h habsolute hf hok _ hplace hholds
  | error cause =>
    -- a compilation without a place for its output touches nothing
    intro n hn
    have hno : ¬ h.files.AtOutput request.output q := by
      rintro ⟨place, hplace', -⟩
      rw [hplace] at hplace'
      cases hplace'
    rw [(ht.compile request h habsolute hf).stays _ hno] at hn
    exact hholds n hn

/-- What a build of a confined toolchain does: it leaves its output at a free name of a directory,
and a regular file or nothing if it succeeds. -/
theorem build_built (a : Adapter) (source header : Path) (ht : t.Confined) (hf : h.files.WellFormed)
    {parent : Place} {name : Bytes} (habsolute : output.isAbsolute)
    (hpath : h.files.Locates output parent name ∨
      ∃ cause, ∀ g : Files, g.start output = .error cause)
    (hfree : h.files.disk.node? (parent ++ [name]) = none) :
    Files.Built h.files ((a.build t source output header).runFrom h).2.files (parent ++ [name])
        (a.AtHeader header h.files) ∧
      (((a.build t source output header).runFrom h).1 = .ok () →
        ((a.build t source output header).runFrom h).2.files.HoldsFile (parent ++ [name])) := by
  have hheader : ∀ q, a.AtHeader header h.files q →
      h.files.disk.node? q = none ∨ h.files.disk.IsSolid q := by
    intro q hq
    obtain ⟨-, -, -, -, hq⟩ := Files.target_ok hq.2
    exact hq
  rcases a.build_cases t source output header h with
    ⟨error, hrun⟩ | ⟨request, h', -, rfl, -, htried, hrun⟩
  · rw [hrun]
    refine ⟨⟨hf, rfl, fun _ _ _ ↦ rfl, fun _ _ _ ↦ Or.inl rfl, hheader⟩, fun hr ↦ ?_⟩
    cases hr
  obtain ⟨hchanges, hwritten⟩ := htried.changes ht hf
  have hf' := hchanges.wellFormed
  have hcompile := ht.compile request h' habsolute hf'
  have hholds := htried.holdsFile ht hf hfree
  have hlink : ∀ t, h'.files.disk.node? (parent ++ [name]) ≠ some (.link t) := by
    intro t ht
    cases hholds _ ht
  have hextends : h.files.disk.Extends h'.files.disk :=
    hchanges.extends fun q hq n hn ↦ Files.isSolid_of_target hq.2 hn
  have htarget : ∀ place,
      h'.files.target request.output = .ok place → place = parent ++ [name] := by
    intro place hplace
    rcases hpath with hpath | ⟨cause, hpath⟩
    · exact (hpath.extends hf hf' hchanges.here hextends).target_ok hlink hplace
    · simp [Files.target, hpath, bind, Except.bind] at hplace
  have hout : ∀ q, h'.files.AtOutput request.output q → parent ++ [name] <+: q := by
    rintro q ⟨place, hplace, hp⟩
    exact htarget place hplace ▸ hp
  rw [hrun]
  refine ⟨⟨hcompile.wellFormed, hcompile.here.trans hchanges.here, fun q hO hq ↦ ?_,
    fun q hq hO ↦ ?_, hheader⟩, fun hr ↦ ?_⟩
  · rw [hcompile.stays q fun ho ↦ hO (hout q ho), hchanges.stays q hq]
  · rw [hcompile.stays q fun ho ↦ hO (hout q ho)]
    exact hwritten q hq
  · have hok : ((t.compile request).runFrom h').1 = .ok () := by
      cases hc : ((t.compile request).runFrom h').1 with
      | ok _ => rfl
      | error error =>
        rw [hc] at hr
        cases hr
    exact compile_holdsFile ht habsolute hf' htarget hholds hok

end Adapter

end KernelForge
