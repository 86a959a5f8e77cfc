import KernelForge.Proofs.Tool.Listing

/-!
# Toolchains that run processes

The toolchain of a configuration looks for a compiler and has it run. The listing from which a
header is made goes to a scratch file, which is gone at the end whatever failed. So where the
processes write at the output and at the listing, the toolchain writes at the output and at the
header. Main statement: `Runner.Confined.toolchainWith`.
-/

namespace KernelForge

/-- The processes of a runner write where their commands tell them to. -/
structure Runner.Confined (run : Runner) : Prop where
  /-- A process that compiles touches the output, and what is below if that is a directory. -/
  compile : ∀ (c : ToolConfig) r compiler source (f : Files), r.output.isAbsolute → f.WellFormed →
    f.ChangesAt ((run (c.compileLine r compiler source)).runFrom f).2 (f.AtOutput r.output)
  /-- If it ends well, it leaves a regular file there, if nothing else stood there. -/
  compiled : ∀ (c : ToolConfig) r compiler source (f : Files) done, r.output.isAbsolute →
    f.WellFormed → ((run (c.compileLine r compiler source)).runFrom f).1 = .ok done →
    done.success → ∀ place, f.target r.output = .ok place → f.HoldsFile place →
      ((run (c.compileLine r compiler source)).runFrom f).2.HoldsFile place
  /-- A process that lists declarations touches the file for the listing. -/
  list : ∀ (c : ToolConfig) r compiler source file (f : Files), file.isAbsolute → f.WellFormed →
    f.ChangesAt ((run (c.listingLine r compiler source file)).runFrom f).2 (f.target file = .ok ·)
  /-- It leaves a regular file there, if nothing else stood there. -/
  listed : ∀ (c : ToolConfig) r compiler source file (f : Files), file.isAbsolute → f.WellFormed →
    ∀ place, f.target file = .ok place → f.HoldsFile place →
      ((run (c.listingLine r compiler source file)).runFrom f).2.HoldsFile place

namespace ToolConfig

variable (c : ToolConfig) (run : Runner) (h : Host)

/-! ### Compiling -/

theorem compileCommand_cases (r : CompileRequest) :
    ∃ events, (∃ error, (c.compileCommand r).runFrom h = (.error error, { h with events })) ∨
      ∃ compiler source, (c.compileCommand r).runFrom h =
        (.ok (c.compileLine r compiler source), { h with events }) := by
  obtain ⟨located, events, hlocate⟩ :=
    c.locate_run h r.driver.label (c.override r.driver) r.driver.candidates
  refine ⟨events, ?_⟩
  rw [compileCommand, locateCompiler, Act.runFrom_bind, hlocate]
  cases located with
  | error error => exact Or.inl ⟨error, rfl⟩
  | ok compiler =>
    simp only
    rw [Act.runFrom_bind, Host.absolute_eq]
    cases h.files.absolute r.source with
    | error cause => exact Or.inl ⟨_, rfl⟩
    | ok source => exact Or.inr ⟨compiler, source, rfl⟩

/-- A compilation fails before a process starts, or does what its process does. It goes well if the
process ends well. -/
theorem compileWith_cases (r : CompileRequest) :
    (∃ error events, (c.compileWith run r).runFrom h = (.error error, { h with events })) ∨
      ∃ compiler source result events, (c.compileWith run r).runFrom h = (result, { h with
          files := ((run (c.compileLine r compiler source)).runFrom h.files).2, events }) ∧
        (result = .ok () → ∃ done,
          ((run (c.compileLine r compiler source)).runFrom h.files).1 = .ok done ∧
            done.success) := by
  obtain ⟨events, ⟨error, hcommand⟩ | ⟨compiler, source, hcommand⟩⟩ := c.compileCommand_cases h r
  · left
    exact ⟨error, events, Act.runFrom_bind_error hcommand _⟩
  right
  refine ⟨compiler, source, ?_⟩
  obtain ⟨events', htell⟩ := Host.tell_run .debug "compiling" [("toolchain.command",
    (c.compileLine r compiler source).render)] { h with events }
  rw [compileWith, Act.runFrom_bind_ok hcommand, Act.runFrom_bind_ok htell]
  rcases hrun : (run (c.compileLine r compiler source)).runFrom h.files with ⟨cause | done, f'⟩
  · rw [Act.runFrom_bind_error (start_error (h := { h with events := events' }) hrun)]
    exact ⟨_, _, rfl, fun hr ↦ by cases hr⟩
  · rw [Act.runFrom_bind_ok (start_ok (h := { h with events := events' }) hrun)]
    cases hs : done.success with
    | false => exact ⟨_, _, rfl, fun hr ↦ by cases hr⟩
    | true => exact ⟨_, _, rfl, fun _ ↦ ⟨done, rfl, hs⟩⟩

/-! ### Extracting declarations -/

/-- The directory of a relative header is relative. -/
theorem isAbsolute_of_headerDirectory {header : Path}
    (h : (headerDirectory header).isAbsolute) : header.isAbsolute := by
  have hdot : (Path.ofString ".").isAbsolute = false := by decide
  unfold headerDirectory at h
  split at h
  · next p hp =>
    split at h
    · rw [hdot] at h
      cases h
    · exact Path.isAbsolute_of_mem_stems (List.mem_of_mem_tail (List.mem_of_mem_head? hp)) h
  · rw [hdot] at h
    cases h

/-- After the process that lists the declarations, the header is written or nothing is done. -/
theorem headerFromListing_files (r : HeaderRequest) (compiler source file : Path) :
    ((c.headerFromListing run r compiler source file).runFrom h).2.files =
        ((run (c.listingLine r compiler source file)).runFrom h.files).2 ∨
      ∃ content, ((c.headerFromListing run r compiler source file).runFrom h).2.files =
        ((Files.write r.header content).runFrom
          ((run (c.listingLine r compiler source file)).runFrom h.files).2).2 := by
  rcases hrun : (run (c.listingLine r compiler source file)).runFrom h.files with
    ⟨cause | done, left⟩
  · obtain ⟨events, hwork⟩ := headerFromListing_error hrun
    rw [hwork]
    exact Or.inl rfl
  by_cases huseless : ∀ text, left.readText file = .ok text → text = ""
  · obtain ⟨reason, hwork⟩ := headerFromListing_useless huseless done
    obtain ⟨events, hwork⟩ := hwork h hrun
    rw [hwork]
    exact Or.inl rfl
  · simp only [not_forall] at huseless
    obtain ⟨text, htext, hne⟩ := huseless
    obtain ⟨events, hwork⟩ := headerFromListing_text hrun htext hne rfl
    rw [hwork]
    exact Or.inr ⟨_, rfl⟩

/-- A header extraction ends before it has a file for the listing, or works with that and removes it
at the end. -/
theorem extractHeaderWith_files (r : HeaderRequest) :
    (∃ drawn, ((c.extractHeaderWith run r).runFrom h).2.files = { h.files with drawn }) ∨
      ∃ compiler source file f₁ h₂, (Files.createScratch listingStyle (headerDirectory r.header)
          Files.createFile).runFrom h.files = (.ok file, f₁) ∧
        (h₂ = ((run (c.listingLine r compiler source file)).runFrom f₁).2 ∨ ∃ content, h₂ =
          ((Files.write r.header content).runFrom
            ((run (c.listingLine r compiler source file)).runFrom f₁).2).2) ∧
        ((c.extractHeaderWith run r).runFrom h).2.files =
          ((Files.removeFile file).runFrom h₂).2 := by
  by_cases hprepared : Nonempty (c.Prepared r h)
  · obtain ⟨p⟩ := hprepared
    obtain ⟨events, hrun⟩ := p.run_eq run
    rw [hrun]
    exact Or.inr ⟨p.compiler, p.source, p.file, p.made, _, p.scratch,
      c.headerFromListing_files run { h with files := p.made, events } r _ _ _, rfl⟩
  · obtain ⟨error, drawn, events, hrun⟩ :=
      extractHeaderWith_unprepared run ⟨fun p ↦ hprepared ⟨p⟩⟩
    rw [hrun]
    exact Or.inl ⟨drawn, rfl⟩

/-- The name of a listing is one step of a path. -/
theorem listingStyle_isPlain : listingStyle.IsPlain := by
  constructor <;> decide

end ToolConfig

namespace Files

variable {f f₁ f₂ f₃ : Files} {header file : Path} {T : Place} {name : Bytes}

/-- Removing a file that is there or not. -/
private theorem removeFile_changes (hf : f.WellFormed) (hlocates : f.Locates file T name)
    (hslash : file.isSlashed = false) (hholds : f.HoldsFile (T ++ [name])) :
    f.ChangesAt ((removeFile file).runFrom f).2 (· = T ++ [name]) ∧
      ((removeFile file).runFrom f).2.disk.node? (T ++ [name]) = none := by
  cases hn : f.disk.node? (T ++ [name]) with
  | none =>
    have hsame : ((removeFile file).runFrom f).2 = f := by
      simp [removeFile, edit, hlocates.ending, hn, bind, Except.bind]
    rw [hsame]
    exact ⟨ChangesAt.refl hf _, hn⟩
  | some n =>
    have hfile : ∀ s, n ≠ .directory s := by
      rintro s rfl
      cases hholds _ hn
    obtain ⟨f', hrun, hreaches⟩ := removeFile_run hf hlocates.ending hslash hn hfile
    rw [hrun]
    refine ⟨⟨hreaches.wellFormed, hreaches.here, fun q hq ↦ ?_⟩, ?_⟩
    · rw [hreaches.shows, if_neg hq]
    · rw [hreaches.shows, if_pos rfl]

/-- A header is looked up from a place if its directory has a scratch file. -/
private theorem start_header (hf : f.WellFormed) (hf' : f₂.WellFormed) (hhere : f₂.here = f.here)
    (he : f.disk.Extends f₂.disk)
    (hplace : (ToolConfig.headerDirectory header).isAbsolute ∨
      ∃ here, f.disk.spotOf f.here = .place here) {q : Place} (hq : f₂.target header = .ok q) :
    ∃ here, f₂.start header = .ok (.place here) := by
  cases hs : f₂.start header with
  | error cause => simp [target, hs, bind, Except.bind] at hq
  | ok spot =>
    have hspot := start_eq_ok hs
    by_cases ha : header.isAbsolute
    · rw [if_pos ha] at hspot
      exact ⟨[], by rw [hspot]⟩
    rw [if_neg ha] at hspot
    rcases hplace with hd | ⟨here, hh⟩
    · exact absurd (ToolConfig.isAbsolute_of_headerDirectory hd) ha
    · rw [spotOf_keeps hf hf' hhere (fun s hs ↦ he here _ hs rfl) hh] at hspot
      exact ⟨here, by rw [hspot]⟩

section Listing

variable (hf : f.WellFormed) (hr : (createScratch ToolConfig.listingStyle
    (ToolConfig.headerDirectory header) createFile).runFrom f = (.ok file, f₁))
  (hlist : file.isAbsolute → f₁.WellFormed → f₁.ChangesAt f₂ (f₁.target file = .ok ·) ∧
    ∀ place, f₁.target file = .ok place → f₁.HoldsFile place → f₂.HoldsFile place)

include hf hr hlist

/-- A listing stands under a free name, and is all that is new. -/
private theorem listed :
    ∃ T name, file.isSlashed = false ∧ f.Locates file T name ∧
      f.disk.node? (T ++ [name]) = none ∧ f.ChangesAt f₂ (· = T ++ [name]) ∧
      f₂.HoldsFile (T ++ [name]) ∧ ((ToolConfig.headerDirectory header).isAbsolute ∨
        ∃ here, f.disk.spotOf f.here = .place here) := by
  obtain ⟨T, name, habsolute, hslash, hplace, hlocates, hshort, hnone, h₁⟩ :=
    createScratch_ok hf ToolConfig.listingStyle_isPlain creates_createFile hr
  have hchanges₁ : f.ChangesAt f₁ (· = T ++ [name]) :=
    ⟨h₁.wellFormed, h₁.here, fun q hq ↦ by rw [h₁.shows, if_neg hq]⟩
  have hext₁ : f.disk.Extends f₁.disk := hchanges₁.extends fun q hq n hn ↦ by
    rw [hq, hnone] at hn
    cases hn
  have hn₁ : f₁.disk.node? (T ++ [name]) = some (.file f.disk.next [] false) := by
    rw [h₁.shows, if_pos rfl]
  have htarget : f₁.target file = .ok (T ++ [name]) :=
    (hlocates.extends hf h₁.wellFormed h₁.here hext₁).target_eq hslash hshort
      (Or.inr ⟨_, hn₁, rfl⟩)
  obtain ⟨hchanges₂, hholds⟩ := hlist habsolute h₁.wellFormed
  refine ⟨T, name, hslash, hlocates, hnone, hchanges₁.trans (hchanges₂.mono fun q hq ↦ ?_),
    hholds _ htarget fun n hn ↦ ?_, hplace⟩
  · rw [htarget, Except.ok.injEq] at hq
    exact hq.symm
  · rw [hn₁, Option.some.injEq] at hn
    rw [← hn]
    rfl

/-- Once the listing is removed, nothing but the header has changed. -/
private theorem header_changes
    (hwrite : f₃ = f₂ ∨ ∃ content, f₃ = ((write header content).runFrom f₂).2) :
    f.ChangesAt ((removeFile file).runFrom f₃).2 (f.target header = .ok ·) ∧
      ∀ q, f.target header = .ok q →
        ((removeFile file).runFrom f₃).2.disk.node? q = f.disk.node? q ∨
          ∃ n, ((removeFile file).runFrom f₃).2.disk.node? q = some n ∧ n.isFile := by
  obtain ⟨T, name, hslash, hlocates, hnone, h₂, hholds, hplace⟩ := listed hf hr hlist
  have hext₂ : f.disk.Extends f₂.disk := h₂.extends fun q hq n hn ↦ by
    rw [hq, hnone] at hn
    cases hn
  have hback₂ : f₂.disk.Extends f.disk := (h₂.symm hf).extends fun q hq n hn ↦
    Node.isSolid_of_isFile (hholds n (hq ▸ hn))
  -- the header is written where it would have been written at first
  have htarget : ∀ q, f₂.target header = .ok q → f.target header = .ok q := by
    intro q hq
    obtain ⟨here, hstart⟩ := start_header hf h₂.wellFormed h₂.here hext₂ hplace hq
    exact target_extends h₂.wellFormed hf h₂.here.symm hback₂ hext₂ hstart hq
  obtain ⟨h₃, hwritten⟩ : f₂.ChangesAt f₃ (f.target header = .ok ·) ∧ ∀ q,
      f₃.disk.node? q = f₂.disk.node? q ∨ ∃ n, f₃.disk.node? q = some n ∧ n.isFile := by
    rcases hwrite with rfl | ⟨content, rfl⟩
    · exact ⟨ChangesAt.refl h₂.wellFormed _, fun q ↦ Or.inl rfl⟩
    · obtain ⟨hchanges, hat⟩ := write_changes h₂.wellFormed header content
      refine ⟨hchanges.mono htarget, fun q ↦ ?_⟩
      by_cases hq : f₂.target header = .ok q
      · exact hat q hq
      · exact Or.inl (hchanges.stays q hq)
  have hholds₃ : f₃.HoldsFile (T ++ [name]) := by
    intro n hn
    rcases hwritten (T ++ [name]) with hsame | ⟨m, hm, hfile⟩
    · exact hholds n (hsame ▸ hn)
    · rw [hm, Option.some.injEq] at hn
      exact hn ▸ hfile
  have hext₃ : f.disk.Extends f₃.disk := by
    have h : f.ChangesAt f₃ fun q ↦ q = T ++ [name] ∨ f.target header = .ok q :=
      (h₂.mono fun q ↦ Or.inl).trans (h₃.mono fun q ↦ Or.inr)
    refine h.extends fun q hq n hn ↦ ?_
    rcases hq with rfl | hq
    · rw [hnone] at hn
      cases hn
    · exact isSolid_of_target hq hn
  have hlocates₃ := hlocates.extends hf h₃.wellFormed (h₃.here.trans h₂.here) hext₃
  obtain ⟨h₄, hgone⟩ := removeFile_changes h₃.wellFormed hlocates₃ hslash hholds₃
  refine ⟨⟨h₄.wellFormed, h₄.here.trans (h₃.here.trans h₂.here), fun q hq ↦ ?_⟩, fun q _ ↦ ?_⟩
  · by_cases hname : q = T ++ [name]
    · rw [hname, hgone, hnone]
    · rw [h₄.stays q hname, h₃.stays q hq, h₂.stays q hname]
  · by_cases hname : q = T ++ [name]
    · left
      rw [hname, hgone, hnone]
    · rw [h₄.stays q hname, ← h₂.stays q hname]
      exact hwritten q

end Listing

end Files

namespace Runner.Confined

variable {run : Runner} (hrun : run.Confined) (c : ToolConfig)

include hrun

private theorem extractHeader_changes (r : HeaderRequest) {h : Host} (hf : h.files.WellFormed) :
    h.files.ChangesAt ((c.extractHeaderWith run r).runFrom h).2.files
        (h.files.target r.header = .ok ·) ∧
      ∀ q, h.files.target r.header = .ok q →
        ((c.extractHeaderWith run r).runFrom h).2.files.disk.node? q = h.files.disk.node? q ∨
          ∃ n, ((c.extractHeaderWith run r).runFrom h).2.files.disk.node? q = some n ∧
            n.isFile := by
  rcases c.extractHeaderWith_files run h r with
    ⟨drawn, hsame⟩ | ⟨compiler, source, file, f₁, f₃, hscratch, hwrite, hend⟩
  · rw [hsame]
    exact ⟨⟨⟨hf.disk, hf.here⟩, rfl, fun _ _ ↦ rfl⟩, fun _ _ ↦ Or.inl rfl⟩
  · rw [hend]
    exact Files.header_changes hf hscratch (fun ha hf₁ ↦
      ⟨hrun.list c r compiler source file f₁ ha hf₁,
        hrun.listed c r compiler source file f₁ ha hf₁⟩) hwrite

/-- Where the processes write at the output and at the listing, the toolchain writes at the output
and at the header. -/
theorem toolchainWith : (c.toolchainWith run).Confined where
  compile r h habsolute hf := by
    show h.files.ChangesAt ((c.compileWith run r).runFrom h).2.files _
    rcases c.compileWith_cases run h r with
      ⟨error, events, hc⟩ | ⟨compiler, source, result, events, hc, -⟩
    · rw [hc]
      exact Files.ChangesAt.refl hf _
    · rw [hc]
      exact hrun.compile c r compiler source h.files habsolute hf
  compiled r h habsolute hf hok place hplace hholds := by
    replace hok : ((c.compileWith run r).runFrom h).1 = .ok () := hok
    show ((c.compileWith run r).runFrom h).2.files.HoldsFile place
    rcases c.compileWith_cases run h r with
      ⟨error, events, hc⟩ | ⟨compiler, source, result, events, hc, hresult⟩
    · rw [hc] at hok
      cases hok
    · rw [hc] at hok ⊢
      obtain ⟨done, hdone, hsuccess⟩ := hresult hok
      exact hrun.compiled c r compiler source h.files done habsolute hf hdone hsuccess place hplace
        hholds
  extractHeader r _ hf := (hrun.extractHeader_changes c r hf).1
  header r _ hf := (hrun.extractHeader_changes c r hf).2

end Runner.Confined

/-- A toolchain writes where it is asked to, or runs processes that write where they are asked
to. -/
inductive Toolchain.Orderly : Toolchain → Prop where
  /-- It writes at the output and at the header. -/
  | confined {t : Toolchain} (ht : t.Confined) : t.Orderly
  /-- Its processes write at the output and at the listing. -/
  | processes {run : Runner} (hrun : run.Confined) (c : ToolConfig) : (c.toolchainWith run).Orderly

theorem Toolchain.Orderly.isConfined {t : Toolchain} (ht : t.Orderly) : t.Confined := by
  cases ht with
  | confined ht => exact ht
  | processes hrun c => exact hrun.toolchainWith c

end KernelForge
