import KernelForge.Proofs.Disk.Scratch
import KernelForge.Proofs.Tool.Confined

/-!
# Runs of a header extraction

What a header extraction does, step by step. A request is prepared or ends before anything is made;
once it is prepared, the compiler fills the listing, the header is written from the listing, and the
listing is removed whatever came of that. How the compiler ended only matters to the reason that is
given for a listing of no use. Main statements: `extractHeaderWith_unprepared`, `Prepared.run_eq`,
and, for the work on a listing, `headerFromListing_error`, `headerFromListing_useless` and
`headerFromListing_text`.
-/

namespace KernelForge

/-- A path is made absolute, or the failure is told with it. -/
theorem Host.absolute_eq (p : Path) (h : Host) :
    (Host.absolute p).runFrom h = ((h.files.absolute p).mapError (.file p), h) := by
  rw [Host.absolute, Host.ask, Act.runFrom_bind, Act.runFrom_reads]
  cases h.files.absolute p <;> simp [Except.mapError]

/-- Work on the files leaves the rest of the host alone. -/
theorem Host.onFile_run {α : Type} (p : Path) (act : Act Files Cause α) (h : Host) :
    (Host.onFile p act).runFrom h = ((act.runFrom h.files).1.mapError (.file p),
      { h with files := (act.runFrom h.files).2 }) := rfl

namespace ToolConfig

variable {c : ToolConfig} {run : Runner} {r : HeaderRequest} {h : Host}

/-! ### Before a process runs -/

/-- Looking for a tool changes the events alone. -/
theorem locate_run (c : ToolConfig) (h : Host) (tool : String) (override : Option Path)
    (candidates : List String) :
    ∃ r events, (c.locate tool override candidates).runFrom h = (r, { h with events }) := by
  rw [locate, Host.ask, Act.runFrom_bind, Act.runFrom_reads]
  simp only
  split
  · split <;> exact ⟨_, h.events, rfl⟩
  · split
    · exact ⟨_, _, rfl⟩
    · exact ⟨_, h.events, rfl⟩

/-- A header request is prepared: the compiler was located, the path of the source was made
absolute, and a file for the listing was made. -/
structure Prepared (c : ToolConfig) (r : HeaderRequest) (h : Host) where
  /-- The compiler. -/
  compiler : Path
  /-- The source as an absolute path. -/
  source : Path
  /-- The file for the listing. -/
  file : Path
  /-- The files, with that for the listing. -/
  made : Files
  /-- The compiler was located. -/
  located : ((c.locateCompiler r.driver).runFrom h).1 = .ok compiler
  /-- The path of the source was made absolute. -/
  absolute : h.files.absolute r.source = .ok source
  /-- The file for the listing was made beside the header. -/
  scratch : (Files.createScratch listingStyle (headerDirectory r.header)
    Files.createFile).runFrom h.files = (.ok file, made)

/-- A request that cannot be prepared fails, and leaves the files as they are. -/
theorem extractHeaderWith_unprepared (run : Runner) (hnone : IsEmpty (c.Prepared r h)) :
    ∃ error drawn events, (c.extractHeaderWith run r).runFrom h =
      (.error error, { h with files := { h.files with drawn }, events }) := by
  obtain ⟨located, events, hlocate⟩ :=
    c.locate_run h r.driver.label (c.override r.driver) r.driver.candidates
  have hlocated : ((c.locateCompiler r.driver).runFrom h).1 = located := by
    rw [locateCompiler, hlocate]
  rw [extractHeaderWith, locateCompiler, Act.runFrom_bind, hlocate]
  cases located with
  | error error => exact ⟨error, _, events, rfl⟩
  | ok compiler =>
    simp only
    rw [Act.runFrom_bind, Host.absolute_eq]
    cases habsolute : h.files.absolute r.source with
    | error cause => exact ⟨_, _, events, rfl⟩
    | ok source =>
      simp only [Except.mapError]
      rw [Act.runFrom_bind, Host.onFile_run]
      rcases hscratch : (Files.createScratch listingStyle (headerDirectory r.header)
        Files.createFile).runFrom h.files with ⟨cause | file, made⟩
      · obtain ⟨drawn, rfl⟩ := Files.createScratch_error Files.creates_createFile hscratch
        exact ⟨_, drawn, events, rfl⟩
      · exact hnone.elim ⟨compiler, source, file, made, hlocated, habsolute, hscratch⟩

/-- A prepared extraction works with the listing, and removes it whatever came of the work. -/
theorem Prepared.run_eq (p : c.Prepared r h) (run : Runner) :
    ∃ events, (c.extractHeaderWith run r).runFrom h =
      ((c.headerFromListing run r p.compiler p.source p.file).andFinally fun h' ↦
        { h' with files := ((Files.removeFile p.file).runFrom h'.files).2 }).runFrom
          { h with files := p.made, events } := by
  obtain ⟨located, events, hlocate⟩ :=
    c.locate_run h r.driver.label (c.override r.driver) r.driver.candidates
  have hlocated := p.located
  rw [locateCompiler, hlocate] at hlocated
  simp only at hlocated
  subst hlocated
  refine ⟨events, ?_⟩
  rw [extractHeaderWith, locateCompiler, Act.runFrom_bind_ok hlocate, Act.runFrom_bind,
    Host.absolute_eq, p.absolute]
  simp only [Except.mapError]
  rw [Act.runFrom_bind, Host.onFile_run, p.scratch]
  rfl

/-! ### Processes -/

section Start

variable {command : CommandLine} {left : Files}

theorem start_ok {done : Completed} (hrun : (run command).runFrom h.files = (.ok done, left)) :
    (start run command).runFrom h = (.ok done, { h with files := left }) := by
  rw [start, Host.onFiles, Act.runFrom_mapError, Act.run_within, hrun]
  rfl

theorem start_error {cause : Cause} (hrun : (run command).runFrom h.files = (.error cause, left)) :
    (start run command).runFrom h =
      (.error (.notStarted command.render cause), { h with files := left }) := by
  rw [start, Host.onFiles, Act.runFrom_mapError, Act.run_within, hrun]
  rfl

end Start

/-! ### The work on a listing -/

section Work

variable {compiler source file : Path} {left : Files} {done : Completed} {text : String}

/-- A listing without text is of no use, however the compiler ended. -/
theorem listing_useless (command : CommandLine) (done : Completed)
    (huseless : ∀ text, left.readText file = .ok text → text = "") :
    ∃ reason, ∀ h : Host, h.files = left → (listing command done file).runFrom h =
      (.error (.headerFailed command.render reason), h) := by
  simp only [listing, Host.ask, Act.runFrom_bind, Act.runFrom_reads]
  cases hread : left.readText file with
  | error cause =>
    apply Exists.intro
    intro h hleft
    rw [hleft, hread]
    rfl
  | ok text =>
    rw [huseless text hread] at hread
    apply Exists.intro
    intro h hleft
    rw [hleft, hread]
    rfl

/-- A listing with text is used, however the compiler ended. -/
theorem listing_text (command : CommandLine) (done : Completed)
    (htext : h.files.readText file = .ok text) (hne : text ≠ "") :
    (listing command done file).runFrom h = (.ok text, h) := by
  simp only [listing, Host.ask, Act.runFrom_bind, Act.runFrom_reads, htext]
  rfl

/-- A compiler that does not start ends the work. -/
theorem headerFromListing_error {cause : Cause}
    (hrun : (run (c.listingLine r compiler source file)).runFrom h.files = (.error cause, left)) :
    ∃ events, (c.headerFromListing run r compiler source file).runFrom h =
      (.error (.notStarted (c.listingLine r compiler source file).render cause),
        { h with files := left, events }) := by
  obtain ⟨events, htell⟩ := Host.tell_run .debug "extracting declarations" [("toolchain.command",
    (c.listingLine r compiler source file).render)] h
  refine ⟨events, ?_⟩
  rw [headerFromListing, Act.runFrom_bind_ok htell]
  exact Act.runFrom_bind_error (start_error (h := { h with events }) hrun) _

/-- So does a listing of no use. -/
theorem headerFromListing_useless
    (huseless : ∀ text, left.readText file = .ok text → text = "") (done : Completed) :
    ∃ reason, ∀ h : Host,
      (run (c.listingLine r compiler source file)).runFrom h.files = (.ok done, left) →
        ∃ events, (c.headerFromListing run r compiler source file).runFrom h =
          (.error (.headerFailed (c.listingLine r compiler source file).render reason),
            { h with files := left, events }) := by
  obtain ⟨reason, hlisting⟩ :=
    listing_useless (c.listingLine r compiler source file) done huseless
  refine ⟨reason, fun h hrun ↦ ?_⟩
  obtain ⟨events, htell⟩ := Host.tell_run .debug "extracting declarations" [("toolchain.command",
    (c.listingLine r compiler source file).render)] h
  refine ⟨events, ?_⟩
  have hstart := start_ok (h := { h with events }) hrun
  rw [headerFromListing, Act.runFrom_bind_ok htell, Act.runFrom_bind_ok hstart]
  exact Act.runFrom_bind_error (hlisting { h with files := left, events } rfl) _

/-- With a listing of use, the work is to write the header. -/
theorem headerFromListing_text
    (hrun : (run (c.listingLine r compiler source file)).runFrom h.files = (.ok done, left))
    (htext : left.readText file = .ok text) (hne : text ≠ "") {answer : Except Cause Unit}
    {written : Files} (hwrite : (Files.write r.header (utf8 (Header.render
      (Header.guard (Utf8.text (r.header.fileName?.getD [])))
        (Header.declarations text source.text)))).runFrom left = (answer, written)) :
    ∃ events, (c.headerFromListing run r compiler source file).runFrom h =
      ((answer.mapError (.file r.header)).map fun _ ↦
        (Header.declarations text source.text).length, { h with files := written, events }) := by
  obtain ⟨events, htell⟩ := Host.tell_run .debug "extracting declarations" [("toolchain.command",
    (c.listingLine r compiler source file).render)] h
  have hstart := start_ok (h := { h with events }) hrun
  have hlisting := listing_text (h := { h with files := left, events })
    (c.listingLine r compiler source file) done htext hne
  rw [headerFromListing, Act.runFrom_bind_ok htell, Act.runFrom_bind_ok hstart,
    Act.runFrom_bind_ok hlisting]
  have hlast (events : List Event) :
      ((do
        Host.onFile r.header (Files.write r.header (utf8 (Header.render
          (Header.guard (Utf8.text (r.header.fileName?.getD [])))
            (Header.declarations text source.text))))
        pure (Header.declarations text source.text).length :
          Act Host DeviceError Nat).runFrom { h with files := left, events }) =
      ((answer.mapError (.file r.header)).map fun _ ↦
        (Header.declarations text source.text).length, { h with files := written, events }) := by
    rw [Act.runFrom_bind, Host.onFile_run, hwrite]
    cases answer <;> rfl
  simp only
  split
  · obtain ⟨events', htell'⟩ := Host.tell_run .warn "no declarations found for source file"
      [("source", source.text)] { h with files := left, events }
    rw [Act.runFrom_bind_ok htell']
    exact ⟨events', hlast events'⟩
  · exact ⟨events, hlast events⟩

end Work

end ToolConfig

end KernelForge
