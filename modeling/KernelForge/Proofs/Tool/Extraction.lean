import KernelForge.Proofs.Disk.Absolute
import KernelForge.Proofs.Disk.Naming
import KernelForge.Proofs.Tool.Declarations
import KernelForge.Proofs.Tool.Processes
import Mathlib

/-!
# Extracting a header

A header request finds its compiler, makes a file for the listing, has the compiler fill it, and
writes the header from what is in the file then. How the compiler ended does not matter: only a
listing that holds no text is of no use. Whatever happens, the listing is gone at the end, and what
the extraction changed otherwise is the header at most. Main statement: `extraction_ends`. For the
run at the end, which `cbv` evaluates, the library is imported whole.
-/

namespace KernelForge.ToolConfig

variable {c : ToolConfig} {run : Runner} {r : HeaderRequest} {h : Host}

namespace Prepared

variable (p : c.Prepared r h) {f : Files} {result : Except DeviceError Nat}

/-- The command that fills the listing. -/
def command : CommandLine := c.listingLine r p.compiler p.source p.file

/-- The lines of a listing in which the path of the source occurs. -/
def mentions (listing : String) : List String :=
  ((Text.lines listing.toList).map String.ofList).filter fun line ↦
    p.source.text.toList <:+: line.toList

/-- The header that a listing gives. -/
def header (listing : String) : String :=
  Header.render (Header.guard (Utf8.text (r.header.fileName?.getD []))) (p.mentions listing)

/-- The work on the listing comes to `result` and leaves the files `f`. -/
def WorksTo (run : Runner) (result : Except DeviceError Nat) (f : Files) : Prop :=
  ∀ events, ∃ events', (c.headerFromListing run r p.compiler p.source p.file).runFrom
    { h with files := p.made, events } = (result, { h with files := f, events := events' })

/-- An extraction comes to what its work comes to, and removes the listing. -/
theorem run_of_work (hwork : p.WorksTo run result f) :
    ∃ events, (c.extractHeaderWith run r).runFrom h =
      (result, { h with files := ((Files.removeFile p.file).runFrom f).2, events }) := by
  obtain ⟨events, hrun⟩ := p.run_eq run
  obtain ⟨events', hwork⟩ := hwork events
  refine ⟨events', ?_⟩
  rw [hrun, Act.runFrom_andFinally, hwork]

/-! ### The listing -/

/-- The listing has a name of its own, under which nothing stood, and is all that was made. -/
theorem made_stands (hf : h.files.WellFormed) : p.file.EndsInName ∧
    ∃ place, p.made.Names p.file place ∧
      (∀ n, p.made.disk.node? place = some n → n.isSolid) ∧
      h.files.disk.node? place = none ∧
        ∀ q, q ≠ place → p.made.disk.node? q = h.files.disk.node? q := by
  obtain ⟨place, last, habsolute, hslash, -, hlocates, -, hnone, hmade⟩ :=
    Files.createScratch_ok hf listingStyle_isPlain Files.creates_createFile p.scratch
  have hstays : ∀ q, q ≠ place ++ [last] → p.made.disk.node? q = h.files.disk.node? q := by
    intro q hq
    rw [hmade.shows, if_neg hq]
  have hnode : p.made.disk.node? (place ++ [last]) = some (.file h.files.disk.next [] false) := by
    rw [hmade.shows, if_pos rfl]
  have hext : h.files.disk.Extends p.made.disk := by
    refine Files.extends_of_stays hstays fun n hn ↦ ?_
    rw [hnone] at hn
    cases hn
  refine ⟨hlocates.endsInName habsolute hslash, _, hlocates.names.extends habsolute hext,
    fun n hn ↦ ?_, hnone, hstays⟩
  rw [hnode, Option.some.injEq] at hn
  exact hn ▸ rfl

/-- The compiler touched nothing but the listing, and left no directory there. -/
structure Spares (left : Files) : Prop where
  /-- What stands elsewhere stayed. -/
  stays : ∀ q, ¬ p.made.Names p.file q → left.disk.node? q = p.made.disk.node? q
  /-- The listing is no directory. -/
  listing : left.isOwnDirectory p.file = false

/-- After the compiler left the files `left`, the extraction ended with `result`, and changed the
places that are `touched` at most, besides removing the listing. -/
structure Ends (run : Runner) (left : Files) (touched : Place → Prop)
    (result : Except DeviceError Nat) : Prop where
  /-- The result. -/
  result : ((c.extractHeaderWith run r).runFrom h).1 = result
  /-- What is not touched is as the compiler left it. -/
  stays : ∀ q, ¬ left.Names p.file q → ¬ touched q →
    ((c.extractHeaderWith run r).runFrom h).2.files.disk.node? q = left.disk.node? q
  /-- Nothing stands under the name of the listing, unless the compiler made a directory of it. -/
  gone : left.isOwnDirectory p.file = false → ∀ n,
    ((c.extractHeaderWith run r).runFrom h).2.files.ownNode p.file ≠ .ok n
  /-- If the compiler touched the listing only, all is as it was before the request. -/
  restored : p.Spares left → ∀ q, ¬ touched q →
    ((c.extractHeaderWith run r).runFrom h).2.files.disk.node? q = h.files.disk.node? q

/-- An extraction ends well if its work keeps directories and links and touches little else. What
the work left stays but for the listing. -/
theorem ends_of_work {left : Files} (touched : Place → Prop) (hf : h.files.WellFormed)
    (hwork : p.WorksTo run result f)
    (hstays : ∀ q, ¬ touched q → f.disk.node? q = left.disk.node? q)
    (hext : left.disk.Extends f.disk) (hback : f.disk.Extends left.disk) :
    p.Ends run left touched result ∧ ∀ q, ¬ left.Names p.file q →
      ((c.extractHeaderWith run r).runFrom h).2.files.disk.node? q = f.disk.node? q := by
  obtain ⟨events, hrun⟩ := p.run_of_work hwork
  obtain ⟨hname, place, hplace, hsolid, hnone, hmade⟩ := p.made_stands hf
  have hgone (hdir : left.isOwnDirectory p.file = false) : f.isOwnDirectory p.file = false :=
    Files.isOwnDirectory_extends hname hback hdir
  have hkept : ∀ q, ¬ left.Names p.file q →
      ((Files.removeFile p.file).runFrom f).2.disk.node? q = f.disk.node? q := fun q hq ↦
    Files.removeFile_stays hname fun h ↦ hq (h.extends hname.absolute hback)
  rw [hrun]
  refine ⟨⟨by rw [hrun], fun q hq htouched ↦ ?_, fun hdir n ↦ ?_, fun hspares q htouched ↦ ?_⟩,
    hkept⟩
  · rw [hrun]
    exact (hkept q hq).trans (hstays q htouched)
  · rw [hrun]
    exact Files.removeFile_gone hname (hgone hdir) n
  -- the listing still has its name, and stood where nothing was
  have hplace' : left.Names p.file place :=
    hplace.extends hname.absolute (Files.extends_of_stays
      (fun q hq ↦ hspares.stays q fun h ↦ hq (h.unique hplace)) hsolid)
  rw [hrun]
  by_cases hq : q = place
  · rw [hq, hnone]
    exact Files.removeFile_none hname (hgone hspares.listing) (hplace'.extends hname.absolute hext)
  · have hother {g : Files} (hg : g.Names p.file place) : ¬ g.Names p.file q :=
      fun h ↦ hq (h.unique hg)
    exact (hkept q (hother hplace')).trans ((hstays q htouched).trans
      ((hspares.stays q (hother hplace)).trans (hmade q hq)))

/-- Work that leaves the files as the compiler left them. -/
theorem ends_of_failure {left : Files} {error : DeviceError} (hf : h.files.WellFormed)
    (hwork : p.WorksTo run (.error error) left) :
    p.Ends run left (fun _ ↦ False) (.error error) :=
  (p.ends_of_work _ hf hwork (fun _ _ ↦ rfl) (fun _ _ h _ ↦ h) fun _ _ h _ ↦ h).1

/-- With a listing of use, the work is to write the header that the listing gives. -/
theorem work_of_text {done : Completed} {left written : Files} {text : String}
    {answer : Except Cause Unit} (hrun : (run p.command).runFrom p.made = (.ok done, left))
    (htext : left.readText p.file = .ok text) (hne : text ≠ "")
    (hwrite : (Files.write r.header (utf8 (p.header text))).runFrom left = (answer, written)) :
    p.WorksTo run ((answer.mapError (.file r.header)).map fun _ ↦ (p.mentions text).length)
      written := by
  intro events
  have hmentions : Header.declarations text p.source.text = p.mentions text :=
    Header.declarations_eq text p.source.text
  rw [header, ← hmentions] at hwrite
  rw [← hmentions]
  exact headerFromListing_text (h := { h with files := p.made, events }) hrun htext hne hwrite

end Prepared

/-- How an extraction ends. A request that cannot be prepared leaves the files alone. Once the
compiler has run, the listing is gone whatever happens, unless a directory was made of it. A
listing without text is an error and the header stays as it is, however the compiler ended. With
text, the header is written if it can be: it has the lines that mention the source, their number is
the answer, and they are read back from it but for white space at their ends. -/
theorem extraction_ends (c : ToolConfig) (run : Runner) (r : HeaderRequest) (h : Host)
    (hf : h.files.WellFormed) :
    (IsEmpty (c.Prepared r h) →
      (∃ error, ((c.extractHeaderWith run r).runFrom h).1 = .error error) ∧
        ((c.extractHeaderWith run r).runFrom h).2.files.disk = h.files.disk) ∧
    ∀ p : c.Prepared r h,
      (∀ cause left, (run p.command).runFrom p.made = (.error cause, left) →
        p.Ends run left (fun _ ↦ False) (.error (.notStarted p.command.render cause))) ∧
      ∀ done left, (run p.command).runFrom p.made = (.ok done, left) →
        ((∀ text, left.readText p.file = .ok text → text = "") → ∃ reason,
          p.Ends run left (fun _ ↦ False) (.error (.headerFailed p.command.render reason))) ∧
        ∀ text, left.readText p.file = .ok text → text ≠ "" →
          Header.declared (p.header text) = (p.mentions text).map Text.trimEnd ∧
          (∀ cause, left.target r.header = .error cause →
            p.Ends run left (fun _ ↦ False) (.error (.file r.header cause))) ∧
          ∀ place, left.target r.header = .ok place →
            p.Ends run left (· = place) (.ok (p.mentions text).length) ∧
            (¬ left.Names p.file place → left.disk.node? place ≠ some .sink →
              ∃ serial runnable,
                ((c.extractHeaderWith run r).runFrom h).2.files.disk.node? place =
                  some (.file serial (utf8 (p.header text)) runnable)) := by
  refine ⟨fun hnone ↦ ?_, fun p ↦ ⟨fun cause left hrun ↦ ?_,
    fun done left hrun ↦ ⟨fun huseless ↦ ?_, fun text htext hne ↦ ⟨?_, fun cause htarget ↦ ?_,
      fun place htarget ↦ ?_⟩⟩⟩⟩
  · obtain ⟨error, drawn, events, hrun⟩ := extractHeaderWith_unprepared run hnone
    rw [hrun]
    exact ⟨⟨error, rfl⟩, rfl⟩
  · exact p.ends_of_failure hf fun events ↦ headerFromListing_error hrun
  · obtain ⟨reason, hwork⟩ := headerFromListing_useless huseless done
    exact ⟨reason, p.ends_of_failure hf fun events ↦ hwork _ hrun⟩
  · have hslash := Path.slash_mem_text (Files.isAbsolute_of_absolute p.absolute)
    have hdeclared := Header.declared_declarations hslash
      (Utf8.text (r.header.fileName?.getD [])) text
    rwa [Header.declarations_eq] at hdeclared
  · exact p.ends_of_failure hf (p.work_of_text hrun htext hne (Files.write_error htarget _))
  · obtain ⟨written, hwrite, hstays, hnode⟩ :=
      Files.write_run htarget (utf8 (p.header text))
    obtain ⟨hext, hback⟩ := Files.write_extends htarget hwrite
    obtain ⟨hends, hkept⟩ := p.ends_of_work (· = place) hf
      (p.work_of_text hrun htext hne hwrite) hstays hext hback
    refine ⟨hends, fun hother hsink ↦ ?_⟩
    rw [hkept place hother]
    exact hnode.resolve_left fun h ↦ hsink h.1

/-! ### A compiler that complains -/

/-- A compiler that leaves a listing in the file named by its third argument, and complains. -/
def complaining (listing : String) : Runner := fun line ↦ do
  Files.write ⟨line.arguments.getD 2 []⟩ (utf8 listing)
  pure ⟨1, [], utf8 "complaint"⟩

/-- A host with the compiler `/w/cc`, seen from the root. -/
def desk : Host where
  files := {
    disk := {
      nodes := [([utf8 "w"], .directory 1), ([utf8 "w", utf8 "cc"], .file 2 [] true)]
      next := 3 }
    here := Disk.rootSerial }

/-- The configuration that runs the compiler. -/
def deskConfig : ToolConfig where
  cc := some (.ofString "/w/cc")

/-- A request for a header beside its source. -/
def deskRequest : HeaderRequest := ⟨.c, .ofString "/w/k.c", .ofString "/w/k.h", none⟩

/-- The files with an empty listing. -/
def deskMade : Files :=
  { desk.files with
    disk := desk.files.disk.fresh.2.put [utf8 "w", utf8 ".aux-000000.info"] (.file 3 [] false)
    drawn := 1 }

/-- The preparation of the request. -/
def deskPrepared : deskConfig.Prepared deskRequest desk where
  compiler := .ofString "/w/cc"
  source := .ofString "/w/k.c"
  file := .ofString "/w/.aux-000000.info"
  made := deskMade
  located := by cbv
  absolute := by cbv
  scratch := by cbv

/-- The files with a listing. -/
def deskLeft (listing : String) : Files :=
  { deskMade with
    disk := deskMade.disk.put [utf8 "w", utf8 ".aux-000000.info"] (.file 3 (utf8 listing) false) }

/-- A listing with a line for the source and one for another file. -/
def deskListing : String := "/* /w/k.c:1 */ int f (void); \r\n/* /usr/x.h:1 */ int g;\n"

/-- A compiler that ends badly but leaves a listing has its header written. -/
theorem extraction_ends_complaining : desk.files.WellFormed ∧
    ((deskConfig.extractHeaderWith (complaining deskListing) deskRequest).runFrom desk).1 = .ok 1 ∧
    (∃ serial runnable, ((deskConfig.extractHeaderWith (complaining deskListing)
      deskRequest).runFrom desk).2.files.disk.node? [utf8 "w", utf8 "k.h"] = some (.file serial
        (utf8 (Header.render (Header.guard "k.h") ["/* /w/k.c:1 */ int f (void); "])) runnable)) ∧
    ∀ n, ((deskConfig.extractHeaderWith (complaining deskListing)
      deskRequest).runFrom desk).2.files.ownNode (.ofString "/w/.aux-000000.info") ≠ .ok n := by
  have hf : desk.files.WellFormed := by decide +kernel
  have hrun : (complaining deskListing deskPrepared.command).runFrom deskPrepared.made =
      (.ok ⟨1, [], utf8 "complaint"⟩, deskLeft deskListing) := by cbv
  have htext : (deskLeft deskListing).readText deskPrepared.file = .ok deskListing := by
    have hread : (deskLeft deskListing).read deskPrepared.file = .ok (utf8 deskListing) := by cbv
    simp [Files.readText, hread, text?_utf8, bind, Except.bind]
  have hmentions : deskPrepared.mentions deskListing = ["/* /w/k.c:1 */ int f (void); "] := by
    decide +kernel
  have htarget : (deskLeft deskListing).target deskRequest.header =
      .ok [utf8 "w", utf8 "k.h"] := by cbv
  obtain ⟨-, hprepared⟩ := extraction_ends deskConfig (complaining deskListing) deskRequest desk hf
  obtain ⟨-, hstarted⟩ := hprepared deskPrepared
  obtain ⟨-, hlisting⟩ := hstarted _ _ hrun
  obtain ⟨-, -, hheader⟩ := hlisting deskListing htext (by decide)
  obtain ⟨hends, hcontent⟩ := hheader _ htarget
  have hother : ¬ (deskLeft deskListing).Names deskPrepared.file [utf8 "w", utf8 "k.h"] := by
    have hname : (deskLeft deskListing).Names deskPrepared.file
        [utf8 "w", utf8 ".aux-000000.info"] := ⟨[utf8 "w"], utf8 ".aux-000000.info", by cbv, rfl⟩
    intro h
    have heq := h.unique hname
    revert heq
    decide
  have hheaderName : Utf8.text (deskRequest.header.fileName?.getD []) = "k.h" := by cbv
  have hfree : (deskLeft deskListing).disk.node? [utf8 "w", utf8 "k.h"] = none := by cbv
  rw [Prepared.header, hmentions, hheaderName] at hcontent
  refine ⟨hf, ?_, hcontent hother (by simp [hfree]), hends.gone (by cbv)⟩
  rw [hends.result, hmentions]
  rfl

end KernelForge.ToolConfig
