import KernelForge.Proofs.Disk.Absolute
import KernelForge.Proofs.Tool.Processes
import KernelForge.Target.Adapter
import Mathlib

/-!
# What was found is what is used

Tools are looked for from the current directory, and their processes run in the working directory of
the configuration. An absolute path leads to the same from both, and so does every path where the
two directories are the same; other paths need not. A source is made absolute, so that a process
finds it from wherever it runs. Main statement: `found_denotes`. For the runs at the end, which
`cbv` evaluates, the library is imported whole.
-/

namespace KernelForge

namespace Files

variable {f g : Files} {p : Path}

/-- A path means the same in two views of a tree: it leads to the same, and so does the way to its
last step. -/
structure Agree (f g : Files) (p : Path) : Prop where
  /-- It leads to the same spot. -/
  spot : g.spot p = f.spot p
  /-- The same stands there. -/
  node : g.node p = f.node p
  /-- Its last step is the same. -/
  ending : g.ending p = f.ending p

theorem Agree.isFile_eq (h : f.Agree g p) : g.isFile p = f.isFile p := by
  rw [isFile, isFile, h.node]

theorem Agree.isDirectory_eq (h : f.Agree g p) : g.isDirectory p = f.isDirectory p := by
  rw [isDirectory, isDirectory, h.node]

/-- A path cannot tell the directories apart: it is absolute, or they are the same. -/
def Steady (f g : Files) (p : Path) : Prop := p.isAbsolute ∨ g.here = f.here

theorem Steady.agree (h : f.Steady g p) (hdisk : g.disk = f.disk) : f.Agree g p := by
  have hstart : g.start p = f.start p := by
    rcases h with ha | hhere
    · exact start_of_isAbsolute ha
    · simp only [start, hdisk, hhere]
  have hspot : g.spot p = f.spot p := by simp only [Files.spot, hstart, hdisk]
  exact ⟨hspot, by simp only [Files.node, hspot, hdisk], by simp only [Files.ending, hstart, hdisk]⟩

/-- What is behind a steady path is steady. -/
theorem Steady.join (h : f.Steady g p) (q : Path) : f.Steady g (p.join q) :=
  h.imp_left fun ha ↦ Path.isAbsolute_join_of_isAbsolute ha q

theorem isFile_of_isRunnable (h : f.isRunnable p) : f.isFile p := by
  unfold isRunnable at h
  unfold isFile
  split at h
  · next n hn =>
    cases n <;> simp_all [Node.file?, Node.isFile]
  · cases h

/-- A process in another directory sees the same tree. -/
theorem disk_of_changeDirectory (h : (changeDirectory p).runFrom f = (.ok (), g)) :
    g.disk = f.disk := by
  simp only [changeDirectory, Act.runFrom_ofRun] at h
  split at h
  · cases h
    rfl
  · cases h
  · cases h

end Files

namespace ToolConfig

open Files

variable {c : ToolConfig} {h h' : Host} {p : Path}

/-! ### What is found -/

/-- The program files that `c` finds from the current directory of `h`. -/
inductive Finds (c : ToolConfig) (h : Host) : Path → Prop where
  /-- A compiler. -/
  | compiler {driver : Driver} {p : Path} {h' : Host}
      (located : (c.locateCompiler driver).runFrom h = (.ok p, h')) : Finds c h p
  /-- The simulator. -/
  | simulator {simulator : Simulator} {h' : Host}
      (located : c.locateSimulator.runFrom h = (.ok simulator, h')) : Finds c h simulator.path

/-- Where a program that was found comes from. -/
inductive Resolved (c : ToolConfig) (f : Files) (p : Path) : Prop where
  /-- A path of its own, seen from the working directory. -/
  | own {name : Path} (eq : p = if name.isAbsolute then name else c.workingDir.join name)
      (isFile : f.isFile p)
  /-- A runnable file in a directory of the search path. -/
  | searched {name directory : Path} {searchPath : Bytes} (search : c.searchPath = some searchPath)
      (mem : directory ∈ searchDirectories searchPath) (eq : p = (expandHome directory).join name)
      (runnable : f.isRunnable p)

theorem resolved_of_resolveExecutable {f : Files} {name : Path}
    (hp : c.resolveExecutable f name = some p) : c.Resolved f p := by
  unfold resolveExecutable at hp
  split at hp
  · simp only [Option.ite_none_right_eq_some, Option.some.injEq] at hp
    obtain ⟨hfile, rfl⟩ := hp
    exact .own rfl hfile
  · unfold search at hp
    split at hp
    · cases hp
    · next searchPath hsearch =>
      obtain ⟨directory, hmem, rfl⟩ := List.mem_map.mp (List.mem_of_find?_eq_some hp)
      exact .searched hsearch hmem rfl (List.find?_some hp)

theorem resolved_of_locate {tool : String} {override : Option Path} {candidates : List String}
    (hp : (c.locate tool override candidates).runFrom h = (.ok p, h')) : c.Resolved h.files p := by
  rw [locate, Host.ask, Act.runFrom_bind, Act.runFrom_reads] at hp
  simp only [id] at hp
  split at hp
  · split at hp
    · next hfound =>
      cases hp
      exact resolved_of_resolveExecutable hfound
    · cases hp
  · split at hp
    · next found hfound =>
      obtain ⟨name, -, hname⟩ := List.exists_of_findSome?_eq_some hfound
      rw [Act.runFrom_bind] at hp
      cases hp
      exact resolved_of_resolveExecutable hname
    · cases hp

theorem Finds.resolved (hp : c.Finds h p) : c.Resolved h.files p := by
  cases hp with
  | compiler located => exact resolved_of_locate located
  | @simulator simulator h' located =>
    rw [locateSimulator, Act.runFrom_bind, Act.runFrom_mapError] at located
    rcases hlocate : (c.locate "simulator" c.simulator SimulatorKind.candidates).runFrom h with
      ⟨error | p, h''⟩
    · rw [hlocate] at located
      cases located
    · simp only [hlocate, Except.mapError, Act.runFrom_pure, Prod.mk.injEq,
        Except.ok.injEq] at located
      obtain ⟨rfl, -⟩ := located
      exact resolved_of_locate hlocate

theorem Resolved.isFile {f : Files} (hp : c.Resolved f p) : f.isFile p := by
  cases hp with
  | own _ isFile => exact isFile
  | searched _ _ _ runnable => exact isFile_of_isRunnable runnable

/-- A configuration whose paths do not depend on the current directory. -/
structure Anchored (c : ToolConfig) : Prop where
  /-- The working directory is absolute. -/
  workingDir : c.workingDir.isAbsolute
  /-- The directories of the search path are absolute. -/
  search : ∀ s, c.searchPath = some s → ∀ d ∈ searchDirectories s, (expandHome d).isAbsolute
  /-- The places of the SDK are absolute. -/
  roots : ∀ p ∈ c.sdkRoot.toList ++ c.sdkSearch, p.isAbsolute

theorem Anchored.isAbsolute (hc : c.Anchored) {f : Files} (hp : c.Resolved f p) :
    p.isAbsolute := by
  cases hp with
  | own eq isFile =>
    rw [eq]
    split
    · next ha => exact ha
    · exact Path.isAbsolute_join_of_isAbsolute hc.workingDir _
  | searched search mem eq runnable =>
    rw [eq]
    exact Path.isAbsolute_join_of_isAbsolute (hc.search _ search _ mem) _

theorem resolveSdkRoot_eq_ok (hp : c.resolveSdkRoot.runFrom h = (.ok p, h')) :
    p ∈ c.sdkRoot.toList ++ c.sdkSearch ∧ h.files.isDirectory p := by
  rw [resolveSdkRoot] at hp
  simp only [Host.ask, Act.runFrom_bind, Act.runFrom_reads, id] at hp
  split at hp
  · next root hroot =>
    cases hp
    exact ⟨List.mem_of_find?_eq_some hroot, List.find?_some hroot⟩
  · cases hp

/-- A command to compile is made of the compiler that was found and of the source made absolute. -/
theorem compileCommand_eq_ok {r : CompileRequest} {line : CommandLine}
    (hline : (c.compileCommand r).runFrom h = (.ok line, h')) : ∃ compiler source,
      line = c.compileLine r compiler source ∧ c.Finds h compiler ∧
        h.files.absolute r.source = .ok source := by
  obtain ⟨located, events, hlocate⟩ :=
    c.locate_run h r.driver.label (c.override r.driver) r.driver.candidates
  change (c.locateCompiler r.driver).runFrom h = _ at hlocate
  rw [compileCommand, Act.runFrom_bind, hlocate] at hline
  cases located with
  | error error => cases hline
  | ok compiler =>
    simp only [Act.runFrom_bind, Host.absolute, Host.ask, Act.runFrom_reads] at hline
    cases hsource : h.files.absolute r.source with
    | error cause =>
      rw [hsource] at hline
      cases hline
    | ok source =>
      rw [hsource] at hline
      cases hline
      exact ⟨compiler, source, rfl, .compiler hlocate, rfl⟩

/-! ### What is used -/

/-- A process that is started in `child` with a program uses the file that was found for it: only a
path with a slash is looked up there. -/
structure Uses (f child : Files) (p : Path) : Prop where
  /-- The path is looked up as it is. -/
  slash : Path.slash ∈ p.bytes
  /-- It means the same there. -/
  agree : f.Agree child p
  /-- The file is there. -/
  isFile : child.isFile p

theorem slash_mem_of_isAbsolute (hp : p.isAbsolute) : Path.slash ∈ p.bytes := by
  rw [Path.isAbsolute, beq_iff_eq] at hp
  exact List.mem_of_head? hp

/-- The directories to link against are behind the root of the SDK. -/
theorem linkOptions_steady {child : Files} {root : Path} {h'' : Host} {options : ToolOptions}
    (hroot : c.resolveSdkRoot.runFrom h = (.ok root, h'))
    (hoptions : c.linkOptions.runFrom h = (.ok options, h''))
    (hsteady : h.files.Steady child root) :
    ∀ p ∈ options.includeDirs ++ options.libraryDirs, h.files.Steady child p := by
  have hruntime : h.files.Steady child (root.joinText "runtime") := hsteady.join _
  have hchip : h.files.Steady child ((root.joinText "runtime").joinText c.chip) := hruntime.join _
  rw [linkOptions, Act.runFrom_bind_ok hroot] at hoptions
  generalize emulatedChips.contains c.chip = emulated at hoptions
  have hlink : ∃ directory, options.includeDirs ++ options.libraryDirs =
      [(root.joinText "runtime").joinText "customize/include",
        (root.joinText "runtime").joinText "kernel",
        ((root.joinText "runtime").joinText c.chip).joinText "TPU1686/kernel/include",
        ((root.joinText "runtime").joinText c.chip).joinText directory] := by
    cases emulated <;> simp only [Bool.false_eq_true, if_true, if_false, Act.runFrom_pure,
      Prod.mk.injEq, Except.ok.injEq] at hoptions <;> exact hoptions.1 ▸ ⟨_, rfl⟩
  obtain ⟨directory, hlink⟩ := hlink
  simp only [hlink, List.mem_cons, List.not_mem_nil, or_false]
  rintro p (rfl | rfl | rfl | rfl)
  · exact hruntime.join _
  · exact hruntime.join _
  · exact hchip.join _
  · exact hchip.join _

/-- A directory is handed to a compiler by its text, which tells the path if that is text. -/
theorem mem_arguments {r : CompileRequest} {p : Path} (compiler source : Path)
    (hp : utf8 p.text = p.bytes) :
    (p ∈ r.options.includeDirs →
        utf8 "-I" ++ p.bytes ∈ (c.compileLine r compiler source).arguments) ∧
      (p ∈ r.options.libraryDirs →
        utf8 "-L" ++ p.bytes ∈ (c.compileLine r compiler source).arguments) := by
  have htext : ∀ option : String, utf8 (option ++ p.text) = utf8 option ++ p.bytes :=
    fun option ↦ by rw [utf8_append, hp]
  rw [← htext, ← htext]
  refine ⟨fun hmem ↦ ?_, fun hmem ↦ ?_⟩ <;> refine List.mem_append_right _ (List.mem_map_of_mem ?_)
  · exact List.mem_append_left _ (List.mem_append_left _
      (List.mem_map_of_mem (f := fun d : Path ↦ "-I" ++ d.text) hmem))
  · exact List.mem_append_left _ (List.mem_append_right _
      (List.mem_map_of_mem (f := fun d : Path ↦ "-L" ++ d.text) hmem))

/-- What was found from the current directory is what a process uses from the working directory,
for every path that cannot tell them apart:

* a program that was found is a file, and it is the one that the process starts, if its path has a
  slash;
* the root of the SDK is a directory, and the process finds it and the directories to link against
  where they were found;
* a command to compile starts a program that was found; the source is made absolute and so is found
  from everywhere, the output is left where it was asked for, and the directories are handed on;
* in an anchored configuration, everything that is found is absolute, and is what is used. -/
theorem found_denotes (c : ToolConfig) (h : Host) (child : Files) (hf : h.files.WellFormed)
    (hnamed : h.files.Named)
    (hchild : (changeDirectory c.workingDir).runFrom h.files = (.ok (), child)) :
    (∀ p, c.Finds h p → h.files.isFile p ∧
      (h.files.Steady child p → Path.slash ∈ p.bytes → Uses h.files child p)) ∧
    (∀ root h', c.resolveSdkRoot.runFrom h = (.ok root, h') → h.files.isDirectory root ∧
      (h.files.Steady child root → h.files.Agree child root ∧ child.isDirectory root ∧
        ∀ options h'', c.linkOptions.runFrom h = (.ok options, h'') →
          ∀ p ∈ options.includeDirs ++ options.libraryDirs, h.files.Agree child p)) ∧
    (∀ r line h', (c.compileCommand r).runFrom h = (.ok line, h') → ∃ compiler source,
      line = c.compileLine r compiler source ∧ c.Finds h compiler ∧
        (source.isAbsolute ∧ ∀ s, h.files.spot r.source = .ok s →
          source.bytes.length < pathLimit → child.spot source = .ok s) ∧
        (h.files.Steady child r.output → h.files.Agree child r.output) ∧
        ∀ p, utf8 p.text = p.bytes →
          (p ∈ r.options.includeDirs → utf8 "-I" ++ p.bytes ∈ line.arguments) ∧
          (p ∈ r.options.libraryDirs → utf8 "-L" ++ p.bytes ∈ line.arguments)) ∧
    (c.Anchored → (∀ p, c.Finds h p → p.isAbsolute ∧ Uses h.files child p) ∧
      ∀ root h', c.resolveSdkRoot.runFrom h = (.ok root, h') → root.isAbsolute) := by
  have hdisk := disk_of_changeDirectory hchild
  have huses : ∀ p, c.Finds h p → h.files.Steady child p → Path.slash ∈ p.bytes →
      Uses h.files child p := fun p hp hsteady hslash ↦
    have hagree := hsteady.agree hdisk
    ⟨hslash, hagree, hagree.isFile_eq.trans hp.resolved.isFile⟩
  refine ⟨fun p hp ↦ ⟨hp.resolved.isFile, huses p hp⟩,
    fun root h' hroot ↦ ⟨(resolveSdkRoot_eq_ok hroot).2, fun hsteady ↦ ?_⟩,
    fun r line h' hline ↦ ?_, fun hc ↦ ⟨fun p hp ↦ ?_, ?_⟩⟩
  · have hagree := hsteady.agree hdisk
    refine ⟨hagree, hagree.isDirectory_eq.trans (resolveSdkRoot_eq_ok hroot).2, ?_⟩
    intro options h'' hoptions p hp
    exact (linkOptions_steady hroot hoptions hsteady p hp).agree hdisk
  · obtain ⟨compiler, source, rfl, hfinds, hsource⟩ := compileCommand_eq_ok hline
    have habsolute := isAbsolute_of_absolute hsource
    refine ⟨compiler, source, rfl, hfinds, ⟨habsolute, fun s hs hshort ↦ ?_⟩,
      fun hsteady ↦ hsteady.agree hdisk, fun p hp ↦ mem_arguments compiler source hp⟩
    rw [(Steady.agree (Or.inl habsolute) hdisk).spot]
    exact spot_absolute hf hnamed hsource hshort hs
  · have habsolute := hc.isAbsolute hp.resolved
    exact ⟨habsolute, huses p hp (Or.inl habsolute) (slash_mem_of_isAbsolute habsolute)⟩
  · intro root h' hroot
    exact hc.roots root (resolveSdkRoot_eq_ok hroot).1

/-! ### A compiler below the working directory -/

/-- A host with the compiler `/w/bin/cc`, seen from the root. -/
def yard : Host where
  files := {
    disk := {
      nodes := [([utf8 "w"], .directory 1), ([utf8 "w", utf8 "bin"], .directory 2),
        ([utf8 "w", utf8 "bin", utf8 "cc"], .file 3 (utf8 "#!/bin/sh\n") true)]
      next := 4 }
    here := Disk.rootSerial }

/-- The files of the host, seen from `/w`. -/
def yardChild : Files := { yard.files with here := 1 }

/-- The configuration that runs the compiler from a working directory. -/
def yardConfig (directory : String) : ToolConfig where
  cc := some (.ofString "bin/cc")
  workingDir := .ofString directory

/-- A request to compile. -/
def yardRequest : CompileRequest := ⟨.c, .ofString "/k.c", .ofString "k.so", none, {}⟩

/-- The command that the request comes to in the working directory `w`. -/
def yardLine : CommandLine :=
  ⟨.ofString "w/bin/cc", ["/k.c", "-o", "k.so"].map utf8, .ofString "w"⟩

private theorem named_yard : yard.files.Named := by
  intro place hplace
  have hroot : yard.files.disk.placeOf? yard.files.here = some [] := rfl
  rw [hroot, Option.some.injEq] at hplace
  simp [← hplace]

/-- From an absolute working directory, the compiler that was found is the one that is started. -/
theorem found_denotes_anchored : (yardConfig "/w").Anchored ∧
    (yardConfig "/w").Finds yard (.ofString "/w/bin/cc") ∧
    Uses yard.files yardChild (.ofString "/w/bin/cc") := by
  have hanchored : (yardConfig "/w").Anchored := by
    refine ⟨by decide, fun s hs ↦ ?_, fun p hp ↦ ?_⟩
    · cases hs
    · cases hp
  have hlocated : ((yardConfig "/w").locateCompiler .c).runFrom yard =
      (.ok (.ofString "/w/bin/cc"), yard) := by
    cbv
  have hfinds := Finds.compiler hlocated
  obtain ⟨-, -, -, hall⟩ := found_denotes (yardConfig "/w") yard yardChild (by decide +kernel)
    named_yard (by cbv)
  exact ⟨hanchored, hfinds, ((hall hanchored).1 _ hfinds).2⟩

/-- From a relative working directory, the compiler is found, but the process that is to be started
looks for it in another place, where it is missing; and it would leave its output in another place
than the one asked for. -/
theorem found_denotes_adrift : yard.files.WellFormed ∧ yard.files.Named ∧
    (changeDirectory (yardConfig "w").workingDir).runFrom yard.files = (.ok (), yardChild) ∧
    (yardConfig "w").Finds yard (.ofString "w/bin/cc") ∧
    yardChild.spot (.ofString "w/bin/cc") = .error .missing ∧
    (((yardConfig "w").compile yardRequest).runFrom yard).1 =
      .error (.notStarted yardLine.render .missing) ∧
    yard.files.ending yardRequest.output = .ok (.entry [] (utf8 "k.so")) ∧
    yardChild.ending yardRequest.output = .ok (.entry [utf8 "w"] (utf8 "k.so")) := by
  have hlocated : ((yardConfig "w").locateCompiler .c).runFrom yard =
      (.ok (.ofString "w/bin/cc"), yard) := by
    cbv
  have hcommand : ((yardConfig "w").compileCommand yardRequest).runFrom yard =
      (.ok yardLine, yard) := by
    cbv
  have hrun : (Process.run yardLine).runFrom yard.files = (.error .missing, yard.files) := by cbv
  refine ⟨by decide +kernel, named_yard, by cbv, .compiler hlocated, by cbv, ?_, by cbv, by cbv⟩
  obtain ⟨events, htell⟩ := Host.tell_run .debug "compiling"
    [("toolchain.command", yardLine.render)] yard
  show (((yardConfig "w").compileWith Process.run yardRequest).runFrom yard).1 = _
  rw [compileWith, Act.runFrom_bind_ok hcommand, Act.runFrom_bind_ok htell, start, Host.onFiles,
    Act.runFrom_bind, Act.runFrom_mapError, Act.run_within]
  simp only [hrun]
  rfl

end ToolConfig

end KernelForge
