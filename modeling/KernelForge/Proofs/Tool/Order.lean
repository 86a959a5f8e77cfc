import KernelForge.Proofs.Text.Reading
import KernelForge.Proofs.Tool.Anchored

/-!
# Which tool is found

A tool that is configured is found as configured or not at all. Only where none is configured are
the usual names tried: the first name that is a program in any directory of the search path is found
in the first directory where it is one. Main statement: `lookup_order`.
-/

namespace KernelForge

namespace Path

variable {name : Bytes}

/-- A path without a slash has one component at most. -/
theorem length_components_le_one (h : slash ∉ name) : (Path.mk name).components.length ≤ 1 := by
  have hsegments : (Path.mk name).segments.length ≤ 1 := by
    rw [segments, pieces_of_not_mem h]
    exact List.length_filter_le _ [name]
  have hrest := Nat.le_trans (List.length_filter_le (· ≠ dot) _) hsegments
  rw [components, if_neg (by simp [not_isAbsolute_of_not_mem h])]
  split
  · next hdot =>
    -- the dot stands for all of the path, and no other segment is left
    obtain rfl : name = dot := by simpa [startsWithDot, pieces_of_not_mem h] using hdot
    decide
  · rwa [List.length_map]

/-- A name behind a path is the file name. -/
theorem fileName?_join (p : Path) (h : slash ∉ name) (hnil : name ≠ []) (hdot : name ≠ dot)
    (hdotDot : name ≠ dotDot) : (p.join ⟨name⟩).fileName? = some name := by
  have hsegments : ((p.join ⟨name⟩).segments.filter (· ≠ dot)).map Component.ofSegment =
      (p.segments.filter (· ≠ dot)).map Component.ofSegment ++ [.name name] := by
    simp [segments_join h hnil, hdot, Component.ofSegment, hdotDot]
  have hlast : (p.join ⟨name⟩).components.getLast? = some (.name name) := by
    simp only [components, hsegments]
    split
    · rw [← List.cons_append, List.getLast?_concat]
    split
    · rw [← List.cons_append, List.getLast?_concat]
    · rw [List.getLast?_concat]
  rw [fileName?, hlast]

end Path

namespace ToolConfig

variable {c : ToolConfig} {f : Files} {h : Host} {name p : Path}

/-! ### Programs in the search path -/

/-- The directories in which programs are searched, in order. -/
def programDirectories (c : ToolConfig) : List Path :=
  (c.searchPath.toList.flatMap searchDirectories).map expandHome

/-- The program `name` is in no directory of the search path. -/
def Nowhere (c : ToolConfig) (f : Files) (name : Path) : Prop :=
  ∀ d ∈ c.programDirectories, ¬ f.isRunnable (d.join name)

/-- `p` is the program `name` in the first directory of the search path where it is one. -/
def FirstOn (c : ToolConfig) (f : Files) (name p : Path) : Prop :=
  ∃ before directory after, c.programDirectories = before ++ directory :: after ∧
    p = directory.join name ∧ f.isRunnable p ∧ ∀ d ∈ before, ¬ f.isRunnable (d.join name)

theorem search_eq (c : ToolConfig) (f : Files) (name : Path) :
    c.search f name = (c.programDirectories.map (·.join name)).find? f.isRunnable := by
  rw [search, programDirectories]
  cases c.searchPath with
  | none => rfl
  | some searchPath => simp [Function.comp_def]

theorem search_eq_some_iff : c.search f name = some p ↔ c.FirstOn f name p := by
  rw [search_eq, List.find?_eq_some_iff_append, FirstOn]
  constructor
  · rintro ⟨hp, before, after, hsplit, hbefore⟩
    obtain ⟨ds, rest, hdirectories, rfl, hrest⟩ := List.map_eq_append_iff.mp hsplit
    obtain ⟨d, es, rfl, rfl, rfl⟩ := List.map_eq_cons_iff.mp hrest
    exact ⟨ds, d, es, hdirectories, rfl, hp, by simpa using hbefore⟩
  · rintro ⟨before, d, after, hdirectories, rfl, hp, hbefore⟩
    exact ⟨hp, before.map (·.join name), after.map (·.join name), by simp [hdirectories],
      by simpa using hbefore⟩

theorem search_eq_none_iff : c.search f name = none ↔ c.Nowhere f name := by
  simp [search_eq, Nowhere]

/-! ### One name -/

/-- A path of several components, seen from the working directory. -/
def seen (c : ToolConfig) (name : Path) : Path :=
  if name.isAbsolute then name else c.workingDir.join name

theorem resolveExecutable_of_several (hname : 1 < name.components.length) :
    c.resolveExecutable f name = if f.isFile (c.seen name) then some (c.seen name) else none := by
  rw [resolveExecutable, if_pos hname]
  rfl

theorem resolveExecutable_of_single (hname : name.components.length ≤ 1) :
    c.resolveExecutable f name = c.search f name := by
  rw [resolveExecutable, if_neg (Nat.not_lt.mpr hname)]

/-- What a name is found as. -/
inductive Names (c : ToolConfig) (f : Files) : Path → Path → Prop where
  /-- A path of several components stands for itself, if it leads to a file. -/
  | several {name : Path} (several : 1 < name.components.length) (isFile : f.isFile (c.seen name)) :
      Names c f name (c.seen name)
  /-- Any other one is a program in the search path. -/
  | single {name p : Path} (single : name.components.length ≤ 1) (first : c.FirstOn f name p) :
      Names c f name p

/-- A name that is not found. -/
inductive Misses (c : ToolConfig) (f : Files) : Path → Prop where
  /-- A path of several components leads to no file. -/
  | several {name : Path} (several : 1 < name.components.length)
      (isFile : ¬ f.isFile (c.seen name)) : Misses c f name
  /-- Any other one is no program in the search path. -/
  | single {name : Path} (single : name.components.length ≤ 1) (nowhere : c.Nowhere f name) :
      Misses c f name

theorem resolveExecutable_eq_some_iff : c.resolveExecutable f name = some p ↔ c.Names f name p := by
  by_cases hname : 1 < name.components.length
  · rw [resolveExecutable_of_several hname, Option.ite_none_right_eq_some, Option.some.injEq]
    constructor
    · rintro ⟨hfile, rfl⟩
      exact .several hname hfile
    · intro hnames
      cases hnames with
      | several _ hfile => exact ⟨hfile, rfl⟩
      | single hsingle _ => exact absurd hname (Nat.not_lt.mpr hsingle)
  · have hsingle := Nat.not_lt.mp hname
    rw [resolveExecutable_of_single hsingle, search_eq_some_iff]
    constructor
    · exact .single hsingle
    · intro hnames
      cases hnames with
      | several hseveral _ => exact absurd hseveral hname
      | single _ hfirst => exact hfirst

theorem resolveExecutable_eq_none_iff : c.resolveExecutable f name = none ↔ c.Misses f name := by
  by_cases hname : 1 < name.components.length
  · have hnone : c.resolveExecutable f name = none ↔ ¬ f.isFile (c.seen name) := by
      rw [resolveExecutable_of_several hname]
      split <;> simp_all
    rw [hnone]
    constructor
    · exact .several hname
    · intro hmisses
      cases hmisses with
      | several _ hfile => exact hfile
      | single hsingle _ => exact absurd hname (Nat.not_lt.mpr hsingle)
  · have hsingle := Nat.not_lt.mp hname
    rw [resolveExecutable_of_single hsingle, search_eq_none_iff]
    constructor
    · exact .single hsingle
    · intro hmisses
      cases hmisses with
      | several hseveral _ => exact absurd hseveral hname
      | single _ hnowhere => exact hnowhere

/-! ### A lookup -/

/-- The answer of a lookup, from what was found. -/
def answered {α : Type} (error : DeviceError) : Option α → Except DeviceError α
  | some a => .ok a
  | none => .error error

section Answered

variable {α : Type} {error error' : DeviceError} {found : Option α} {a : α}

theorem answered_eq_ok_iff : answered error found = .ok a ↔ found = some a := by
  cases found <;> simp [answered]

theorem answered_eq_error_iff : answered error found = .error error' ↔
    found = none ∧ error' = error := by
  cases found <;> simp [answered, eq_comm]

theorem toOption_answered : (answered error found).toOption = found := by
  cases found <;> rfl

end Answered

/-- The names that a lookup may try: the override alone, or else the candidates. -/
def tried (override : Option Path) (candidates : List String) : List Path :=
  match override with
  | some name => [name]
  | none => candidates.map .ofString

/-- A lookup answers with the first of the names that is found. -/
theorem locate_answer (c : ToolConfig) (h : Host) (tool : String) (override : Option Path)
    (candidates : List String) :
    ((c.locate tool override candidates).runFrom h).1 =
      answered (.toolMissing tool (override.elim candidates fun name ↦ [name.text]))
        ((tried override candidates).findSome? (c.resolveExecutable h.files)) := by
  rw [locate, Host.ask, Act.runFrom_bind, Act.runFrom_reads]
  cases override with
  | some name =>
    simp only [id, tried, List.findSome?_cons, List.findSome?_nil]
    cases c.resolveExecutable h.files name <;> rfl
  | none =>
    simp only [id, tried, List.findSome?_map, Function.comp_def]
    cases candidates.findSome? fun name ↦ c.resolveExecutable h.files (.ofString name) <;> rfl

/-- What a lookup with an override and candidates picks. -/
inductive Picks (c : ToolConfig) (f : Files) : Option Path → List String → Path → Prop where
  /-- With an override, what that is found as. -/
  | override {name p : Path} {candidates : List String} (names : c.Names f name p) :
      Picks c f (some name) candidates p
  /-- Without one, the first candidate that is in the search path at all, in the first directory
  where it is. -/
  | candidate {earlier later : List String} {name : String} {p : Path}
      (nowhere : ∀ n ∈ earlier, c.Nowhere f (.ofString n))
      (first : c.FirstOn f (.ofString name) p) :
      Picks c f none (earlier ++ name :: later) p

/-- A lookup that picks nothing. -/
inductive Lacks (c : ToolConfig) (f : Files) : Option Path → List String → Prop where
  /-- The override is not found. -/
  | override {name : Path} {candidates : List String} (misses : c.Misses f name) :
      Lacks c f (some name) candidates
  /-- There is no override, and no candidate is in the search path. -/
  | candidates {candidates : List String} (nowhere : ∀ n ∈ candidates, c.Nowhere f (.ofString n)) :
      Lacks c f none candidates

section Lookup

variable {override : Option Path} {candidates : List String}

/-- The usual names are looked for in the search path. -/
def Usual (candidates : List String) : Prop :=
  ∀ name ∈ candidates, (Path.ofString name).components.length ≤ 1

instance (candidates : List String) : Decidable (Usual candidates) :=
  inferInstanceAs (Decidable (∀ name ∈ candidates, _))

theorem findSome?_tried_eq_some_iff (husual : Usual candidates) :
    (tried override candidates).findSome? (c.resolveExecutable f) = some p ↔
      c.Picks f override candidates p := by
  cases override with
  | some name =>
    have hone : (tried (some name) candidates).findSome? (c.resolveExecutable f) =
        c.resolveExecutable f name := by
      rw [tried, List.findSome?_cons]
      cases c.resolveExecutable f name <;> rfl
    rw [hone, resolveExecutable_eq_some_iff]
    constructor
    · exact .override
    · rintro ⟨hnames⟩
      exact hnames
  | none =>
    have hsearch : ∀ name ∈ candidates, c.resolveExecutable f (.ofString name) =
        c.search f (.ofString name) :=
      fun name hname ↦ resolveExecutable_of_single (husual name hname)
    rw [tried, List.findSome?_map, List.findSome?_eq_some_iff]
    constructor
    · rintro ⟨earlier, name, later, rfl, hfound, hearlier⟩
      rw [Function.comp_apply, hsearch name (by simp), search_eq_some_iff] at hfound
      refine .candidate (fun n hn ↦ ?_) hfound
      have hmissed := hearlier n hn
      rwa [Function.comp_apply, hsearch n (by simp [hn]), search_eq_none_iff] at hmissed
    · rintro ⟨⟩
      next earlier later name hnowhere hfirst =>
      refine ⟨earlier, name, later, rfl, ?_, fun n hn ↦ ?_⟩
      · rwa [Function.comp_apply, hsearch name (by simp), search_eq_some_iff]
      · rw [Function.comp_apply, hsearch n (by simp [hn]), search_eq_none_iff]
        exact hnowhere n hn

theorem findSome?_tried_eq_none_iff (husual : Usual candidates) :
    (tried override candidates).findSome? (c.resolveExecutable f) = none ↔
      c.Lacks f override candidates := by
  rw [List.findSome?_eq_none_iff]
  cases override with
  | some name =>
    simp only [tried, List.mem_singleton, forall_eq, resolveExecutable_eq_none_iff]
    constructor
    · exact .override
    · rintro ⟨hmisses⟩
      exact hmisses
  | none =>
    simp only [tried, List.forall_mem_map]
    have hsearch : ∀ name ∈ candidates, (c.resolveExecutable f (.ofString name) = none ↔
        c.Nowhere f (.ofString name)) := fun name hname ↦ by
      rw [resolveExecutable_of_single (husual name hname), search_eq_none_iff]
    constructor
    · intro hnone
      exact .candidates fun n hn ↦ (hsearch n hn).mp (hnone n hn)
    · rintro ⟨⟩
      next hnowhere => exact fun n hn ↦ (hsearch n hn).mpr (hnowhere n hn)

/-- A lookup answers with what it picks, and fails exactly where it picks nothing. -/
theorem locate_iff (husual : Usual candidates) (tool : String) :
    (∀ p, ((c.locate tool override candidates).runFrom h).1 = .ok p ↔
      c.Picks h.files override candidates p) ∧
    ∀ error, ((c.locate tool override candidates).runFrom h).1 = .error error ↔
      c.Lacks h.files override candidates ∧
        error = .toolMissing tool (override.elim candidates fun name ↦ [name.text]) := by
  simp only [locate_answer, answered_eq_ok_iff, answered_eq_error_iff,
    findSome?_tried_eq_some_iff husual, findSome?_tried_eq_none_iff husual, implies_true, and_self]

end Lookup

/-- The usual names of compilers and of simulators are no paths of their own. -/
theorem usual_candidates :
    (∀ driver : Driver, Usual driver.candidates) ∧ Usual SimulatorKind.candidates := by
  constructor
  · rintro (_ | _ | _) <;> decide
  · decide

theorem locateSimulator_answer (c : ToolConfig) (h : Host) : (c.locateSimulator.runFrom h).1 =
    answered (.simulatorMissing (c.simulator.toList.map Path.text ++ SimulatorKind.candidates))
      (((tried c.simulator SimulatorKind.candidates).findSome?
        (c.resolveExecutable h.files)).map fun p ↦ ⟨.detect p, p⟩) := by
  have hlocate := c.locate_answer h "simulator" c.simulator SimulatorKind.candidates
  rw [locateSimulator, Act.runFrom_bind, Act.runFrom_mapError]
  rcases hrun : (c.locate "simulator" c.simulator SimulatorKind.candidates).runFrom h with
    ⟨result, h'⟩
  simp only [hrun] at hlocate
  subst hlocate
  cases (tried c.simulator SimulatorKind.candidates).findSome? (c.resolveExecutable h.files) <;> rfl

/-- Looking for the simulator answers with what is picked, of the kind that its name says, and fails
exactly where nothing is picked. -/
theorem locateSimulator_iff (c : ToolConfig) (h : Host) :
    (∀ simulator, (c.locateSimulator.runFrom h).1 = .ok simulator ↔
      c.Picks h.files c.simulator SimulatorKind.candidates simulator.path ∧
        simulator.kind = .detect simulator.path) ∧
    ∀ error, (c.locateSimulator.runFrom h).1 = .error error ↔
      c.Lacks h.files c.simulator SimulatorKind.candidates ∧ error = .simulatorMissing
        (c.simulator.toList.map Path.text ++ SimulatorKind.candidates) := by
  simp only [locateSimulator_answer, answered_eq_ok_iff, answered_eq_error_iff,
    Option.map_eq_some_iff, Option.map_eq_none_iff, findSome?_tried_eq_some_iff usual_candidates.2,
    findSome?_tried_eq_none_iff usual_candidates.2, implies_true, and_true]
  rintro ⟨kind, p⟩
  simp only [Simulator.mk.injEq]
  constructor
  · rintro ⟨q, hpicks, rfl, rfl⟩
    exact ⟨hpicks, rfl⟩
  · rintro ⟨hpicks, rfl⟩
    exact ⟨p, hpicks, rfl, rfl⟩

/-- The kind of a simulator depends on its file name alone. -/
theorem SimulatorKind.detect_congr {p q : Path} (h : p.fileName? = q.fileName?) :
    SimulatorKind.detect p = SimulatorKind.detect q := by
  rw [SimulatorKind.detect, SimulatorKind.detect, h]

/-- A file name that is a text says the kind with its letters alone. -/
theorem SimulatorKind.detect_of_fileName? {s : String} (h : p.fileName? = some (utf8 s)) :
    SimulatorKind.detect p =
      if Text.occursIn "qemu".toList (s.toList.map Char.toLower) then .qemu else .spike := by
  have hletters : (Text.lower s).toList = s.toList.map Char.toLower := String.toList_ofList
  rw [SimulatorKind.detect, h, Option.getD_some, Utf8.text_utf8]
  simp only [hletters]

/-- A simulator that was picked by one of the usual names is of the kind with that name. -/
theorem detect_of_picks (hp : c.Picks h.files none SimulatorKind.candidates p) :
    p.fileName? = some (utf8 "spike") ∧ SimulatorKind.detect p = .spike ∨
      p.fileName? = some (utf8 "qemu-riscv64") ∧ SimulatorKind.detect p = .qemu := by
  obtain ⟨name, hname, directory, rfl⟩ :
      ∃ name ∈ SimulatorKind.candidates, ∃ directory : Path,
        p = directory.join (.ofString name) := by
    generalize SimulatorKind.candidates = candidates at hp
    rcases hp with ⟨⟩ | ⟨-, hfirst⟩
    next earlier later name =>
    obtain ⟨-, directory, -, -, hp, -⟩ := hfirst
    exact ⟨name, by simp, directory, hp⟩
  simp only [SimulatorKind.candidates, List.mem_cons, List.not_mem_nil, or_false] at hname
  rcases hname with rfl | rfl
  · have hfile : (directory.join ⟨utf8 "spike"⟩).fileName? = some (utf8 "spike") :=
      directory.fileName?_join (by decide) (by decide) (by decide) (by decide)
    have hother : Text.occursIn "qemu".toList ("spike".toList.map Char.toLower) = false := by decide
    exact .inl ⟨hfile, (SimulatorKind.detect_of_fileName? hfile).trans (by rw [hother]; rfl)⟩
  · have hfile : (directory.join ⟨utf8 "qemu-riscv64"⟩).fileName? = some (utf8 "qemu-riscv64") :=
      directory.fileName?_join (by decide) (by decide) (by decide) (by decide)
    have hqemu : Text.occursIn "qemu".toList ("qemu-riscv64".toList.map Char.toLower) = true := by
      decide
    exact .inr ⟨hfile, (SimulatorKind.detect_of_fileName? hfile).trans (by rw [hqemu]; rfl)⟩

/-- For every compiler and for the simulator: without an override, the first usual name that is a
program in any directory of the search path is found, in the first directory where it is one, and
the lookup fails exactly where none is in any; an override is found by itself or not at all,
whatever the candidates are. An override of several components stands for itself, seen from the
working directory, whatever the search path is; one without a slash is looked for in the search
path, whatever the working directory is. The kind of a simulator depends on its file name alone, and
is the one that a usual name says. -/
theorem lookup_order (c : ToolConfig) (h : Host) :
    (∀ driver : Driver,
      (∀ p, ((c.locateCompiler driver).runFrom h).1 = .ok p ↔
        c.Picks h.files (c.override driver) driver.candidates p) ∧
      ∀ error, ((c.locateCompiler driver).runFrom h).1 = .error error ↔
        c.Lacks h.files (c.override driver) driver.candidates ∧ error = .toolMissing driver.label
          ((c.override driver).elim driver.candidates fun name ↦ [name.text])) ∧
    ((∀ simulator, (c.locateSimulator.runFrom h).1 = .ok simulator ↔
        c.Picks h.files c.simulator SimulatorKind.candidates simulator.path ∧
          simulator.kind = .detect simulator.path) ∧
      ∀ error, (c.locateSimulator.runFrom h).1 = .error error ↔
        c.Lacks h.files c.simulator SimulatorKind.candidates ∧ error = .simulatorMissing
          (c.simulator.toList.map Path.text ++ SimulatorKind.candidates)) ∧
    (∀ tool name candidates candidates', (c.locate tool (some name) candidates).runFrom h =
      (c.locate tool (some name) candidates').runFrom h) ∧
    (∀ name : Path, 1 < name.components.length → ∀ searchPath,
      ({ c with searchPath }).resolveExecutable h.files name = c.resolveExecutable h.files name) ∧
    (∀ name : Path, Path.slash ∉ name.bytes → name.components.length ≤ 1 ∧ ∀ workingDir,
      ({ c with workingDir }).resolveExecutable h.files name = c.resolveExecutable h.files name) ∧
    (∀ p q : Path, p.fileName? = q.fileName? → SimulatorKind.detect p = .detect q) ∧
    (c.simulator = none → ∀ simulator, (c.locateSimulator.runFrom h).1 = .ok simulator →
      simulator.path.fileName? = some (utf8 "spike") ∧ simulator.kind = .spike ∨
        simulator.path.fileName? = some (utf8 "qemu-riscv64") ∧ simulator.kind = .qemu) := by
  refine ⟨fun driver ↦ locate_iff (usual_candidates.1 driver) driver.label,
    c.locateSimulator_iff h, fun tool name candidates candidates' ↦ rfl,
    fun name hname searchPath ↦ ?_, fun name hname ↦ ?_, fun p q ↦ SimulatorKind.detect_congr,
    fun hnone simulator hfound ↦ ?_⟩
  · rw [resolveExecutable_of_several hname, resolveExecutable_of_several hname]
    rfl
  · have hsingle : name.components.length ≤ 1 := Path.length_components_le_one hname
    refine ⟨hsingle, fun workingDir ↦ ?_⟩
    rw [resolveExecutable_of_single hsingle, resolveExecutable_of_single hsingle]
    rfl
  · obtain ⟨hpicks, hkind⟩ := ((c.locateSimulator_iff h).1 simulator).mp hfound
    rw [hnone] at hpicks
    rw [hkind]
    exact detect_of_picks hpicks

/-! ### Programs in two directories -/

/-- A host with `gcc` in both `/a` and `/b`, where only the second may be run, and with `clang` in
`/a`. -/
def twoPlaces : Host where
  files := {
    disk := {
      nodes := [([utf8 "a"], .directory 1), ([utf8 "b"], .directory 2),
        ([utf8 "a", utf8 "gcc"], .file 3 [] false), ([utf8 "a", utf8 "clang"], .file 4 [] true),
        ([utf8 "b", utf8 "gcc"], .file 5 [] true)]
      next := 6 }
    here := Disk.rootSerial }

/-- The configuration that searches programs in `/a` and then in `/b`. -/
def twoPlacesConfig : ToolConfig where
  searchPath := some (utf8 "/a:/b")

/-- The earlier name in the later directory is found before the later name in the earlier one; an
override that is missing is not made good by the usual names. -/
theorem lookup_order_crossed :
    ((twoPlacesConfig.locateCompiler .c).runFrom twoPlaces).1 = .ok (.ofString "/b/gcc") ∧
    (({ twoPlacesConfig with cc := some (.ofString "icc") }.locateCompiler .c).runFrom
      twoPlaces).1 = .error (.toolMissing "C compiler" ["icc"]) := by
  constructor
  · refine (((lookup_order twoPlacesConfig twoPlaces).1 .c).1 _).mpr ?_
    have hdirectories : twoPlacesConfig.programDirectories =
        [.ofString "/a"] ++ .ofString "/b" :: [] := by cbv
    have hnoEarlier : ∀ n ∈ ([] : List String), twoPlacesConfig.Nowhere twoPlaces.files
        (.ofString n) := by simp
    refine .candidate hnoEarlier ⟨_, _, _, hdirectories, by decide, by cbv, ?_⟩
    intro d hd
    rw [List.mem_singleton] at hd
    have hstill :
        twoPlaces.files.isRunnable ((Path.ofString "/a").join (.ofString "gcc")) = false := by
      cbv
    simp [hd, hstill]
  · refine (((lookup_order _ twoPlaces).1 .c).2 _).mpr ⟨.override (.single (by decide) ?_), by cbv⟩
    have hdirectories : ({ twoPlacesConfig with cc := some (.ofString "icc") }).programDirectories =
        [.ofString "/a", .ofString "/b"] := by cbv
    intro d hd
    have hnone : ∀ d ∈ [Path.ofString "/a", .ofString "/b"],
        twoPlaces.files.isRunnable (d.join (.ofString "icc")) = false := by
      simp only [List.mem_cons, List.not_mem_nil, or_false]
      rintro d (rfl | rfl) <;> cbv
    simp [hnone d (hdirectories ▸ hd)]

end ToolConfig

end KernelForge
