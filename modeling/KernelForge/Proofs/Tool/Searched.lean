import KernelForge.Proofs.Tool.Order

/-!
# What a failed lookup tells

A lookup that fails lists what it has searched. The list is made apart from the search, so the two
are compared: on every host, the answer is the first of the listed names that is found there. Only
the list of a configured simulator goes on, with the usual names, which are not tried then. Main
statement: `searched_told`.
-/

namespace KernelForge

namespace ToolConfig

variable {h : Host}

/-! ### What was tried -/

section Tried

variable {α : Type} {lookup : Act Host DeviceError α} {place : α → Path}
  {found : Files → Path → Option Path} {names : List Path} {error : DeviceError}

/-- A lookup that fails on `h` has tried `names`, in this order and nothing else: on every host, the
place that it answers is the first one that is found under them, and on `h` none is. -/
structure HasTried (lookup : Act Host DeviceError α) (place : α → Path)
    (found : Files → Path → Option Path) (h : Host) (names : List Path) : Prop where
  /-- The first name that is found decides, on every host. -/
  answer : ∀ g : Host, (lookup.runFrom g).1.toOption.map place = names.findSome? (found g.files)
  /-- No name is found. -/
  missed : ∀ name ∈ names, found h.files name = none

/-- Once a lookup that goes through `names` fails, it has tried all of them. -/
theorem hasTried_of_error (hanswer : ∀ g : Host,
    (lookup.runFrom g).1.toOption.map place = names.findSome? (found g.files))
    (hfailed : (lookup.runFrom h).1 = .error error) : HasTried lookup place found h names := by
  have hnone := hanswer h
  rw [hfailed] at hnone
  exact ⟨hanswer, List.findSome?_eq_none_iff.mp hnone.symm⟩

end Tried

/-- A lookup tells the names that it has tried. -/
theorem locate_told (c : ToolConfig) {tool : String} {override : Option Path}
    {candidates : List String} {error : DeviceError}
    (hfailed : ((c.locate tool override candidates).runFrom h).1 = .error error) :
    HasTried (c.locate tool override candidates) id c.resolveExecutable h
        (tried override candidates) ∧
      error = .toolMissing tool ((tried override candidates).map Path.text) := by
  refine ⟨hasTried_of_error (fun g ↦ ?_) hfailed, ?_⟩
  · rw [locate_answer, toOption_answered, Option.map_id]
    rfl
  · have htexts : (tried override candidates).map Path.text =
        override.elim candidates fun name ↦ [name.text] := by
      cases override with
      | some name => rfl
      | none => simp [tried, Function.comp_def, Path.text_ofString]
    rw [locate_answer, answered_eq_error_iff] at hfailed
    rw [htexts, hfailed.2]

/-- The places where an SDK may be: the configured root and the bundled ones. -/
def sdkPlaces (c : ToolConfig) : List Path := c.sdkRoot.toList ++ c.sdkSearch

/-- The root of the SDK is the first place where a directory is. -/
theorem resolveSdkRoot_answer (c : ToolConfig) (h : Host) : (c.resolveSdkRoot.runFrom h).1 =
    answered (.toolMissing "TPU SDK (set SOPHGO_TPU_ROOT)" (c.sdkPlaces.map Path.text))
      (c.sdkPlaces.find? h.files.isDirectory) := by
  rw [resolveSdkRoot, Host.ask, Act.runFrom_bind, Act.runFrom_reads, sdkPlaces]
  simp only [id]
  cases (c.sdkRoot.toList ++ c.sdkSearch).find? h.files.isDirectory <;> rfl

/-- A lookup of the SDK tells the places that it has tried. -/
theorem resolveSdkRoot_told (c : ToolConfig) {error : DeviceError}
    (hfailed : (c.resolveSdkRoot.runFrom h).1 = .error error) :
    HasTried c.resolveSdkRoot id (fun f ↦ Option.guard f.isDirectory) h c.sdkPlaces ∧
      error = .toolMissing "TPU SDK (set SOPHGO_TPU_ROOT)" (c.sdkPlaces.map Path.text) := by
  refine ⟨hasTried_of_error (fun g ↦ ?_) hfailed, ?_⟩
  · rw [resolveSdkRoot_answer, toOption_answered, Option.map_id, List.findSome?_guard]
    rfl
  · rw [resolveSdkRoot_answer, answered_eq_error_iff] at hfailed
    exact hfailed.2

/-- A lookup of the simulator has tried what any lookup tries, and tells the override and all the
usual names. -/
theorem locateSimulator_told (c : ToolConfig) {error : DeviceError}
    (hfailed : (c.locateSimulator.runFrom h).1 = .error error) :
    HasTried c.locateSimulator Simulator.path c.resolveExecutable h
        (tried c.simulator SimulatorKind.candidates) ∧
      error = .simulatorMissing (c.simulator.toList.map Path.text ++ SimulatorKind.candidates) := by
  refine ⟨hasTried_of_error (fun g ↦ ?_) hfailed, ?_⟩
  · rw [locateSimulator_answer, toOption_answered, Option.map_map]
    exact Option.map_id'
  · rw [locateSimulator_answer, answered_eq_error_iff] at hfailed
    exact hfailed.2

/-- Where a lookup fails, it tells what it has tried. A compiler is looked for under its override
alone, or without one under the usual names, and exactly these names are told; an SDK at the
configured root and at the bundled places, and exactly these are told. A simulator is looked for
like a compiler, and without an override exactly the names tried are told; with one, the override is
told with the usual names behind it, of which none was tried. -/
theorem searched_told (c : ToolConfig) (h : Host) :
    (∀ driver error, ((c.locateCompiler driver).runFrom h).1 = .error error → ∃ names,
      HasTried (c.locateCompiler driver) id c.resolveExecutable h names ∧
      error = .toolMissing driver.label (names.map Path.text) ∧
      (∀ name, c.override driver = some name → names = [name]) ∧
      (c.override driver = none → names = driver.candidates.map .ofString)) ∧
    (∀ error, (c.resolveSdkRoot.runFrom h).1 = .error error →
      HasTried c.resolveSdkRoot id (fun f ↦ Option.guard f.isDirectory) h
        (c.sdkRoot.toList ++ c.sdkSearch) ∧
      error = .toolMissing "TPU SDK (set SOPHGO_TPU_ROOT)"
        ((c.sdkRoot.toList ++ c.sdkSearch).map Path.text)) ∧
    (∀ error, (c.locateSimulator.runFrom h).1 = .error error → ∃ names,
      HasTried c.locateSimulator Simulator.path c.resolveExecutable h names ∧
      (c.simulator = none → names = SimulatorKind.candidates.map .ofString ∧
        error = .simulatorMissing (names.map Path.text)) ∧
      ∀ name, c.simulator = some name → names = [name] ∧
        error = .simulatorMissing (names.map Path.text ++ SimulatorKind.candidates)) := by
  refine ⟨fun driver error hfailed ↦ ?_, fun error hfailed ↦ c.resolveSdkRoot_told hfailed,
    fun error hfailed ↦ ?_⟩
  · obtain ⟨htried, herror⟩ := c.locate_told hfailed
    refine ⟨_, htried, herror, fun name hname ↦ ?_, fun hnone ↦ ?_⟩
    · rw [hname, tried]
    · rw [hnone, tried]
  · obtain ⟨htried, herror⟩ := c.locateSimulator_told hfailed
    refine ⟨_, htried, fun hnone ↦ ?_, fun name hname ↦ ?_⟩
    · rw [hnone] at herror ⊢
      refine ⟨rfl, herror.trans ?_⟩
      simp [tried, Function.comp_def, Path.text_ofString]
    · rw [hname] at herror ⊢
      exact ⟨rfl, herror⟩

/-! ### A simulator that is there -/

/-- A host with the simulator `/b/spike`. -/
def simulatorPlace : Host where
  files := {
    disk := {
      nodes := [([utf8 "b"], .directory 1), ([utf8 "b", utf8 "spike"], .file 2 [] true)]
      next := 3 }
    here := Disk.rootSerial }

/-- The configuration that chooses the simulator `/missing` and an SDK below it, knows a bundled SDK
in `/b`, and searches programs in `/b`. -/
def missingTools : ToolConfig where
  sdkRoot := some (.ofString "/missing/sdk")
  sdkSearch := [.ofString "/b/sdk"]
  simulator := some (.ofString "/missing")
  searchPath := some (utf8 "/b")

/-- A compiler, an SDK and a simulator that are missed. -/
theorem searched_told_missing :
    (∃ names, HasTried (missingTools.locateCompiler .riscvCxx) id missingTools.resolveExecutable
        simulatorPlace names ∧ names = Driver.riscvCxx.candidates.map .ofString) ∧
    HasTried missingTools.resolveSdkRoot id (fun f ↦ Option.guard f.isDirectory) simulatorPlace
      [.ofString "/missing/sdk", .ofString "/b/sdk"] ∧
    ∃ names, HasTried missingTools.locateSimulator Simulator.path missingTools.resolveExecutable
        simulatorPlace names ∧ names = [.ofString "/missing"] := by
  obtain ⟨hcompiler, hsdk, hsimulator⟩ := searched_told missingTools simulatorPlace
  obtain ⟨names, htried, -, -, hnames⟩ := hcompiler .riscvCxx
    (.toolMissing Driver.riscvCxx.label Driver.riscvCxx.candidates) (by cbv)
  obtain ⟨hplaces, -⟩ := hsdk
    (.toolMissing "TPU SDK (set SOPHGO_TPU_ROOT)" ["/missing/sdk", "/b/sdk"]) (by cbv)
  obtain ⟨names', htried', -, hnames'⟩ := hsimulator
    (.simulatorMissing ["/missing", "spike", "qemu-riscv64"]) (by cbv)
  exact ⟨⟨names, htried, hnames rfl⟩, hplaces, names', htried', (hnames' _ rfl).1⟩

/-- A name is told that is found: with the simulator `/missing` chosen, the names told are three,
and the second one is the name of a program in the search path. -/
theorem searched_told_installed :
    (missingTools.locateSimulator.runFrom simulatorPlace).1 =
      .error (.simulatorMissing ["/missing", "spike", "qemu-riscv64"]) ∧
    missingTools.resolveExecutable simulatorPlace.files (.ofString "spike") =
      some (.ofString "/b/spike") := by
  constructor <;> cbv

end ToolConfig

end KernelForge
