import KernelForge.Proofs.Disk.Ancestors
import KernelForge.Proofs.Tool.Searched
import Mathlib.Data.List.TakeWhile

/-!
# Which SDK is found

The configured root of the SDK is found if it is a directory. Else the bundled copy is found that is
nearest to the working directory of the snapshot, which is the deepest directory on the way to it
that has one. A copy that is installed further up does not displace what was found, as long as it is
not the configured root itself and no link leads a nearer directory to it. Main statement:
`sdk_nearest`.
-/

namespace KernelForge

namespace Text

/-- Nothing is left of a text if it is white space throughout. -/
theorem trim_eq_empty_iff {s : String} : trim s = "" ↔ ∀ c ∈ s.toList, isBlank c := by
  have hempty : trim s = "" ↔ trimBlank s.toList = [] := by
    rw [trim, ← String.toList_inj, String.toList_ofList, String.toList_empty]
  rw [hempty, trimBlank, dropBlankEnd, List.reverse_eq_nil_iff, List.dropWhile_eq_nil_iff]
  simp only [List.mem_reverse]
  constructor
  · intro h
    -- the first character that is left would be no white space
    rw [← List.dropWhile_eq_nil_iff]
    by_contra hrest
    have hfirst := List.head_dropWhile_not isBlank hrest
    rw [h _ (List.head_mem hrest)] at hfirst
    cases hfirst
  · exact fun h c hc ↦ h c ((List.dropWhile_suffix isBlank).subset hc)

end Text

namespace ToolConfig

variable {e : Environment} {f f' : Files} {h h' : Host} {place above q : Place} {p root : Path}

/-! ### Where an SDK may be -/

/-- The names under which a directory bundles an SDK. -/
def sdkNames : List Bytes := [utf8 "3rdparty", utf8 "sophgo_tpu"]

/-- The SDK that is bundled in the directory at a place. -/
def bundle (place : Place) : Path := (Path.ofNames place).joinText bundledSdk

theorem isName_of_mem_sdkNames {name : Bytes} (hname : name ∈ sdkNames) : Path.IsName name := by
  simp only [sdkNames, List.mem_cons, List.not_mem_nil, or_false] at hname
  rcases hname with rfl | rfl <;> constructor <;> decide

theorem isName_bundle (hnames : ∀ name ∈ q, Path.IsName name) :
    ∀ name ∈ q ++ sdkNames, Path.IsName name := fun name hname ↦
  (List.mem_append.mp hname).elim (hnames name) isName_of_mem_sdkNames

/-- The path of a bundled SDK goes through its names. -/
theorem bundle_eq (hnames : ∀ name ∈ q, Path.IsName name) :
    bundle q = .ofNames (q ++ sdkNames) := by
  have htext : Path.ofString bundledSdk = ⟨utf8 "3rdparty" ++ Path.slash :: utf8 "sophgo_tpu"⟩ := by
    decide
  have hbehind : Path.ofNames (q ++ sdkNames) = (Path.ofNames q).behind sdkNames := by
    rw [Path.ofNames_eq_behind (isName_bundle hnames), Path.ofNames_eq_behind hnames]
    exact List.foldl_append
  rw [hbehind, bundle, Path.joinText, htext, ← Path.join_join _ (by decide) (by decide) (by decide)]
  rfl

/-- The root that an environment configures: the variable is set to a text that is not blank, and
the white space around the text does not count. -/
def Configured (e : Environment) (root : Path) : Prop :=
  ∃ bytes s, e.bytes? "SOPHGO_TPU_ROOT" = some bytes ∧ Utf8.text? bytes = some s ∧
    (∃ c ∈ s.toList, ¬ Text.isBlank c) ∧ root = .ofString (Text.trim s)

theorem sdkRoot_eq_some_iff (e : Environment) (directory root : Path) :
    (ofEnvironment e directory).sdkRoot = some root ↔ Configured e root := by
  have hblank : ∀ s : String, Text.trim s ≠ "" ↔ ∃ c ∈ s.toList, ¬ Text.isBlank c := fun s ↦ by
    rw [ne_eq, Text.trim_eq_empty_iff]
    simp
  simp only [ofEnvironment, Environment.text?, Option.map_eq_some_iff, Option.filter_eq_some_iff,
    Option.bind_eq_some_iff, decide_eq_true_eq, Configured, ← hblank]
  constructor
  · rintro ⟨_, ⟨⟨s, ⟨bytes, hbytes, hs⟩, rfl⟩, hne⟩, rfl⟩
    exact ⟨bytes, s, hbytes, hs, hne, rfl⟩
  · rintro ⟨bytes, s, hbytes, hs, hne, rfl⟩
    exact ⟨_, ⟨⟨s, ⟨bytes, hbytes, hs⟩, rfl⟩, hne⟩, rfl⟩

/-- The bundled places of a snapshot go from its working directory up to the root. -/
theorem sdkSearch_ofEnvironment (hnames : ∀ name ∈ place, Path.IsName name) :
    (ofEnvironment e (.ofNames place)).sdkSearch = place.inits.reverse.map bundle := by
  rw [ofEnvironment, Path.ancestors_ofNames hnames, List.map_map]
  rfl

/-! ### Which one is found -/

/-- The SDK for an environment and a working directory. -/
inductive SdkRoot (e : Environment) (f : Files) (place : Place) : Path → Prop where
  /-- The configured root, if it is a directory. -/
  | configured {root : Path} (configured : Configured e root) (isDirectory : f.isDirectory root) :
      SdkRoot e f place root
  /-- Else the one that is bundled in the deepest directory, among the working directory and those
  above it. -/
  | bundled {q : Place} (missing : ∀ root, Configured e root → ¬ f.isDirectory root)
      (above : q <+: place) (isDirectory : f.isDirectory (bundle q))
      (deepest : ∀ q', q' <+: place → q.length < q'.length → ¬ f.isDirectory (bundle q')) :
      SdkRoot e f place (bundle q)

/-- The SDK is the first of the places searched where a directory is. -/
theorem find?_sdkPlaces_iff (hnames : ∀ name ∈ place, Path.IsName name) :
    (ofEnvironment e (.ofNames place)).sdkPlaces.find? f.isDirectory = some p ↔
      SdkRoot e f place p := by
  have hbundled : (place.inits.reverse.map bundle).find? f.isDirectory = some p ↔
      ∃ q, (q <+: place ∧ f.isDirectory (bundle q) ∧
          ∀ q', q' <+: place → q.length < q'.length → ¬ f.isDirectory (bundle q')) ∧
        bundle q = p := by
    rw [List.find?_map, Option.map_eq_some_iff]
    simp only [find?_inits_reverse, Function.comp_apply]
  have hconfigured := sdkRoot_eq_some_iff e (.ofNames place)
  rw [sdkPlaces, sdkSearch_ofEnvironment hnames, List.find?_append, Option.or_eq_some_iff, hbundled]
  constructor
  · rintro (hfound | ⟨hmissing, q, ⟨hq, hdir, hdeepest⟩, rfl⟩)
    · have hroot := List.mem_of_find?_eq_some hfound
      rw [Option.mem_toList, hconfigured] at hroot
      exact .configured hroot (List.find?_some hfound)
    · refine .bundled (fun root hroot ↦ ?_) hq hdir hdeepest
      rw [← hconfigured] at hroot
      exact List.find?_eq_none.mp hmissing root (by simp [hroot])
  · rintro (⟨hroot, hdir⟩ | ⟨hmissing, hq, hdir, hdeepest⟩)
    · left
      rw [← hconfigured] at hroot
      simp [hroot, hdir]
    · refine .inr ⟨List.find?_eq_none.mpr fun root hroot ↦ hmissing root ?_, _,
        ⟨hq, hdir, hdeepest⟩, rfl⟩
      rwa [Option.mem_toList, hconfigured] at hroot

/-- The SDK is found where there is one, and else nothing is. -/
theorem resolveSdkRoot_iff (hnames : ∀ name ∈ place, Path.IsName name) (h : Host) :
    (∀ p, ((ofEnvironment e (.ofNames place)).resolveSdkRoot.runFrom h).1 = .ok p ↔
      SdkRoot e h.files place p) ∧
    ∀ error, ((ofEnvironment e (.ofNames place)).resolveSdkRoot.runFrom h).1 = .error error ↔
      (∀ p, ¬ SdkRoot e h.files place p) ∧ error = .toolMissing "TPU SDK (set SOPHGO_TPU_ROOT)"
        ((ofEnvironment e (.ofNames place)).sdkPlaces.map Path.text) := by
  have hnone : (ofEnvironment e (.ofNames place)).sdkPlaces.find? h.files.isDirectory = none ↔
      ∀ p, ¬ SdkRoot e h.files place p := by
    simp only [Option.eq_none_iff_forall_ne_some, ne_eq, find?_sdkPlaces_iff hnames]
  simp only [resolveSdkRoot_answer, answered_eq_ok_iff, answered_eq_error_iff,
    find?_sdkPlaces_iff hnames, hnone, implies_true, and_self]

/-- While a bundled copy is there, an SDK is found. -/
theorem exists_sdkRoot (e : Environment) (hnames : ∀ name ∈ place, Path.IsName name)
    (hq : q <+: place) (hdir : f.isDirectory (bundle q)) : ∃ p, SdkRoot e f place p := by
  have hmem : bundle q ∈ (ofEnvironment e (.ofNames place)).sdkPlaces := by
    rw [sdkPlaces, sdkSearch_ofEnvironment hnames]
    exact List.mem_append_right _ (List.mem_map_of_mem (by simpa using hq))
  have hfound : ((ofEnvironment e (.ofNames place)).sdkPlaces.find? f.isDirectory).isSome :=
    List.find?_isSome.mpr ⟨_, hmem, hdir⟩
  obtain ⟨p, hp⟩ := Option.isSome_iff_exists.mp hfound
  exact ⟨p, (find?_sdkPlaces_iff hnames).mp hp⟩

/-! ### Installing a copy -/

/-- `f'` is `f` after something was installed in the directory at `above`: directories and links
stay, and for the directories on the way to `place` that are below it, nothing changes where their
own copies would be. -/
structure Installs (f f' : Files) (place above : Place) : Prop where
  /-- The tree can arise. -/
  wellFormed : f'.WellFormed
  /-- The process stays where it is. -/
  here : f'.here = f.here
  /-- Directories and links stay. -/
  kept : f.disk.Extends f'.disk
  /-- Where copies of the directories below would be, nothing changes. -/
  apart : ∀ q, q <+: place → above.length < q.length → ∀ t, t <+: sdkNames →
    f'.disk.node? (q ++ t) = f.disk.node? (q ++ t)

section Install

variable (hf : f.WellFormed) (hplace : f.disk.placeOf? f.here = some place)
  (hinstall : Installs f f' place above)
include hf hplace hinstall

/-- What is a directory stays one. -/
theorem Installs.isDirectory (hp : f.isDirectory p) : f'.isDirectory p :=
  Files.isDirectory_extends hf hinstall.wellFormed hinstall.here hinstall.kept hplace hp

/-- Where no link stands, a directory below has a copy only if it had one. -/
theorem Installs.isDirectory_bundle (hnames : ∀ name ∈ place, Path.IsName name)
    (hq : q <+: place) (hbelow : above.length < q.length)
    (hlink : f.disk.Unlinked q sdkNames) (hdir : f'.isDirectory (bundle q)) :
    f.isDirectory (bundle q) := by
  have hqnames : ∀ name ∈ q, Path.IsName name := fun name hname ↦ hnames name (hq.subset hname)
  have hbase : f.disk.IsDirectory q :=
    .above hf.disk ⟨_, hf.disk.placeOf?_eq_some_iff.mp hplace⟩ hq
  have hbase' : f'.disk.IsDirectory q := by
    obtain ⟨s, hs⟩ := hbase
    exact ⟨s, hinstall.kept _ _ hs rfl⟩
  have hlink' : f'.disk.Unlinked q sdkNames := fun t ht ↦ by
    rw [hinstall.apart q hq hbelow t ht]
    exact hlink t ht
  rw [bundle_eq hqnames] at hdir ⊢
  rw [Files.isDirectory_ofNames_iff hinstall.wellFormed hbase' (isName_bundle hqnames) hlink',
    Disk.IsDirectory, hinstall.apart q hq hbelow _ (List.prefix_refl _)] at hdir
  exact (Files.isDirectory_ofNames_iff hf hbase (isName_bundle hqnames) hlink).mpr hdir

/-- What is found stays found, if the configured root is there, or if a copy is and no link leads a
directory that is nearer than the copy to what was installed. -/
theorem SdkRoot.installs (hnames : ∀ name ∈ place, Path.IsName name) (hp : SdkRoot e f place p)
    (hkeeps : (∃ root, Configured e root ∧ f.isDirectory root) ∨
      (∀ root, Configured e root → f'.isDirectory root → f.isDirectory root) ∧
      ∃ q, q <+: place ∧ above.length < q.length ∧ f.isDirectory (bundle q) ∧
        ∀ q', q' <+: place → q.length < q'.length → f.disk.Unlinked q' sdkNames) :
    SdkRoot e f' place p := by
  cases hp with
  | configured hroot hdir => exact .configured hroot (hinstall.isDirectory hf hplace hdir)
  | @bundled r hmissing hr hdir hdeepest =>
    obtain ⟨root, hroot, hdirRoot⟩ | ⟨hroots, q, hq, hbelow, hdirCopy, hlink⟩ := hkeeps
    · exact absurd hdirRoot (hmissing root hroot)
    have hnearest : q.length ≤ r.length :=
      Nat.not_lt.mp fun hlt ↦ hdeepest q hq hlt hdirCopy
    refine .bundled (fun root hroot hdir' ↦ hmissing root hroot (hroots root hroot hdir')) hr
      (hinstall.isDirectory hf hplace hdir) fun q' hq' hlt hdir' ↦ ?_
    have hfar : q.length < q'.length := hnearest.trans_lt hlt
    exact hdeepest q' hq' hlt (hinstall.isDirectory_bundle hf hplace hnames hq' (hbelow.trans hfar)
      (hlink q' hq' hfar) hdir')

end Install

section Direct

variable (hf : f.WellFormed) (hplace : f.disk.placeOf? f.here = some place)
  (habove : above <+: place) (hfree : f.disk.node? (above ++ sdkNames) = none)
include hf hplace habove hfree

/-- A copy is installed by setting it, with all that it holds, into a directory that had none. -/
theorem installs_of_new (hf' : f'.WellFormed) (hhere : f'.here = f.here)
    (hstays : ∀ q n, f.disk.node? q = some n → f'.disk.node? q = some n)
    (hnew : ∀ q, f.disk.node? q = none → f'.disk.node? q ≠ none →
      q <+: above ++ sdkNames ∨ above ++ sdkNames <+: q) : Installs f f' place above where
  wellFormed := hf'
  here := hhere
  kept q n hn _ := hstays q n hn
  apart q hq hbelow t ht := by
    cases hn : f.disk.node? (q ++ t) with
    | some n => exact hstays _ n hn
    | none =>
      by_contra hsome
      obtain ⟨s, hs⟩ : f.disk.IsDirectory q :=
        .above hf.disk ⟨_, hf.disk.placeOf?_eq_some_iff.mp hplace⟩ hq
      obtain ⟨x, rfl⟩ := List.prefix_of_prefix_length_le habove hq hbelow.le
      obtain ⟨first, x, rfl⟩ := List.exists_cons_of_ne_nil (l := x) (by rintro rfl; simp at hbelow)
      obtain ⟨head, t, rfl⟩ := List.exists_cons_of_ne_nil (l := t) (by rintro rfl; simp [hs] at hn)
      -- the first name of a copy is not the second one, so the ways of two copies do not meet
      have hne : utf8 "3rdparty" ≠ utf8 "sophgo_tpu" := by decide
      obtain ⟨rfl, -⟩ := List.cons_prefix_cons.mp ht
      rcases hnew _ hn hsome with hway | hin
      · rw [List.append_assoc, List.prefix_append_right_inj] at hway
        cases x <;> simp [sdkNames, List.cons_prefix_cons, hne] at hway
      · rw [List.append_assoc, List.prefix_append_right_inj] at hin
        cases x with
        | nil => simp [sdkNames, List.cons_prefix_cons, hne.symm] at hin
        | cons second x =>
          simp only [sdkNames, List.cons_append, List.cons_prefix_cons] at hin
          obtain ⟨rfl, rfl, -⟩ := hin
          have hinside : above ++ sdkNames <+: above ++ utf8 "3rdparty" :: utf8 "sophgo_tpu" :: x :=
            ⟨x, by simp [sdkNames]⟩
          rw [hf.disk.node?_beneath hfree hinside] at hs
          cases hs

/-- A directory may be made for the copy, with the one above it. -/
theorem installs_createDirectories (hnames : ∀ name ∈ place, Path.IsName name)
    (hway : ∀ q, q <+: above ++ sdkNames → f.disk.node? q = none ∨ f.disk.IsDirectory q) :
    Installs f ((Files.createDirectories (bundle above)).runFrom f).2 place above := by
  have haboveNames : ∀ name ∈ above, Path.IsName name := fun n hn ↦ hnames n (habove.subset hn)
  have hcopy := isName_bundle haboveNames
  have hsegments : (bundle above).segments = above ++ sdkNames := by
    rw [bundle_eq haboveNames, Path.segments_ofNames hcopy]
  have hleads : f.Leads (bundle above) (above ++ sdkNames) :=
    .named (Path.isAbsolute_join_of_isAbsolute rfl _) hsegments
      (fun hdot ↦ (hcopy _ hdot).ne_dot rfl) (fun hdotDot ↦ (hcopy _ hdotDot).ne_dotDot rfl) hway
  have hgrows := Files.createAll_grows hf (bundle above).ancestors
  refine installs_of_new hf hplace habove hfree hgrows.wellFormed hgrows.here hgrows.stays ?_
  intro q hnone hsome
  rcases hleads.createDirectories hf q with hsame | ⟨hq, -⟩
  · exact absurd (hsame.trans hnone) hsome
  · exact .inl hq

end Direct

/-! ### The answer -/

/-- What the lookup of the SDK answers on a host, for a snapshot of `e` in `directory`. -/
def sdkAnswer (e : Environment) (directory : Path) (h : Host) : Except DeviceError Path :=
  ((ofEnvironment e directory).resolveSdkRoot.runFrom h).1

theorem directory_eq (hplace : h.files.disk.placeOf? h.files.here = some place) :
    h.directory = .ofNames place := by
  simp [Host.directory, Files.current, hplace]

/-- For every environment and every working directory at the time of the snapshot, and whatever the
files are by then: the SDK is found at the configured root if that is a directory, else it is the
one bundled in the deepest directory on the way that has one, and the lookup fails exactly where
there is none. An installation further up changes the answer neither while the configured root is
there, nor while a nearer copy is, if it does not make a directory of the configured root and no
directory that is nearer than that copy has a link where its own copy would be. -/
theorem sdk_nearest (e : Environment) (h₀ : Host) (place : Place)
    (hplace₀ : h₀.files.disk.placeOf? h₀.files.here = some place)
    (hnames : ∀ name ∈ place, Path.IsName name) :
    (∀ h, (∀ p, sdkAnswer e h₀.directory h = .ok p ↔ SdkRoot e h.files place p) ∧
      ∀ error, sdkAnswer e h₀.directory h = .error error ↔ (∀ p, ¬ SdkRoot e h.files place p) ∧
        error = .toolMissing "TPU SDK (set SOPHGO_TPU_ROOT)"
          ((ofEnvironment e h₀.directory).sdkPlaces.map Path.text)) ∧
    ∀ h h' above, h.files.WellFormed → h.files.disk.placeOf? h.files.here = some place →
      Installs h.files h'.files place above →
      ((∃ root, Configured e root ∧ h.files.isDirectory root) ∨
        (∀ root, Configured e root → h'.files.isDirectory root → h.files.isDirectory root) ∧
        ∃ q, q <+: place ∧ above.length < q.length ∧ h.files.isDirectory (bundle q) ∧
          ∀ q', q' <+: place → q.length < q'.length → h.files.disk.Unlinked q' sdkNames) →
      h'.directory = h.directory ∧
        sdkAnswer e h₀.directory h' = sdkAnswer e h₀.directory h := by
  rw [directory_eq hplace₀]
  refine ⟨fun h ↦ resolveSdkRoot_iff hnames h, fun h h' above hf hplace hinstall hkeeps ↦ ?_⟩
  constructor
  · have hplace' : h'.files.disk.placeOf? h'.files.here = some place := by
      rw [hinstall.wellFormed.disk.placeOf?_eq_some_iff, hinstall.here]
      exact hinstall.kept _ _ (hf.disk.placeOf?_eq_some_iff.mp hplace) rfl
    rw [directory_eq hplace, directory_eq hplace']
  · obtain ⟨p, hp⟩ : ∃ p, SdkRoot e h.files place p := by
      rcases hkeeps with ⟨root, hroot, hdir⟩ | ⟨-, q, hq, -, hdir, -⟩
      · exact ⟨root, .configured hroot hdir⟩
      · exact exists_sdkRoot e hnames hq hdir
    have hanswer : sdkAnswer e (.ofNames place) h = .ok p :=
      ((resolveSdkRoot_iff hnames h).1 p).mpr hp
    have hanswer' : sdkAnswer e (.ofNames place) h' = .ok p :=
      ((resolveSdkRoot_iff hnames h').1 p).mpr (hp.installs hf hplace hinstall hnames hkeeps)
    rw [hanswer, hanswer']

/-! ### Copies in two directories -/

/-- A host in the directory `/a/b`, with a copy for `/a` and whatever else there is. -/
def sdkHost (others : List (Place × Node)) : Host where
  files := {
    disk := {
      nodes := [([utf8 "a"], .directory 1), ([utf8 "a", utf8 "3rdparty"], .directory 2),
        ([utf8 "a", utf8 "3rdparty", utf8 "sophgo_tpu"], .directory 3),
        ([utf8 "a", utf8 "b"], .directory 4)] ++ others
      next := 6 }
    here := 4 }

/-- The host with a directory made for a copy further up. -/
def withCopy (h : Host) (above : Place) : Host :=
  { h with files := ((Files.createDirectories (bundle above)).runFrom h.files).2 }

/-- The copy for `/a` is found from `/a/b`, and still is once there is one for the root. -/
theorem sdk_nearest_upgraded :
    sdkAnswer {} (sdkHost []).directory (sdkHost []) = .ok (.ofString "/a/3rdparty/sophgo_tpu") ∧
    sdkAnswer {} (sdkHost []).directory (withCopy (sdkHost []) []) =
      .ok (.ofString "/a/3rdparty/sophgo_tpu") := by
  have hplace : (sdkHost []).files.disk.placeOf? (sdkHost []).files.here =
      some [utf8 "a", utf8 "b"] := by decide
  have hnames : ∀ name ∈ [utf8 "a", utf8 "b"], Path.IsName name := by
    simp only [List.mem_cons, List.not_mem_nil, or_false]
    rintro name (rfl | rfl) <;> constructor <;> decide
  have hf : (sdkHost []).files.WellFormed := by decide
  have hinstall : Installs (sdkHost []).files (withCopy (sdkHost []) []).files
      [utf8 "a", utf8 "b"] [] := by
    have hway : ∀ q ∈ sdkNames.inits, (sdkHost []).files.disk.node? q = none ∨
        (sdkHost []).files.disk.IsDirectory q := by decide
    exact installs_createDirectories hf hplace List.nil_prefix (by decide) hnames
      fun q hq ↦ hway q ((List.mem_inits _ _).mpr hq)
  have hunset : ∀ root, ¬ Configured {} root := by
    rintro root ⟨bytes, -, hbytes, -⟩
    cases hbytes
  have hcopy : (sdkHost []).files.isDirectory (bundle [utf8 "a"]) := by cbv
  have hunlinked : ∀ q, q <+: [utf8 "a", utf8 "b"] → [utf8 "a"].length < q.length →
      (sdkHost []).files.disk.Unlinked q sdkNames := by
    intro q hq hlt
    obtain rfl : q = [utf8 "a", utf8 "b"] := hq.eq_of_length (hq.length_le.antisymm hlt)
    decide
  obtain ⟨-, hkept⟩ := sdk_nearest {} (sdkHost []) _ hplace hnames
  obtain ⟨-, hsame⟩ := hkept (sdkHost []) (withCopy (sdkHost []) []) [] hf hplace hinstall
    (.inr ⟨fun root hroot ↦ absurd hroot (hunset root), _, by decide, by decide, hcopy, hunlinked⟩)
  have hanswer : sdkAnswer {} (sdkHost []).directory (sdkHost []) =
      .ok (.ofString "/a/3rdparty/sophgo_tpu") := by cbv
  exact ⟨hanswer, hsame.trans hanswer⟩

/-- What is answered before and after a copy is made for the root. -/
def sdkAnswers (e : Environment) (others : List (Place × Node)) :
    Except DeviceError Path × Except DeviceError Path :=
  (sdkAnswer e (sdkHost others).directory (sdkHost others),
    sdkAnswer e (sdkHost others).directory (withCopy (sdkHost others) []))

/-- With a nearer copy there, a copy further up changes the answer where it is the configured root,
where a link leads a still nearer directory to it, and where a link leads the directory further up
to a still nearer one. -/
theorem sdk_nearest_displaced :
    sdkAnswers ⟨[("SOPHGO_TPU_ROOT", utf8 "/3rdparty/sophgo_tpu")]⟩ [] =
      (.ok (.ofString "/a/3rdparty/sophgo_tpu"), .ok (.ofString "/3rdparty/sophgo_tpu")) ∧
    sdkAnswers {} [([utf8 "a", utf8 "b", utf8 "3rdparty"], .link (.ofString "/3rdparty"))] =
      (.ok (.ofString "/a/3rdparty/sophgo_tpu"), .ok (.ofString "/a/b/3rdparty/sophgo_tpu")) ∧
    sdkAnswers {} [([utf8 "a", utf8 "b", utf8 "3rdparty"], .directory 5),
        ([utf8 "3rdparty"], .link (.ofString "/a/b/3rdparty"))] =
      (.ok (.ofString "/a/3rdparty/sophgo_tpu"), .ok (.ofString "/a/b/3rdparty/sophgo_tpu")) := by
  refine ⟨?_, ?_, ?_⟩ <;> cbv

end ToolConfig

end KernelForge
