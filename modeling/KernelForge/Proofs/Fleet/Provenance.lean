import KernelForge.Proofs.Fleet.Running
import KernelForge.Proofs.Kernel.Additions
import KernelForge.Proofs.Kernel.Settling
import KernelForge.Proofs.Target.Executing

/-!
# Where artifacts come from

Kernels share the directory of their stores, which is empty at first and which others leave alone.
After any run, what stands under the name of an artifact was left by a compilation that succeeded
and was given the prepared source whose key is in the name, and that source lies beside it. What a
compilation that failed has left is never there. Main statement: `artifacts_traced`.
-/

namespace KernelForge

open Files

/-- The artifact `n` of `k` can be traced: a compilation that succeeded was given the prepared
source of `k` and left `n`, and this source lies beside `n`. -/
structure Kernel.Traced (k : Kernel) (directory : Place) (h : Host) (n : Node) : Prop where
  /-- The artifact is a regular file. -/
  isFile : n.isFile
  /-- A compilation left it. -/
  compiled : Compiled h.ledger k.preparedSource n
  /-- The source lies beside it. -/
  beside : ∃ serial, h.files.disk.node? (directory ++ [k.sourceName]) =
    some (.file serial (utf8 k.preparedSource) false)

/-- From `h` to `h'`, the directory of the stores is left alone, and no calls are booked. -/
structure LeavesAlone {ι : Type} (kernels : ι → Kernel) (directory : Place) (h h' : Host) :
    Prop where
  /-- The tree can arise. -/
  wellFormed : h.files.WellFormed → h'.files.WellFormed
  /-- What stands in the directory stays. -/
  stays : ∀ q, directory <+: q → h'.files.disk.node? q = h.files.disk.node? q
  /-- The stores lead to the directory as before. -/
  leads : ∀ i, h.files.Leads (kernels i).store directory →
    h'.files.Leads (kernels i).store directory
  /-- The ledger is the same. -/
  ledger : h'.ledger = h.ledger

/-- Kernels whose stores are one directory. Their toolchains are confined and booked, and executing
an artifact leaves the directory alone. Their symbols have no slash, and two of their keys differ
unless they are digests of the same bytes. -/
structure Housed {ι : Type} (kernels : ι → Kernel) (directory : Place) : Prop where
  /-- The toolchains keep a ledger, and write at the output and at the header alone. -/
  booked : ∀ i, ∃ t : Toolchain, t.Confined ∧ (kernels i).toolchain = t.booked
  /-- Executing an artifact leaves the directory alone. -/
  execute : ∀ i record groups (w : World), LeavesAlone kernels directory w.host
    (((kernels i).adapter.execute (kernels i).toolchain record groups).runFrom w).2.host
  /-- The symbols have no slash. -/
  plain : ∀ i, '/' ∉ (kernels i).symbol.toList
  /-- No two keys collide. -/
  keys : ∀ i j, (kernels i).key = (kernels j).key →
    StoreKey.framed (kernels i).symbol (kernels i).preparedSource =
      StoreKey.framed (kernels j).symbol (kernels j).preparedSource

/-- What holds of the directory at any time: every store leads there, no links are in it, and every
artifact can be traced. -/
structure Kept {ι : Type} (kernels : ι → Kernel) (directory : Place) (h : Host) : Prop where
  /-- The tree can arise. -/
  wellFormed : h.files.WellFormed
  /-- Every store leads to the directory. -/
  leads : ∀ i, h.files.Leads (kernels i).store directory
  /-- No links are in it. -/
  noLink : ∀ name p, h.files.disk.node? (directory ++ [name]) ≠ some (.link p)
  /-- Every artifact can be traced. -/
  traced : ∀ i n, h.files.disk.node? (directory ++ [(kernels i).artifactName]) = some n →
    (kernels i).Traced directory h n

section Kept

variable {ι : Type} {kernels : ι → Kernel} {directory : Place} {h h' h'' : Host}

namespace LeavesAlone

theorem of_eq (hfiles : h'.files = h.files) (hledger : h'.ledger = h.ledger) :
    LeavesAlone kernels directory h h' where
  wellFormed hf := hfiles ▸ hf
  stays _ _ := by rw [hfiles]
  leads _ hl := hfiles ▸ hl
  ledger := hledger

theorem refl (h : Host) (events : List Event) :
    LeavesAlone kernels directory h { h with events } := .of_eq rfl rfl

theorem trans (h₁ : LeavesAlone kernels directory h h')
    (h₂ : LeavesAlone kernels directory h' h'') :
    LeavesAlone kernels directory h h'' where
  wellFormed hf := h₂.wellFormed (h₁.wellFormed hf)
  stays q hq := (h₂.stays q hq).trans (h₁.stays q hq)
  leads i hl := h₂.leads i (h₁.leads i hl)
  ledger := h₂.ledger.trans h₁.ledger

end LeavesAlone

theorem Housed.abides (hs : Housed kernels directory) (i : ι) :
    (kernels i).Abides (LeavesAlone kernels directory) where
  refl h := .refl h h.events
  trans := .trans
  tell h events := .refl h events
  execute := hs.execute i

/-- Two kernels with one symbol and one key have one prepared source. -/
theorem Housed.preparedSource_eq (hs : Housed kernels directory) {i j : ι}
    (hsymbol : (kernels i).symbol = (kernels j).symbol) (hkey : (kernels i).key = (kernels j).key) :
    (kernels i).preparedSource = (kernels j).preparedSource := by
  have hframed := hs.keys i j hkey
  rw [StoreKey.framed, StoreKey.framed, hsymbol] at hframed
  exact utf8_inj.mp (List.cons.inj (List.append_cancel_left hframed)).2

theorem Compiled.append {calls : List ToolCall} {source : String} {n : Node}
    (h : Compiled calls source n) (more : List ToolCall) : Compiled (more ++ calls) source n := by
  obtain ⟨call, hmem, hcall⟩ := h
  exact ⟨call, List.mem_append_right more hmem, hcall⟩

/-- What holds of the directory goes on to hold while it is left alone. -/
theorem Kept.leavesAlone (hk : Kept kernels directory h) (ha : LeavesAlone kernels directory h h') :
    Kept kernels directory h' where
  wellFormed := ha.wellFormed hk.wellFormed
  leads i := ha.leads i (hk.leads i)
  noLink name p := by
    rw [ha.stays _ (List.prefix_append _ _)]
    exact hk.noLink name p
  traced i n hn := by
    rw [ha.stays _ (List.prefix_append _ _)] at hn
    obtain ⟨hfile, hcompiled, serial, hbeside⟩ := hk.traced i n hn
    refine ⟨hfile, ha.ledger ▸ hcompiled, serial, ?_⟩
    rw [ha.stays _ (List.prefix_append _ _), hbeside]

/-! ### What a preparation adds to the names of a kernel -/

section Added

variable (hs : Housed kernels directory) {i j : ι} {f : Files} {calls : List ToolCall}

include hs

/-- Names of two kernels tell their symbols, their keys and their ends apart. -/
private theorem name_inj {t t' : Bytes} (ht : ArtifactPaths.IsEnd t) (ht' : ArtifactPaths.IsEnd t')
    (h : directory ++ [Path.lastPiece (kernels i).stem.bytes ++ t] =
      directory ++ [Path.lastPiece (kernels j).stem.bytes ++ t']) :
    t = t' ∧ (kernels i).preparedSource = (kernels j).preparedSource ∧
      (kernels i).sourceName = (kernels j).sourceName := by
  have hname := List.singleton_inj.mp (List.append_cancel_left h)
  obtain ⟨rfl, hsymbol, hkey⟩ :=
    ArtifactPaths.lastPiece_inj (hs.plain i) (hs.plain j) ht ht' hname
  refine ⟨rfl, hs.preparedSource_eq hsymbol hkey, ?_⟩
  rw [Kernel.sourceName, Kernel.sourceName, List.append_cancel_right hname]

/-- What is added under the name of a source is that source. -/
private theorem source_of_added
    (h : (kernels j).Added directory f calls (directory ++ [(kernels i).sourceName])) :
    ∃ serial, f.disk.node? (directory ++ [(kernels i).sourceName]) =
      some (.file serial (utf8 (kernels i).preparedSource) false) := by
  cases h with
  | source own complete =>
    obtain ⟨-, hsource, -⟩ := name_inj hs ArtifactPaths.isEnd_c ArtifactPaths.isEnd_c own
    exact ⟨_, hsource ▸ complete⟩
  | header own =>
    obtain ⟨hends, -⟩ := name_inj hs ArtifactPaths.isEnd_c ArtifactPaths.isEnd_h own
    exact absurd hends (by decide)
  | artifact own =>
    obtain ⟨hends, -⟩ := name_inj hs ArtifactPaths.isEnd_c (ArtifactPaths.isEnd_ending _) own
    exact absurd hends.symm (ArtifactPaths.ending_ne_c _)

/-- What is added under the name of an artifact can be traced. -/
private theorem traced_of_added {h : Host} {n : Node}
    (hn : h.files.disk.node? (directory ++ [(kernels i).artifactName]) = some n)
    (hadded : (kernels j).Added directory h.files h.ledger
      (directory ++ [(kernels i).artifactName])) :
    (kernels i).Traced directory h n := by
  cases hadded with
  | source own =>
    obtain ⟨hends, -⟩ := name_inj hs (ArtifactPaths.isEnd_ending _) ArtifactPaths.isEnd_c own
    exact absurd hends (ArtifactPaths.ending_ne_c _)
  | header own =>
    obtain ⟨hends, -⟩ := name_inj hs (ArtifactPaths.isEnd_ending _) ArtifactPaths.isEnd_h own
    exact absurd hends (ArtifactPaths.ending_ne_h _)
  | artifact own node isFile compiled beside =>
    obtain ⟨-, hsource, hname⟩ :=
      name_inj hs (ArtifactPaths.isEnd_ending _) (ArtifactPaths.isEnd_ending _) own
    rw [hn, Option.some.injEq] at node
    subst node
    exact ⟨isFile, hsource ▸ compiled, _, hsource ▸ hname ▸ beside⟩

end Added

section Prepare

variable (hs : Housed kernels directory) (hk : Kept kernels directory h) (j : ι) (l : Lifecycle)

include hs hk

/-- What a preparation adds in the directory. -/
private theorem prepare_inside (name : Bytes) :
    ((kernels j).prepare.runFrom (l, h)).2.2.files.disk.node? (directory ++ [name]) =
        h.files.disk.node? (directory ++ [name]) ∨
      (kernels j).Added directory ((kernels j).prepare.runFrom (l, h)).2.2.files
        ((kernels j).prepare.runFrom (l, h)).2.2.ledger (directory ++ [name]) := by
  obtain ⟨t, ht, hbooked⟩ := hs.booked j
  rcases (kernels j).prepare_added ht hbooked (hs.plain j) hk.wellFormed (hk.leads j) hk.noLink
    (directory ++ [name]) with hsame | ⟨hway, -⟩ | hadded
  · exact Or.inl hsame
  · exact absurd hway (directory.not_below_self name)
  · exact Or.inr hadded

/-- A preparation keeps directories and links. -/
private theorem prepare_extends :
    h.files.disk.Extends ((kernels j).prepare.runFrom (l, h)).2.2.files.disk := by
  obtain ⟨t, ht, hbooked⟩ := hs.booked j
  have hevolves := Kernel.prepare_evolves (hbooked ▸ ht.booked) l hk.wellFormed
  intro q n hn hway
  cases n with
  | directory s => exact hevolves.keeps.directory q s hn
  | link p =>
    rcases (kernels j).prepare_added (l := l) ht hbooked (hs.plain j) hk.wellFormed (hk.leads j)
      hk.noLink q with hsame | ⟨-, hfree, -⟩ | hadded
    · rw [hsame, hn]
    · rw [hfree] at hn
      cases hn
    · obtain ⟨name, rfl⟩ := hadded.inside
      exact absurd hn (hk.noLink name p)
  | _ => cases hway

/-- What holds of the directory goes on to hold when a kernel is prepared. -/
theorem Kept.prepare : Kept kernels directory ((kernels j).prepare.runFrom (l, h)).2.2 := by
  obtain ⟨t, ht, hbooked⟩ := hs.booked j
  have hevolves := Kernel.prepare_evolves (hbooked ▸ ht.booked) l hk.wellFormed
  have hextends := prepare_extends hs hk j l
  have hinside := prepare_inside hs hk j l
  obtain ⟨calls, ⟨hcalls, -⟩, -⟩ := Kernel.prepare_called hbooked l h
  have hway : ∀ q, q <+: directory → h.files.disk.node? q = none →
      ((kernels j).prepare.runFrom (l, h)).2.2.files.disk.node? q = none ∨
        ((kernels j).prepare.runFrom (l, h)).2.2.files.disk.IsDirectory q := by
    intro q hq hfree
    rcases (kernels j).prepare_added (l := l) ht hbooked (hs.plain j) hk.wellFormed (hk.leads j)
      hk.noLink q with hsame | ⟨-, -, hdir⟩ | hadded
    · exact Or.inl (hsame.trans hfree)
    · exact Or.inr hdir
    · obtain ⟨name, rfl⟩ := hadded.inside
      exact absurd hq (directory.not_below_self name)
  generalize ((kernels j).prepare.runFrom (l, h)).2.2 = h' at *
  refine ⟨hevolves.wellFormed, fun i ↦ ?_, fun name p hp ↦ ?_, fun i n hn ↦ ?_⟩
  · exact (hk.leads i).extends hk.wellFormed hevolves.wellFormed hevolves.here hextends hway
  · rcases hinside name with hsame | hadded
    · exact hk.noLink name p (hsame.symm.trans hp)
    · obtain ⟨n, hn, hfile⟩ := hadded.isFile
      rw [hp, Option.some.injEq] at hn
      subst hn
      cases hfile
  · rcases hinside (kernels i).artifactName with hsame | hadded
    · -- an artifact that was there before still has its source beside it
      obtain ⟨hfile, hcompiled, serial, hbeside⟩ := hk.traced i n (hsame.symm.trans hn)
      refine ⟨hfile, hcalls ▸ hcompiled.append calls, ?_⟩
      rcases hinside (kernels i).sourceName with hsame | hadded
      · exact ⟨serial, hsame.trans hbeside⟩
      · exact source_of_added hs hadded
    · exact traced_of_added hs hn hadded

end Prepare

end Kept

namespace Fleet

variable {ι : Type} [DecidableEq ι] {kernels : ι → Kernel} {directory : Place} {F : Fleet ι}
  {m : Move ι} {moves : List (Move ι)}

/-- What happens elsewhere leaves the directory alone. -/
def Quiet (kernels : ι → Kernel) (directory : Place) (F : Fleet ι) : Move ι → Prop
  | .operate .. => True
  | .elsewhere world => LeavesAlone kernels directory F.world.host world.host

/-- What holds of the directory goes on to hold with every move. -/
theorem step_kept (hs : Housed kernels directory) (hF : Kept kernels directory F.world.host)
    (hm : F.Quiet kernels directory m) : Kept kernels directory (F.step kernels m).world.host := by
  cases m with
  | elsewhere world => exact hF.leavesAlone hm
  | operate i op =>
    rcases step_operate (hs.abides i) F op with
      ⟨-, -, halone⟩ | ⟨P, events, -, -, -, hhost, -, halone⟩
    · exact hF.leavesAlone halone
    · have hbefore : Kept kernels directory P.host := by
        rw [hhost]
        exact hF.leavesAlone (.refl _ events)
      exact (hbefore.prepare hs P.who P.life).leavesAlone halone

/-- After any run of kernels whose stores are one directory, which was empty at first, what is found
at the path of an artifact stands in the directory, and what stands there under the name of an
artifact can be traced. -/
theorem artifacts_traced (hs : Housed kernels directory) (hf : F.world.host.files.WellFormed)
    (hleads : ∀ i, F.world.host.files.Leads (kernels i).store directory)
    (hempty : ∀ name, F.world.host.files.disk.node? (directory ++ [name]) = none)
    (hmoves : F.Along kernels (Quiet kernels directory) moves) (i : ι) (n : Node) :
    ((F.run kernels moves).world.host.files.node (kernels i).paths.artifact = .ok n →
        (F.run kernels moves).world.host.files.disk.node?
          (directory ++ [(kernels i).artifactName]) = some n) ∧
      ((F.run kernels moves).world.host.files.disk.node?
          (directory ++ [(kernels i).artifactName]) = some n →
        (kernels i).Traced directory (F.run kernels moves).world.host n) := by
  have hF : Kept kernels directory F.world.host := by
    refine ⟨hf, hleads, fun name p hp ↦ ?_, fun i n hn ↦ ?_⟩
    · rw [hempty] at hp
      cases hp
    · rw [hempty] at hn
      cases hn
  have hkept : Kept kernels directory (F.run kernels moves).world.host :=
    hmoves.run (P := fun F ↦ Kept kernels directory F.world.host)
      (fun _ _ hF hm ↦ step_kept hs hF hm) hF
  refine ⟨fun hn ↦ ?_, hkept.traced i n⟩
  rw [Kernel.artifact_eq_join (hs.plain i)] at hn
  exact (hkept.leads i).node_eq (kernels i).slash_not_mem_artifactName
    (kernels i).artifactName_ne_nil ((kernels i).isStem_stem.ne_dot _)
    ((kernels i).isStem_stem.ne_dotDot _) (hkept.noLink _) hn

/-! ### Two kernels with one artifact -/

/-- Two kernels with different entries and one artifact. -/
def twins (i : Fin 2) : Kernel := Kernel.sample (if i = 0 then "k" else "again") Kernel.sampleTools

/-- The kernels as they are made, in a world with the empty directory of the store. -/
def twinFleet : Fleet (Fin 2) := ⟨fun _ ↦ {}, { host := Kernel.sampleHost [] }⟩

omit [DecidableEq ι] in
/-- Without a simulator, executing changes neither files nor the ledger. -/
theorem leavesAlone_sampleTools (kernels : ι → Kernel) (directory : Place) (config : ToolConfig)
    (record : ArtifactRecord) (groups : ArgumentGroups) (w : World) :
    LeavesAlone kernels directory w.host
      (((Adapter.rvv config).execute Kernel.sampleTools record groups).runFrom w).2.host := by
  have hkeeps : (Adapter.rvv config).KeepsLedger := trivial
  refine .of_eq ?_ (Adapter.execute_ledger hkeeps _ record groups w)
  exact Adapter.execute_keeps Host.files (fun _ _ ↦ rfl) (fun _ _ he ↦ by cases he)
    (fun _ _ ↦ rfl) record groups w

theorem housed_twins : Housed twins [utf8 "c"] where
  booked _ := Kernel.confined_sampleTools
  execute _ record groups w := leavesAlone_sampleTools twins _ _ record groups w
  plain i := by
    show '/' ∉ "k".toList
    decide
  keys i j _ := by
    have hsource : ∀ i, (twins i).preparedSource = Target.withPrelude "" := fun _ ↦ rfl
    rw [hsource, hsource]
    rfl

theorem leads_sampleHost (others : List (Bytes × Node)) :
    (Kernel.sampleHost others).files.Leads (.ofString "/c") [utf8 "c"] := by
  have hstart : (Kernel.sampleHost others).files.start (.ofString "/c") = .ok (.place []) := by cbv
  exact .found hstart (by cbv) ⟨1, by cbv⟩

theorem node?_sampleHost (name : Bytes) :
    (Kernel.sampleHost []).files.disk.node? ([utf8 "c"] ++ [name]) = none := by
  rw [Disk.node?_eq_none_iff (by simp)]
  simp [Kernel.sampleHost]

/-- What the first kernel compiled is traced as the artifact of the second one. -/
theorem artifacts_traced_twins : ∃ n,
    (twinFleet.run twins [.operate 0 .prepare]).world.host.files.node (twins 1).paths.artifact =
        .ok n ∧
      (twins 1).Traced [utf8 "c"] (twinFleet.run twins [.operate 0 .prepare]).world.host n := by
  have hmoves : twinFleet.Along twins (Quiet twins [utf8 "c"]) [.operate 0 .prepare] :=
    ⟨trivial, trivial⟩
  have htraced := artifacts_traced housed_twins (F := twinFleet) (by decide +kernel)
    (fun _ ↦ leads_sampleHost []) node?_sampleHost hmoves 1
  have hpaths : (twins 1).paths = Kernel.samplePaths := Kernel.paths_sample _ _
  have hworld : (twinFleet.run twins [.operate 0 .prepare]).world.host =
      ((Kernel.sample "k" Kernel.sampleTools).prepare.runFrom ({}, Kernel.sampleHost [])).2.2 := rfl
  obtain ⟨-, -, hfile⟩ := Kernel.prepare_sampleTools "k"
  rw [← hworld, ← hpaths, isFile] at hfile
  split at hfile
  · next n hn => exact ⟨n, hn, (htraced n).2 ((htraced n).1 hn)⟩
  · cases hfile

/-! ### A kernel whose symbol has a slash -/

/-- A kernel whose symbol leads out of the store. -/
def stray : Kernel := { Kernel.sample "../o/x" Kernel.sampleTools with symbol := "../o/x" }

/-- The key of the kernel. -/
def strayKey : StoreKey :=
  ⟨"41ebffe0f5df97449747f7ad372e595f8f55192402d2f015068beb9da43f9b49"⟩

/-- A world with the empty directory of the store, and a file that others have left elsewhere. -/
def strayFleet : Fleet Unit :=
  ⟨fun _ ↦ {}, { host := {
    files := {
      disk := {
        nodes := [([utf8 "c"], .directory 1), ([utf8 "o"], .directory 2),
          ([utf8 "o", utf8 ("x_" ++ strayKey.text)], .file 3 (utf8 "foreign") false)]
        next := 4 }
      here := 0 } } }⟩

private theorem paths_stray :
    stray.paths = .of (.ofString "/c") "../o/x" strayKey .executable := by
  have hdigest : Sha256.digest (StoreKey.framed "../o/x" (Target.withPrelude "")) =
      [65, 235, 255, 224, 245, 223, 151, 68, 151, 71, 247, 173, 55, 46, 89, 95, 143, 85, 25, 36, 2,
        210, 240, 21, 6, 139, 235, 157, 164, 63, 155, 73] := by
    decide +kernel
  have hkey : stray.key = strayKey := by
    show StoreKey.mk
      (Bytes.hex (Sha256.digest (StoreKey.framed "../o/x" (Target.withPrelude "")))) = _
    rw [hdigest]
    cbv
  rw [Kernel.paths, hkey]
  rfl

/-- The store is empty at first and left alone, but the path of the artifact leads out of it, and
the preparation answers with a file that nothing has compiled. -/
theorem artifacts_traced_stray :
    (∃ t : Toolchain, t.Confined ∧ stray.toolchain = t.booked) ∧
    (∀ record groups (w : World), LeavesAlone (fun _ : Unit ↦ stray) [utf8 "c"] w.host
      ((stray.adapter.execute stray.toolchain record groups).runFrom w).2.host) ∧
    strayFleet.world.host.files.WellFormed ∧
    strayFleet.world.host.files.Leads stray.store [utf8 "c"] ∧
    (∀ name, strayFleet.world.host.files.disk.node? ([utf8 "c"] ++ [name]) = none) ∧
    (strayFleet.run (fun _ ↦ stray) [.operate () .prepare]).world.host.files.isFile
      stray.paths.artifact ∧
    (strayFleet.run (fun _ ↦ stray) [.operate () .prepare]).world.host.ledger = [] := by
  have hfile : strayFleet.world.host.files.isFile stray.paths.artifact = true := by
    rw [paths_stray]
    cbv
  have hopen : (createDirectories stray.store).runFrom strayFleet.world.host.files =
      (.ok (), strayFleet.world.host.files) := by
    cbv
  have hstart : strayFleet.world.host.files.start stray.store = .ok (.place []) := by cbv
  have hopened : stray.openedFiles strayFleet.world.host.files = strayFleet.world.host.files :=
    congrArg Prod.snd hopen
  have hworld : (strayFleet.run (fun _ ↦ stray) [.operate () .prepare]).world.host =
      (stray.prepare.runFrom ({}, strayFleet.world.host)).2.2 := rfl
  refine ⟨Kernel.confined_sampleTools, leavesAlone_sampleTools _ _ _, by decide +kernel,
    .found hstart (by cbv) ⟨1, by cbv⟩, fun name ↦ ?_, ?_⟩
  · have hne : utf8 "c" ≠ utf8 "o" := by decide
    rw [Disk.node?_eq_none_iff (by simp)]
    simp [strayFleet, hne]
  · obtain ⟨events, hprepare⟩ := Kernel.prepare_eq_cached (k := stray) (l := {})
      (h := strayFleet.world.host) ⟨rfl, by simp⟩ (congrArg Prod.fst hopen) (by rw [hopened, hfile])
    rw [hworld, hprepare]
    exact ⟨hopened.symm ▸ hfile, rfl⟩

end Fleet

end KernelForge
