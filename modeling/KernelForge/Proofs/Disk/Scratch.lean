import KernelForge.Disk.Scratch
import KernelForge.Proofs.Disk.Operations
import KernelForge.Proofs.Disk.Segments

/-!
# New directories and scratch names

A directory that is made with all that are above it adds directories where nothing stood, each where
one of the paths leads. Under a scratch name a file or a directory is made where nothing stood; an
attempt that fails changes nothing but the number of names tried. Main statements:
`createAll_grows` and `createScratch_ok`.
-/

namespace KernelForge.Files

variable {f f' f'' : Files} {p : Path} {place : Place} {last : Bytes} {cause : Cause}

/-! ### Directories with all that are above them -/

/-- The place that a path leads to is found by its steps. -/
theorem place_eq_ok {here : Place} (hs : f.start p = .ok (.place here)) :
    f.place p = .ok place ↔ ∃ left, f.disk.walk linkLimit here p.steps = .ok (place, left) := by
  simp only [Files.place, spot, hs, Disk.reach, bind, Except.bind, pure, Except.pure]
  cases f.disk.walk linkLimit here p.steps with
  | error cause => simp
  | ok r => simp [Prod.ext_iff]

/-- A directory that a path leads to stays where it is while directories and links stay. -/
theorem place_extends {here : Place} (hf : f.WellFormed) (hf' : f'.WellFormed)
    (hhere : f'.here = f.here) (he : f.disk.Extends f'.disk) (hs : f.start p = .ok (.place here))
    (h : f.place p = .ok place) (hdir : f.disk.IsDirectory place) : f'.place p = .ok place := by
  have hs' := start_keeps hf hf' hhere (fun s hs ↦ he here _ hs rfl) hs
  obtain ⟨left, hw⟩ := (place_eq_ok hs).mp h
  exact (place_eq_ok hs').mpr ⟨left, Disk.walk_extends he hw hdir⟩

/-- The files `g` are passed on the way from `f` to `f'`, on which nothing is taken away. -/
structure Between (f f' g : Files) : Prop where
  /-- The tree can arise. -/
  wellFormed : g.WellFormed
  /-- The current directory is the same. -/
  here : g.here = f.here
  /-- The same removed directories are remembered. -/
  removed : g.disk.removed = f.disk.removed
  /-- What stood at first stands. -/
  since : ∀ q n, f.disk.node? q = some n → g.disk.node? q = some n
  /-- What stands stays to the end. -/
  stays : ∀ q n, g.disk.node? q = some n → f'.disk.node? q = some n

/-- On the way from `f` to `f'`, something was made at the place `q` under the path `p`. -/
structure MadeBy (f f' : Files) (p : Path) (q : Place) : Prop where
  /-- The path was the name of the place when it was made, also one that is looked up from a current
  directory that was removed. -/
  name : ∃ g, f.Between f' g ∧ g.Names p q
  /-- The path can be looked up. -/
  start : ∃ spot, f.start p = .ok spot
  /-- A lookup that starts at a place leads there in the end. -/
  leads : ∀ here, f.start p = .ok (.place here) → f'.place p = .ok q

/-- What stood stays, and what is new are directories, each made under one of `paths`. -/
structure Grows (f f' : Files) (paths : List Path) : Prop where
  /-- The tree can arise. -/
  wellFormed : f'.WellFormed
  /-- The current directory is the same. -/
  here : f'.here = f.here
  /-- The same removed directories are remembered. -/
  removed : f'.disk.removed = f.disk.removed
  /-- What stood stays. -/
  stays : ∀ q n, f.disk.node? q = some n → f'.disk.node? q = some n
  /-- What is new are directories under the paths. -/
  made : ∀ q, f.disk.node? q = none → f'.disk.node? q ≠ none → f'.disk.IsDirectory q ∧
    ∃ p ∈ paths, f.MadeBy f' p q

namespace Grows

variable {paths paths' : List Path} {q : Place}

theorem refl (hf : f.WellFormed) (paths : List Path) : f.Grows f paths :=
  ⟨hf, rfl, rfl, fun _ _ h ↦ h, fun _ h h' ↦ absurd h h'⟩

theorem mono (h : f.Grows f' paths) (hsub : ∀ p ∈ paths, p ∈ paths') : f.Grows f' paths' where
  wellFormed := h.wellFormed
  here := h.here
  removed := h.removed
  stays := h.stays
  made q hq hq' := by
    obtain ⟨hdir, p, hp, hmade⟩ := h.made q hq hq'
    exact ⟨hdir, p, hsub p hp, hmade⟩

theorem «extends» (h : f.Grows f' paths) : f.disk.Extends f'.disk := fun q n hn _ ↦ h.stays q n hn

theorem keeps (h : f.Grows f' paths) : f.disk.Keeps f'.disk := Disk.Keeps.of_node? h.stays

/-- What is made later on is made on the whole way. -/
theorem madeBy_since (hf : f.WellFormed) (h : f.Grows f' paths) (hmade : f'.MadeBy f'' p q) :
    f.MadeBy f'' p q where
  name := by
    obtain ⟨g, hg, hname⟩ := hmade.name
    exact ⟨g, ⟨hg.wellFormed, hg.here.trans h.here, hg.removed.trans h.removed,
      fun r n hn ↦ hg.since r n (h.stays r n hn), hg.stays⟩, hname⟩
  start := by
    obtain ⟨spot, hs⟩ := hmade.start
    exact ⟨_, start_isOk hs f⟩
  leads here hs :=
    hmade.leads here (start_keeps hf h.wellFormed h.here (fun s ↦ h.stays here _) hs)

/-- A directory that was made is made on the whole way. -/
theorem madeBy_stays (hf : f.WellFormed) (h : f.Grows f' paths) (h' : f'.Grows f'' paths)
    (hdir : f'.disk.IsDirectory q) (hmade : f.MadeBy f' p q) : f.MadeBy f'' p q where
  name := by
    obtain ⟨g, hg, hname⟩ := hmade.name
    exact ⟨g, ⟨hg.wellFormed, hg.here, hg.removed, hg.since,
      fun r n hn ↦ h'.stays r n (hg.stays r n hn)⟩, hname⟩
  start := hmade.start
  leads here hs := by
    have hs' := start_keeps hf h.wellFormed h.here (fun s ↦ h.stays here _) hs
    exact place_extends h.wellFormed h'.wellFormed h'.here h'.extends hs' (hmade.leads here hs) hdir

theorem trans (hf : f.WellFormed) (h : f.Grows f' paths) (h' : f'.Grows f'' paths) :
    f.Grows f'' paths where
  wellFormed := h'.wellFormed
  here := h'.here.trans h.here
  removed := h'.removed.trans h.removed
  stays q n hn := h'.stays q n (h.stays q n hn)
  made q hq hq'' := by
    cases hn : f'.disk.node? q with
    | none =>
      obtain ⟨hdir, p, hp, hmade⟩ := h'.made q hn hq''
      exact ⟨hdir, p, hp, h.madeBy_since hf hmade⟩
    | some n =>
      obtain ⟨⟨s, hs⟩, p, hp, hmade⟩ := h.made q hq (by simp [hn])
      exact ⟨⟨s, h'.stays q _ hs⟩, p, hp, h.madeBy_stays hf h' ⟨s, hs⟩ hmade⟩

end Grows

private theorem removed_createDirectory (h : (createDirectory p).runFrom f = (.ok (), f')) :
    f'.disk.removed = f.disk.removed := by
  obtain ⟨place, last, -, -, -, rfl⟩ := make_ok h
  rfl

/-- A directory that is made is where its path leads. -/
theorem createDirectory_grows (hf : f.WellFormed) (p : Path) :
    f.Grows ((createDirectory p).runFrom f).2 [p] := by
  rcases hr : (createDirectory p).runFrom f with ⟨_ | _, f'⟩
  · rw [edit_error hr]
    exact Grows.refl hf [p]
  obtain ⟨place, last, hend, hshort, hnone, hreaches⟩ := createDirectory_ok hf hr
  have hstays : ∀ q n, f.disk.node? q = some n → f'.disk.node? q = some n :=
    fun q n hn ↦ hreaches.stays_of_free hnone hn
  have hnew := hreaches.shows (place ++ [last])
  rw [if_pos rfl] at hnew
  refine ⟨hreaches.wellFormed, hreaches.here, removed_createDirectory hr, hstays,
    fun q hq hq' ↦ ?_⟩
  have : q = place ++ [last] := by
    by_contra hne
    rw [hreaches.shows, if_neg hne] at hq'
    exact hq' hq
  subst this
  refine ⟨⟨_, hnew⟩, p, by simp, ⟨f, ⟨hf, rfl, rfl, fun _ _ h ↦ h, hstays⟩, _, _, hend, rfl⟩,
    start_of_ending hend, fun here hs ↦ ?_⟩
  have hlocates := (locates_of_ending hs hend).extends hf hreaches.wellFormed
    hreaches.here fun q n hn _ ↦ hstays q n hn
  exact hlocates.place_eq hshort hnew (by simp) (Or.inr rfl)

/-- Making the first directory of a list, and before it the rest of the list where need be, adds
directories where the paths of the list lead. -/
theorem createAll_grows (hf : f.WellFormed) (paths : List Path) :
    f.Grows ((createAll paths).runFrom f).2 paths := by
  induction paths generalizing f with
  | nil => exact Grows.refl hf []
  | cons p parents ih =>
    have hp : ∀ q ∈ [p], q ∈ p :: parents := by simp
    have hparents : ∀ q ∈ parents, q ∈ p :: parents := fun q hq ↦ List.mem_cons_of_mem p hq
    have hfirst := (createDirectory_grows hf p).mono hp
    rw [createAll]
    split
    · exact Grows.refl hf _
    · rcases hr : (createDirectory p).runFrom f with ⟨r, f₁⟩
      rw [hr] at hfirst
      rw [Act.runFrom_bind, Act.runFrom_attempt, hr]
      simp only
      split
      · exact hfirst
      · have hrest := (ih hfirst.wellFormed).mono hparents
        rw [Act.runFrom_bind]
        rcases hr₂ : (createAll parents).runFrom f₁ with ⟨_ | _, f₂⟩
        · rw [hr₂] at hrest
          exact hfirst.trans hf hrest
        · rw [hr₂] at hrest
          have hlast := (createDirectory_grows hrest.wellFormed p).mono hp
          simp only
          rcases hr₃ : (createDirectory p).runFrom f₂ with ⟨r, f₃⟩
          rw [hr₃] at hlast
          have hall := (hfirst.trans hf hrest).trans hf hlast
          rw [Act.runFrom_bind, Act.runFrom_attempt, hr₃]
          simp only
          split
          · exact hall
          · rw [Act.runFrom_bind, Act.runFrom_reads]
            simp only
            split <;> exact hall
      · rw [Act.runFrom_bind, Act.runFrom_reads]
        simp only
        split <;> exact hfirst

/-! ### Scratch names -/

namespace ScratchStyle

/-- Neither what stands before the characters of choice nor what stands after them has a slash. -/
def IsPlain (style : ScratchStyle) : Prop := '/' ∉ style.before.toList ∧ '/' ∉ style.after.toList

theorem slash_not_mem_name {style : ScratchStyle} (h : style.IsPlain) (n : Nat) :
    Path.slash ∉ utf8 (style.name n) := by
  intro hmem
  have hslash := slash_mem_utf8 hmem
  simp only [name, choice, String.toList_append, String.toList_ofList, List.mem_append,
    List.mem_replicate] at hslash
  rcases hslash with ((hb | ⟨-, hz⟩ | hd) | ha)
  · exact h.1 hb
  · revert hz
    decide
  · have := Nat.isDigit_of_mem_toDigits (by decide) (by decide) hd
    revert this
    decide
  · exact h.2 ha

theorem name_ne_nil (style : ScratchStyle) (n : Nat) : utf8 (style.name n) ≠ [] := by
  intro h
  have hempty : style.name n = "" := utf8_inj.mp (h.trans (by rfl))
  have hlength := congrArg String.toList hempty
  simp [name, choice] at hlength

end ScratchStyle

/-- An action makes a node of one kind under a name that was free, or changes nothing. -/
structure Creates (create : Path → Act Files Cause Unit) (kind : Nat → Node) : Prop where
  /-- The node stands under the name. -/
  ok : ∀ {f f' p}, f.WellFormed → (create p).runFrom f = (.ok (), f') → ∃ place last,
    f.ending p = .ok (.entry place last) ∧ ¬ nameLimit < last.length ∧
      f.disk.node? (place ++ [last]) = none ∧ f.Reaches f' fun q ↦
        if q = place ++ [last] then some (kind f.disk.next) else f.disk.node? q
  /-- A failure changes nothing. -/
  error : ∀ {f f' p cause}, (create p).runFrom f = (.error cause, f') → f' = f

theorem creates_createFile : Creates createFile fun s ↦ .file s [] false :=
  ⟨fun hf h ↦ createFile_ok hf h, fun h ↦ edit_error h⟩

theorem creates_createDirectory : Creates createDirectory .directory :=
  ⟨fun hf h ↦ createDirectory_ok hf h, fun h ↦ edit_error h⟩

section CreateScratch

variable {create : Path → Act Files Cause Unit} {kind : Nat → Node} {style : ScratchStyle}
  {directory : Path}

theorem tryNames_run (hcreate : Creates create kind) (style : ScratchStyle) (base : Path)
    (tries : Nat) (f : Files) :
    ∃ drawn, ((∃ cause, (tryNames style base create tries).runFrom f =
        (.error cause, { f with drawn })) ∨
      ∃ n f', (create (base.joinText (style.name n))).runFrom { f with drawn } = (.ok (), f') ∧
        (tryNames style base create tries).runFrom f =
          (.ok (base.joinText (style.name n)), f')) := by
  induction tries generalizing f with
  | zero => exact ⟨f.drawn, Or.inl ⟨_, rfl⟩⟩
  | succ tries ih =>
    simp only [tryNames, Act.runFrom_bind, Act.runFrom_reads, Act.runFrom_changes,
      Act.runFrom_attempt]
    rcases hr : (create (base.joinText (style.name f.drawn))).runFrom
      { f with drawn := f.drawn + 1 } with ⟨cause | _, f'⟩
    · have := hcreate.error hr
      subst this
      by_cases hc : cause = .taken
      · subst hc
        obtain ⟨drawn, h⟩ := ih { f with drawn := f.drawn + 1 }
        exact ⟨drawn, h⟩
      · refine ⟨f.drawn + 1, Or.inl ?_⟩
        cases cause <;> first | exact ⟨_, rfl⟩ | exact absurd rfl hc
    · exact ⟨f.drawn + 1, Or.inr ⟨f.drawn, f', hr, rfl⟩⟩

/-- The directory of a scratch name as an absolute path. -/
def scratchBase (f : Files) (directory : Path) : Except Cause Path :=
  if directory.isAbsolute then .ok directory else f.current.map (·.join directory)

theorem createScratch_run (style : ScratchStyle) (directory : Path)
    (create : Path → Act Files Cause Unit) (f : Files) :
    (createScratch style directory create).runFrom f =
      match f.scratchBase directory with
      | .ok base => (tryNames style base create UInt16.size).runFrom f
      | .error cause => (.error cause, f) := by
  simp only [createScratch, scratchBase]
  by_cases ha : directory.isAbsolute
  · simp only [ha, if_true, Act.runFrom_bind, Act.runFrom_pure]
  · simp only [ha, Bool.false_eq_true, if_false, Act.runFrom_bind, Act.runFrom_reads]
    cases f.current with
    | ok here => simp only [Except.map, Act.runFrom_bind, Act.runFrom_pure]
    | error cause => simp only [Except.map, Act.runFrom_bind, Act.runFrom_throw]

/-- A scratch name that could not be had leaves the files alone. -/
theorem createScratch_error (hcreate : Creates create kind)
    (h : (createScratch style directory create).runFrom f = (.error cause, f')) :
    ∃ drawn, f' = { f with drawn } := by
  rw [createScratch_run] at h
  split at h
  · next base _ =>
    obtain ⟨drawn, ⟨cause', hrun⟩ | ⟨n, f'', -, hrun⟩⟩ :=
      tryNames_run hcreate style base UInt16.size f
    · rw [hrun, Prod.mk.injEq] at h
      exact ⟨drawn, h.2.symm⟩
    · simp [hrun] at h
  · rw [Prod.mk.injEq] at h
    exact ⟨f.drawn, h.2.symm⟩

private theorem isAbsolute_of_current {q : Path} (h : f.current = .ok q) : q.isAbsolute := by
  unfold current at h
  split at h
  · rw [Except.ok.injEq] at h
    subst h
    rfl
  · cases h

private theorem isAbsolute_of_scratchBase {base : Path} (h : f.scratchBase directory = .ok base) :
    base.isAbsolute := by
  unfold scratchBase at h
  split at h
  · next ha =>
    rw [Except.ok.injEq] at h
    exact h ▸ ha
  · next ha =>
    cases hc : f.current with
    | error cause => simp [hc, Except.map] at h
    | ok q =>
      simp only [hc, Except.map, Except.ok.injEq] at h
      exact h ▸ Path.isAbsolute_join_of_isAbsolute (isAbsolute_of_current hc) directory

/-- What is made under a scratch name stands where nothing stood. Its path is absolute and does not
end in a slash; a relative directory is one below the current directory, which is there. -/
theorem createScratch_ok (hf : f.WellFormed) (hplain : style.IsPlain)
    (hcreate : Creates create kind)
    (h : (createScratch style directory create).runFrom f = (.ok p, f')) :
    ∃ place last, p.isAbsolute ∧ p.isSlashed = false ∧
      (directory.isAbsolute ∨ ∃ here, f.disk.spotOf f.here = .place here) ∧
      f.Locates p place last ∧ ¬ nameLimit < last.length ∧
      f.disk.node? (place ++ [last]) = none ∧ f.Reaches f' fun q ↦
        if q = place ++ [last] then some (kind f.disk.next) else f.disk.node? q := by
  rw [createScratch_run] at h
  cases hbase : f.scratchBase directory with
  | error cause => simp [hbase] at h
  | ok base =>
    rw [hbase] at h
    simp only at h
    have habsolute := isAbsolute_of_scratchBase hbase
    obtain ⟨drawn, ⟨cause', hrun⟩ | ⟨n, f'', hcreated, hrun⟩⟩ :=
      tryNames_run hcreate style base UInt16.size f
    · simp [hrun] at h
    rw [hrun, Prod.mk.injEq, Except.ok.injEq] at h
    obtain ⟨rfl, rfl⟩ := h
    have hname := ScratchStyle.slash_not_mem_name hplain n
    have hnil : base.bytes ≠ [] := by
      intro hb
      simp [Path.isAbsolute, hb] at habsolute
    have ha : (base.joinText (style.name n)).isAbsolute := by
      rw [Path.joinText, Path.ofString, Path.isAbsolute_join hname hnil, habsolute]
    have hf₁ : Files.WellFormed { f with drawn } := ⟨hf.disk, hf.here⟩
    obtain ⟨place, last, hend, hshort, hnone, hreaches⟩ := hcreate.ok hf₁ hcreated
    refine ⟨place, last, ha, ?_, ?_, locates_of_isAbsolute ha hend, hshort, hnone,
      hreaches.wellFormed, hreaches.here, hreaches.shows⟩
    · apply Path.not_isSlashed_of_lastPiece
      rw [Path.joinText, Path.ofString, Path.lastPiece_join hname]
      exact ScratchStyle.name_ne_nil style n
    · by_cases hd : directory.isAbsolute
      · exact Or.inl hd
      · right
        rw [scratchBase, if_neg hd, current] at hbase
        unfold Disk.spotOf
        cases hplace : f.disk.placeOf? f.here with
        | none => simp [hplace, Except.map] at hbase
        | some q => exact ⟨q, rfl⟩

end CreateScratch

end KernelForge.Files
