import KernelForge.Proofs.Disk.Operations

/-!
# The name of a path

An absolute path that ends in a name stands for one place, and for the same one in every tree with
the same directories and links. Writing a file keeps those, and removing a file takes none of them
away but the one that is removed. So what is said of a name before a write holds after it, and once
a name is removed nothing stands under it any more. The trees need not be well formed. Main
statements: `removeFile_gone` and `write_run`.
-/

namespace KernelForge

/-- An absolute path that ends in a name. -/
structure Path.EndsInName (p : Path) : Prop where
  /-- It starts at the root. -/
  absolute : p.isAbsolute
  /-- It does not end in a slash. -/
  slash : p.isSlashed = false
  /-- Its last step is not the directory itself. -/
  dot : p.segments.getLast?.getD Path.dot ≠ Path.dot
  /-- Nor is it the directory above. -/
  dotDot : p.segments.getLast?.getD Path.dot ≠ Path.dotDot

namespace Files

variable {f f' : Files} {p : Path} {q place : Place} {last : Bytes}

theorem Locates.endsInName (h : f.Locates p place last) (ha : p.isAbsolute)
    (hslash : p.isSlashed = false) : p.EndsInName := by
  obtain ⟨here, left, -, hend⟩ := h
  obtain ⟨-, hlast, hdot, hdotDot⟩ := Disk.entry_of_ending hend
  exact ⟨ha, hslash, hlast ▸ hdot, hlast ▸ hdotDot⟩

theorem Locates.names (h : f.Locates p place last) : f.Names p (place ++ [last]) :=
  ⟨place, last, h.ending, rfl⟩

theorem Names.unique {q' : Place} (h : f.Names p q) (h' : f.Names p q') : q = q' := by
  obtain ⟨place, last, hend, rfl⟩ := h
  obtain ⟨place', last', hend', rfl⟩ := h'
  rw [hend, Except.ok.injEq, Ending.entry.injEq] at hend'
  rw [hend'.1, hend'.2]

theorem Names.ne_nil (h : f.Names p q) : q ≠ [] := by
  obtain ⟨place, last, -, rfl⟩ := h
  simp

/-- While directories and links stay, the name is that of the same place. -/
theorem Names.«extends» (h : f.Names p q) (ha : p.isAbsolute) (he : f.disk.Extends f'.disk) :
    f'.Names p q := by
  obtain ⟨place, last, hend, rfl⟩ := h
  obtain ⟨here, left, hs, hfound⟩ := locates_of_isAbsolute ha hend
  have hs' : f'.start p = .ok (.place here) := by
    have hroot := start_eq_ok hs
    rw [if_pos ha] at hroot
    rw [start_isOk hs f', if_pos ha, hroot]
  have hlocates : f'.Locates p place last := ⟨here, left, hs', Disk.ending_extends he hfound⟩
  exact hlocates.names

/-- The last step of a path that ends in a name is a name. -/
theorem ending_entry (hp : p.EndsInName) {e : Ending} (h : f.ending p = .ok e) :
    ∃ place last, e = .entry place last := by
  obtain ⟨spot, hs⟩ := start_of_ending h
  have hroot := start_eq_ok hs
  rw [if_pos hp.absolute] at hroot
  subst hroot
  rw [ending_of_start hs] at h
  cases hend : f.disk.ending linkLimit (.place []) p with
  | error cause => simp [hend, Except.map] at h
  | ok r =>
    obtain ⟨e', left⟩ := r
    simp only [hend, Except.map, Except.ok.injEq] at h
    subst h
    obtain ⟨place, -, ⟨s, hdir⟩, hat⟩ := Disk.ending_eq_ok hend
    simp only [Disk.endingAt, Disk.serialAt?_eq_some hdir, Option.isNone_some, Bool.false_eq_true,
      if_false, if_neg hp.dot, if_neg hp.dotDot, Except.ok.injEq] at hat
    exact ⟨place, _, hat.symm⟩

/-- A path that ends in a name has its name at one place, or at none. -/
theorem names_cases (hp : p.EndsInName) (f : Files) :
    (∃ cause, f.ending p = .error cause ∧ ∀ q, ¬ f.Names p q) ∨
      ∃ place last, f.ending p = .ok (.entry place last) ∧
        ∀ q, f.Names p q ↔ q = place ++ [last] := by
  cases hend : f.ending p with
  | error cause =>
    refine Or.inl ⟨cause, rfl, ?_⟩
    rintro q ⟨place, last, hentry, -⟩
    rw [hend] at hentry
    cases hentry
  | ok e =>
    obtain ⟨place, last, rfl⟩ := ending_entry hp hend
    have hname : f.Names p (place ++ [last]) := ⟨place, last, hend, rfl⟩
    refine Or.inr ⟨place, last, rfl, fun q ↦ ⟨fun h ↦ h.unique hname, ?_⟩⟩
    rintro rfl
    exact hname

/-- What stands under a name stands at its place. -/
theorem ownNode_eq_ok (hp : p.EndsInName) {n : Node} :
    f.ownNode p = .ok n ↔ ∃ q, f.Names p q ∧ f.disk.node? q = some n := by
  rcases names_cases hp f with ⟨cause, hend, hnone⟩ | ⟨place, last, hend, hnames⟩
  · simp [ownNode, hend, hnone]
  · simp only [ownNode, hend, hp.slash, hnames, Bool.false_eq_true, if_false, exists_eq_left]
    cases f.disk.node? (place ++ [last]) <;> simp

theorem isOwnDirectory_eq_true (hp : p.EndsInName) :
    f.isOwnDirectory p = true ↔ ∃ q, f.Names p q ∧ f.disk.IsDirectory q := by
  have hdirectory : f.isOwnDirectory p = true ↔ ∃ s, f.ownNode p = .ok (.directory s) := by
    unfold isOwnDirectory
    cases f.ownNode p with
    | error cause => simp
    | ok n => cases n <;> simp [Node.isDirectory]
  rw [hdirectory]
  simp only [ownNode_eq_ok hp, Disk.IsDirectory]
  constructor
  · rintro ⟨s, q, hq, hs⟩
    exact ⟨q, hq, s, hs⟩
  · rintro ⟨q, hq, s, hs⟩
    exact ⟨s, q, hq, hs⟩

/-- In a tree with no other directories and links, a name is that of a directory only if it was. -/
theorem isOwnDirectory_extends (hp : p.EndsInName) (he : f'.disk.Extends f.disk)
    (h : f.isOwnDirectory p = false) : f'.isOwnDirectory p = false := by
  rw [Bool.eq_false_iff, Ne, isOwnDirectory_eq_true hp] at h ⊢
  rintro ⟨q, hq, s, hs⟩
  exact h ⟨q, hq.extends hp.absolute he, s, he q _ hs rfl⟩

/-! ### Removing -/

/-- Removing a file takes away what stands under its name, unless nothing does or a directory. -/
theorem removeFile_cases (hp : p.EndsInName) :
    (((removeFile p).runFrom f).2 = f ∧
      ∀ q, f.Names p q → f.disk.node? q = none ∨ f.disk.IsDirectory q) ∨
    ∃ q, f.Names p q ∧ ((removeFile p).runFrom f).2 = { f with disk := f.disk.erase q } := by
  rcases names_cases hp f with ⟨cause, hend, hnone⟩ | ⟨place, last, hend, hnames⟩
  · left
    simp [removeFile, edit, hend, hnone, bind, Except.bind]
  · simp only [removeFile, edit, Act.runFrom_ofRun, hend, hp.slash, hnames, bind, Except.bind,
      Bool.false_eq_true, if_false, forall_eq, exists_eq_left]
    cases hn : f.disk.node? (place ++ [last]) with
    | none => simp
    | some n => cases n <;> simp [Disk.IsDirectory, hn]

/-- Removing a file leaves every other place alone. -/
theorem removeFile_stays (hp : p.EndsInName) (hq : ¬ f.Names p q) :
    ((removeFile p).runFrom f).2.disk.node? q = f.disk.node? q := by
  rcases removeFile_cases (f := f) hp with ⟨hsame, -⟩ | ⟨place, hplace, herase⟩
  · rw [hsame]
  · have hne : q ≠ place := fun h ↦ hq (h ▸ hplace)
    rw [herase, Disk.node?_erase _ hplace.ne_nil, if_neg hne]

/-- Once a file is removed, nothing stands at the place of its name. -/
theorem removeFile_none (hp : p.EndsInName) (hdir : f.isOwnDirectory p = false)
    (hq : f.Names p q) : ((removeFile p).runFrom f).2.disk.node? q = none := by
  rcases removeFile_cases (f := f) hp with ⟨hsame, hall⟩ | ⟨place, hplace, herase⟩
  · rw [hsame]
    rcases hall q hq with hnone | hdirectory
    · exact hnone
    · rw [(isOwnDirectory_eq_true hp).mpr ⟨q, hq, hdirectory⟩] at hdir
      cases hdir
  · rw [herase, Disk.node?_erase _ hplace.ne_nil, if_pos (hq.unique hplace)]

/-- Once a file is removed, nothing stands under its name, wherever the name leads now. -/
theorem removeFile_gone (hp : p.EndsInName) (hdir : f.isOwnDirectory p = false) (n : Node) :
    ((removeFile p).runFrom f).2.ownNode p ≠ .ok n := by
  rw [Ne, ownNode_eq_ok hp]
  rintro ⟨q, hq, hn⟩
  -- what is there after the removal was there before
  have hext : ((removeFile p).runFrom f).2.disk.Extends f.disk := by
    intro r m hm _
    by_cases hr : f.Names p r
    · rw [removeFile_none hp hdir hr] at hm
      cases hm
    · rwa [removeFile_stays hp hr] at hm
  rw [removeFile_none hp hdir (hq.extends hp.absolute hext)] at hn
  cases hn

/-! ### Writing -/

/-- Where a tree differs from another one only at a place where it has no directory and no link, the
other one has its directories and links. -/
theorem extends_of_stays (hstays : ∀ q, q ≠ place → f'.disk.node? q = f.disk.node? q)
    (hsolid : ∀ n, f.disk.node? place = some n → n.isSolid) : f.disk.Extends f'.disk := by
  intro q n hn hway
  by_cases hq : q = place
  · rw [hsolid n (hq ▸ hn)] at hway
    cases hway
  · rw [hstays q hq, hn]

theorem write_error {cause : Cause} (h : f.target p = .error cause) (content : Bytes) :
    (write p content).runFrom f = (.error cause, f) := by
  rw [write, alter, fill_run, h]

/-- A write changes the place that its path names for writing. The content stands there afterwards,
unless a sink swallowed it. -/
theorem write_run (h : f.target p = .ok place) (content : Bytes) :
    ∃ f', (write p content).runFrom f = (.ok (), f') ∧
      (∀ q, q ≠ place → f'.disk.node? q = f.disk.node? q) ∧
      (f.disk.node? place = some .sink ∧ f'.disk.node? place = some .sink ∨
        ∃ serial runnable, f'.disk.node? place = some (.file serial content runnable)) := by
  obtain ⟨parent, last, rfl, -⟩ := target_ok h
  have hne : parent ++ [last] ≠ [] := by simp
  have hput (d : Disk) (n : Node) (q : Place) : (d.put (parent ++ [last]) n).node? q =
      if q = parent ++ [last] then some n else d.node? q := Disk.node?_put d hne n q
  refine ⟨_, by rw [write, alter, fill_run, h], ?_⟩
  cases hn : f.disk.node? (parent ++ [last]) with
  | none =>
    simp only [filled, hn, hput, if_true]
    exact ⟨fun q hq ↦ by rw [if_neg hq]; rfl, Or.inr ⟨_, _, rfl⟩⟩
  | some n =>
    have hsolid := isSolid_of_target h hn
    cases n with
    | file serial old runnable =>
      simp only [filled, hn, Node.file?, hput, if_true]
      exact ⟨fun q hq ↦ if_neg hq, Or.inr ⟨_, _, rfl⟩⟩
    | machine serial name =>
      simp only [filled, hn, Node.file?, hput, if_true]
      exact ⟨fun q hq ↦ if_neg hq, Or.inr ⟨_, _, rfl⟩⟩
    | sink =>
      simp [filled, hn, Node.file?]
    | directory serial => cases hsolid
    | link target => cases hsolid

/-- A write keeps directories and links, and makes none. -/
theorem write_extends (h : f.target p = .ok place) {content : Bytes}
    (hrun : (write p content).runFrom f = (.ok (), f')) :
    f.disk.Extends f'.disk ∧ f'.disk.Extends f.disk := by
  obtain ⟨f'', hrun', hstays, hnode⟩ := write_run h content
  rw [hrun, Prod.mk.injEq] at hrun'
  rw [← hrun'.2] at hstays hnode
  refine ⟨extends_of_stays hstays fun n hn ↦ isSolid_of_target h hn,
    extends_of_stays (fun q hq ↦ (hstays q hq).symm) fun n hn ↦ ?_⟩
  rcases hnode with ⟨-, hsink⟩ | ⟨serial, runnable, hfile⟩
  · rw [hsink, Option.some.injEq] at hn
    exact hn ▸ rfl
  · rw [hfile, Option.some.injEq] at hn
    exact hn ▸ rfl

end Files

end KernelForge
