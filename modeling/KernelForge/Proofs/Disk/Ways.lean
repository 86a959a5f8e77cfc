import KernelForge.Proofs.Disk.WellFormed
import Mathlib.Tactic.ByContra

/-!
# Lookups while the tree changes

A lookup goes through directories and links and ends at the first thing that is neither. While
directories stay, and a link gives way to a file at most, a lookup that led to a directory leads to
it still or runs into a file; once it runs into a file, it does so for good. Main statements:
`ending_keeps` and, where the links stay as well, `ending_carries`.
-/

namespace KernelForge

/-- Whether a lookup ends here: this is neither a directory nor a link. -/
def Node.isSolid : Node → Bool
  | .directory _ | .link _ => false
  | _ => true

theorem Node.isSolid_of_isFile {n : Node} (h : n.isFile) : n.isSolid := by
  cases n <;> simp_all [isFile, isSolid]

namespace Disk

variable {d d' d'' : Disk} {links : Nat} {here : Place} {todo : List Bytes}

/-! ### One step of a lookup -/

section Step

variable {s : Nat} {segment : Bytes} {rest : List Bytes}

@[simp] theorem walk_nil (d : Disk) (links : Nat) (here : Place) :
    d.walk links here [] = .ok (here, links) := by
  rw [walk]

theorem walk_dot (h : d.node? here = some (.directory s)) :
    d.walk links here (Path.dot :: rest) = d.walk links here rest := by
  rw [walk, h]
  simp

theorem walk_dotDot (h : d.node? here = some (.directory s)) :
    d.walk links here (Path.dotDot :: rest) = d.walk links here.dropLast rest := by
  have : Path.dotDot ≠ Path.dot := by decide
  rw [walk, h]
  simp [this]

/-- A step by a name, where no link stands under it. -/
theorem walk_name (h : d.node? here = some (.directory s)) (hdot : segment ≠ Path.dot)
    (hdotDot : segment ≠ Path.dotDot) (hshort : ¬ nameLimit < segment.length) {n : Node}
    (hn : d.node? (here ++ [segment]) = some n) (hlink : ∀ t, n ≠ .link t) :
    d.walk links here (segment :: rest) = d.walk links (here ++ [segment]) rest := by
  rw [walk, h]
  simp only [hdot, hdotDot, hshort, if_false, hn]

/-- A step by a name under which a link stands. -/
theorem walk_link (h : d.node? here = some (.directory s)) (hdot : segment ≠ Path.dot)
    (hdotDot : segment ≠ Path.dotDot) (hshort : ¬ nameLimit < segment.length) {t : Path}
    (hn : d.node? (here ++ [segment]) = some (.link t)) :
    d.walk (links + 1) here (segment :: rest) =
      d.walk links (if t.isAbsolute then [] else here) (t.steps ++ rest) := by
  rw [walk, h]
  simp only [hdot, hdotDot, hshort, if_false, hn]

/-- A name that is too long ends the lookup. -/
theorem walk_long (h : d.node? here = some (.directory s)) (hdot : segment ≠ Path.dot)
    (hdotDot : segment ≠ Path.dotDot) (hlong : nameLimit < segment.length) :
    d.walk links here (segment :: rest) = .error .tooLong := by
  rw [walk, h]
  simp only [hdot, hdotDot, hlong, if_false, if_true]

/-- A name under which nothing stands ends the lookup. -/
theorem walk_missing (h : d.node? here = some (.directory s)) (hdot : segment ≠ Path.dot)
    (hdotDot : segment ≠ Path.dotDot) (hshort : ¬ nameLimit < segment.length)
    (hn : d.node? (here ++ [segment]) = none) :
    d.walk links here (segment :: rest) = .error .missing := by
  rw [walk, h]
  simp only [hdot, hdotDot, hshort, if_false, hn]

/-- A link ends a lookup that may follow no more links. -/
theorem walk_tooManyLinks (h : d.node? here = some (.directory s)) (hdot : segment ≠ Path.dot)
    (hdotDot : segment ≠ Path.dotDot) (hshort : ¬ nameLimit < segment.length) {t : Path}
    (hn : d.node? (here ++ [segment]) = some (.link t)) :
    d.walk 0 here (segment :: rest) = .error .tooManyLinks := by
  rw [walk, h]
  simp only [hdot, hdotDot, hshort, if_false, hn]

theorem walk_solid (h : ∀ s, d.node? here ≠ some (.directory s)) :
    d.walk links here (segment :: rest) = .error .notDirectory := by
  rw [walk]
  split
  · next s hs => exact absurd hs (h s)
  · rfl

end Step

/-! ### Where lookups end -/

/-- Something stands here, and it is no link. -/
def Stands (d : Disk) (q : Place) : Prop := ∃ n, d.node? q = some n ∧ ∀ t, n ≠ .link t

/-- A file stands here, or a sink. -/
def IsSolid (d : Disk) (q : Place) : Prop := ∃ n, d.node? q = some n ∧ n.isSolid

/-- A directory stands here. -/
def IsDirectory (d : Disk) (q : Place) : Prop := ∃ s, d.node? q = some (.directory s)

theorem stands_nil (d : Disk) : d.Stands [] := ⟨_, node?_nil d, by simp⟩

theorem IsDirectory.stands {q : Place} (h : d.IsDirectory q) : d.Stands q := by
  obtain ⟨s, hs⟩ := h
  exact ⟨_, hs, by simp⟩

theorem Stands.cases {q : Place} (h : d.Stands q) : d.IsDirectory q ∨ d.IsSolid q := by
  obtain ⟨n, hn, hlink⟩ := h
  cases n with
  | directory s => exact Or.inl ⟨s, hn⟩
  | link t => exact absurd rfl (hlink t)
  | _ => exact Or.inr ⟨_, hn, rfl⟩

theorem IsSolid.not_directory {q : Place} (h : d.IsSolid q) (s : Nat) :
    d.node? q ≠ some (.directory s) := by
  obtain ⟨n, hn, hsolid⟩ := h
  rintro hs
  rw [hs, Option.some.injEq] at hn
  subst hn
  cases hsolid

/-- A lookup that takes a step takes it from a directory. -/
theorem isDirectory_of_walk {segment : Bytes} {rest : List Bytes} {r : Place × Nat}
    (h : d.walk links here (segment :: rest) = .ok r) : d.IsDirectory here := by
  by_contra hnone
  rw [walk_solid (not_exists.mp hnone)] at h
  cases h

theorem serialAt?_eq_none (hs : ∀ s, d.node? here ≠ some (.directory s)) :
    d.serialAt? here = none := by
  unfold serialAt?
  split
  · next s h => exact absurd h (hs s)
  · rfl

theorem serialAt?_eq_some {s : Nat} (hs : d.node? here = some (.directory s)) :
    d.serialAt? here = some s := by
  unfold serialAt?
  rw [hs]

/-- A lookup ends at a directory or at a file. -/
theorem walk_stands (hd : d.WellFormed) (hhere : d.Stands here) {r : Place × Nat}
    (h : d.walk links here todo = .ok r) : d.Stands r.1 := by
  induction links, here, todo using walk.induct d with
  | case1 links here =>
    rw [walk_nil, Except.ok.injEq] at h
    exact h ▸ hhere
  | case2 links here rest s hs ih => exact ih hhere (walk_dot hs ▸ h)
  | case3 links here rest s hs _ ih =>
    obtain ⟨s', hs'⟩ := hd.dropLast hs
    exact ih (IsDirectory.stands ⟨s', hs'⟩) (walk_dotDot hs ▸ h)
  | case4 links here segment rest s hs h1 h2 h3 =>
    rw [walk_long hs h1 h2 h3] at h
    cases h
  | case5 links here segment rest s hs h1 h2 h3 hn =>
    rw [walk_missing hs h1 h2 h3 hn] at h
    cases h
  | case6 here segment rest s hs h1 h2 h3 t hn =>
    rw [walk_tooManyLinks hs h1 h2 h3 hn] at h
    cases h
  | case7 here segment rest s hs h1 h2 h3 t hn links ih =>
    rw [walk_link hs h1 h2 h3 hn] at h
    refine ih ?_ h
    split
    · exact stands_nil d
    · exact hhere
  | case8 links here segment rest s hs h1 h2 h3 n hlink hn ih =>
    rw [walk_name hs h1 h2 h3 hn hlink] at h
    exact ih ⟨n, hn, hlink⟩ h
  | case9 links here segment rest hs =>
    rw [walk_solid hs] at h
    cases h

/-! ### While directories stay -/

/-- From one tree to a later one, directories and files stay, and a link gives way to a file at
most. What stands at new places does not matter. -/
structure Keeps (d d' : Disk) : Prop where
  /-- Directories stay. -/
  directory : ∀ q s, d.node? q = some (.directory s) → d'.node? q = some (.directory s)
  /-- A link stays or gives way to a file. -/
  link : ∀ q t, d.node? q = some (.link t) → d'.node? q = some (.link t) ∨ d'.IsSolid q
  /-- A file or a sink stays one. -/
  solid : ∀ q, d.IsSolid q → d'.IsSolid q
  /-- A regular file stays one. -/
  file : ∀ q n, d.node? q = some n → n.isFile → ∃ n', d'.node? q = some n' ∧ n'.isFile

namespace Keeps

theorem refl (d : Disk) : d.Keeps d :=
  ⟨fun _ _ h ↦ h, fun _ _ h ↦ Or.inl h, fun _ h ↦ h, fun _ n h hn ↦ ⟨n, h, hn⟩⟩

theorem trans (h : d.Keeps d') (h' : d'.Keeps d'') : d.Keeps d'' where
  directory q s hs := h'.directory q s (h.directory q s hs)
  link q t ht := by
    rcases h.link q t ht with hl | hs
    · exact h'.link q t hl
    · exact Or.inr (h'.solid q hs)
  solid q hs := h'.solid q (h.solid q hs)
  file q n hn hf := by
    obtain ⟨n', hn', hf'⟩ := h.file q n hn hf
    exact h'.file q n' hn' hf'

theorem stands (h : d.Keeps d') {q : Place} (hq : d.Stands q) : d'.Stands q := by
  rcases hq.cases with ⟨s, hs⟩ | hsolid
  · exact IsDirectory.stands ⟨s, h.directory q s hs⟩
  · obtain ⟨n, hn, hns⟩ := h.solid q hsolid
    refine ⟨n, hn, fun t ht ↦ ?_⟩
    subst ht
    cases hns

/-- A tree that shows what another one shows, and more, keeps it. -/
theorem of_node? (h : ∀ q n, d.node? q = some n → d'.node? q = some n) : d.Keeps d' where
  directory q s hs := h q _ hs
  link q t ht := Or.inl (h q _ ht)
  solid q hs := by
    obtain ⟨n, hn, hsolid⟩ := hs
    exact ⟨n, h q n hn, hsolid⟩
  file q n hn hf := ⟨n, h q n hn, hf⟩

/-- A tree keeps another one if it shows the same wherever something stood, but for regular files
that took the place of files or sinks. -/
theorem of_files (h : ∀ q n, d.node? q = some n →
    d'.node? q = some n ∨ n.isSolid ∧ ∃ n', d'.node? q = some n' ∧ n'.isFile) : d.Keeps d' where
  directory q s hs := by
    rcases h q _ hs with hs' | ⟨hsolid, -⟩
    · exact hs'
    · cases hsolid
  link q t ht := by
    rcases h q _ ht with ht' | ⟨hsolid, -⟩
    · exact Or.inl ht'
    · cases hsolid
  solid q hq := by
    obtain ⟨n, hn, hsolid⟩ := hq
    rcases h q n hn with hn' | ⟨-, n', hn', hfile⟩
    · exact ⟨n, hn', hsolid⟩
    · exact ⟨n', hn', Node.isSolid_of_isFile hfile⟩
  file q n hn hf := by
    rcases h q n hn with hn' | ⟨-, hfile⟩
    · exact ⟨n, hn', hf⟩
    · exact hfile

/-- Where something stood, only what stands there now matters. -/
theorem congr (h : d.Keeps d') (he : ∀ q n, d.node? q = some n → d''.node? q = d'.node? q) :
    d.Keeps d'' where
  directory q s hs := (he q _ hs).trans (h.directory q s hs)
  link q t ht := by
    rcases h.link q t ht with hl | ⟨n, hn, hsolid⟩
    · exact Or.inl ((he q _ ht).trans hl)
    · exact Or.inr ⟨n, (he q _ ht).trans hn, hsolid⟩
  solid q hq := by
    obtain ⟨n, hn, hsolid⟩ := h.solid q hq
    obtain ⟨m, hm, -⟩ := hq
    exact ⟨n, (he q _ hm).trans hn, hsolid⟩
  file q n hn hf := by
    obtain ⟨n', hn', hf'⟩ := h.file q n hn hf
    exact ⟨n', (he q _ hn).trans hn', hf'⟩

/-- A regular file may be set where no directory stood. -/
theorem set {place : Place} {n : Node} (h : d.Keeps d')
    (hdir : ∀ s, d.node? place ≠ some (.directory s)) (hfile : n.isFile)
    (he : ∀ q m, d.node? q = some m →
      d''.node? q = if q = place then some n else d'.node? q) : d.Keeps d'' where
  directory q s hs := by
    have hq : q ≠ place := fun hq ↦ hdir s (hq ▸ hs)
    rw [he q _ hs, if_neg hq, h.directory q s hs]
  link q t ht := by
    by_cases hq : q = place
    · exact Or.inr ⟨n, by rw [he q _ ht, if_pos hq], Node.isSolid_of_isFile hfile⟩
    · rcases h.link q t ht with hl | ⟨m, hm, hsolid⟩
      · exact Or.inl (by rw [he q _ ht, if_neg hq, hl])
      · exact Or.inr ⟨m, by rw [he q _ ht, if_neg hq, hm], hsolid⟩
  solid q hq := by
    obtain ⟨m, hm, hsolid⟩ := h.solid q hq
    obtain ⟨m', hm', -⟩ := hq
    by_cases hqp : q = place
    · exact ⟨n, by rw [he q _ hm', if_pos hqp], Node.isSolid_of_isFile hfile⟩
    · exact ⟨m, by rw [he q _ hm', if_neg hqp, hm], hsolid⟩
  file q m hm hf := by
    by_cases hqp : q = place
    · exact ⟨n, by rw [he q _ hm, if_pos hqp], hfile⟩
    · obtain ⟨m', hm', hf'⟩ := h.file q m hm hf
      exact ⟨m', by rw [he q _ hm, if_neg hqp, hm'], hf'⟩

end Keeps

/-- A lookup runs into a file: one that is in the way, or one at its end. -/
def Barred (d : Disk) (links : Nat) (here : Place) (todo : List Bytes) : Prop :=
  d.walk links here todo = .error .notDirectory ∨
    ∃ r, d.walk links here todo = .ok r ∧ d.IsSolid r.1

/-- A lookup that has come to a file runs into it. -/
theorem barred_of_isSolid (h : d.IsSolid here) : d.Barred links here todo := by
  cases todo with
  | nil => exact Or.inr ⟨_, walk_nil .., h⟩
  | cons segment rest => exact Or.inl (walk_solid h.not_directory)

/-- A lookup that succeeds or runs into a file leads to the same place later, or runs into a
file. -/
theorem walk_keeps (hd : d.WellFormed) (hk : d.Keeps d') (hhere : d.Stands here) :
    (∀ r, d.walk links here todo = .ok r →
      d'.walk links here todo = .ok r ∨ d'.Barred links here todo) ∧
    (d.Barred links here todo → d'.Barred links here todo) := by
  -- the first half gives the second where the lookup ends at a file
  suffices h : (∀ r, d.walk links here todo = .ok r →
      d'.walk links here todo = .ok r ∨ d'.Barred links here todo) ∧
      (d.walk links here todo = .error .notDirectory → d'.Barred links here todo) by
    refine ⟨h.1, ?_⟩
    rintro (hbad | ⟨r, hr, hsolid⟩)
    · exact h.2 hbad
    · rcases h.1 r hr with hok | hbarred
      · exact Or.inr ⟨r, hok, hk.solid r.1 hsolid⟩
      · exact hbarred
  induction links, here, todo using walk.induct d with
  | case1 links here => simp
  | case2 links here rest s hs ih =>
    simp only [Barred, walk_dot hs, walk_dot (hk.directory _ _ hs)]
    exact ih hhere
  | case3 links here rest s hs _ ih =>
    simp only [Barred, walk_dotDot hs, walk_dotDot (hk.directory _ _ hs)]
    obtain ⟨s', hs'⟩ := hd.dropLast hs
    exact ih (IsDirectory.stands ⟨s', hs'⟩)
  | case4 links here segment rest s hs h1 h2 h3 =>
    rw [walk_long hs h1 h2 h3]
    simp
  | case5 links here segment rest s hs h1 h2 h3 hn =>
    rw [walk_missing hs h1 h2 h3 hn]
    simp
  | case6 here segment rest s hs h1 h2 h3 t hn =>
    rw [walk_tooManyLinks hs h1 h2 h3 hn]
    simp
  | case7 here segment rest s hs h1 h2 h3 t hn links ih =>
    rw [walk_link hs h1 h2 h3 hn]
    rcases hk.link _ t hn with hn' | hsolid
    · simp only [Barred, walk_link (hk.directory _ _ hs) h1 h2 h3 hn']
      refine ih ?_
      split
      · exact stands_nil d
      · exact hhere
    · -- the link gave way to a file, and the lookup ends there
      have hbarred : d'.Barred (links + 1) here (segment :: rest) := by
        obtain ⟨n, hn', hns⟩ := hsolid
        have hlink : ∀ t, n ≠ .link t := fun t ht ↦ by
          subst ht
          cases hns
        simp only [Barred, walk_name (hk.directory _ _ hs) h1 h2 h3 hn' hlink]
        exact barred_of_isSolid ⟨n, hn', hns⟩
      exact ⟨fun _ _ ↦ Or.inr hbarred, fun _ ↦ hbarred⟩
  | case8 links here segment rest s hs h1 h2 h3 n hlink hn ih =>
    have hstands : d.Stands (here ++ [segment]) := ⟨n, hn, hlink⟩
    obtain ⟨n', hn', hlink'⟩ := hk.stands hstands
    simp only [Barred, walk_name hs h1 h2 h3 hn hlink,
      walk_name (hk.directory _ _ hs) h1 h2 h3 hn' hlink']
    exact ih hstands
  | case9 links here segment rest hs =>
    have hsolid : d.IsSolid here := by
      rcases hhere.cases with ⟨s, h⟩ | h
      · exact absurd h (hs s)
      · exact h
    rw [walk_solid hs]
    refine ⟨fun r h ↦ ?_, fun _ ↦ Or.inl (walk_solid (hk.solid _ hsolid).not_directory)⟩
    cases h

/-! ### While directories and links stay -/

/-- Directories and links of one tree are there in the other. -/
def Extends (d d' : Disk) : Prop :=
  ∀ q n, d.node? q = some n → n.isSolid = false → d'.node? q = some n

/-- Where one tree has directories, so has the other, and it has the same links. -/
structure Carries (d d' : Disk) : Prop where
  /-- A directory stands where one stood. -/
  directory : ∀ q, d.IsDirectory q → d'.IsDirectory q
  /-- A link stays. -/
  link : ∀ q t, d.node? q = some (.link t) → d'.node? q = some (.link t)

theorem Extends.carries (h : d.Extends d') : d.Carries d' where
  directory q hq := by
    obtain ⟨s, hs⟩ := hq
    exact ⟨s, h q _ hs rfl⟩
  link q t ht := h q _ ht rfl

/-- Where something stood, only what stands there now matters. -/
theorem Carries.congr (h : d.Carries d')
    (he : ∀ q n, d.node? q = some n → d''.node? q = d'.node? q) :
    d.Carries d'' where
  directory q hq := by
    obtain ⟨s, hs⟩ := hq
    obtain ⟨s', hs'⟩ := h.directory q ⟨s, hs⟩
    exact ⟨s', (he q _ hs).trans hs'⟩
  link q t ht := (he q _ ht).trans (h.link q t ht)

/-- Where directories and links stay, a lookup that leads to a directory still does. The serial
numbers of directories do not matter. -/
theorem walk_carries (hc : d.Carries d') {r : Place × Nat} (h : d.walk links here todo = .ok r)
    (hr : d.IsDirectory r.1) : d'.walk links here todo = .ok r := by
  induction links, here, todo using walk.induct d with
  | case1 links here => simpa using h
  | case2 links here rest s hs ih =>
    obtain ⟨s', hs'⟩ := hc.directory _ ⟨s, hs⟩
    rw [walk_dot hs']
    exact ih (walk_dot hs ▸ h)
  | case3 links here rest s hs _ ih =>
    obtain ⟨s', hs'⟩ := hc.directory _ ⟨s, hs⟩
    rw [walk_dotDot hs']
    exact ih (walk_dotDot hs ▸ h)
  | case4 links here segment rest s hs h1 h2 h3 =>
    rw [walk_long hs h1 h2 h3] at h
    cases h
  | case5 links here segment rest s hs h1 h2 h3 hn =>
    rw [walk_missing hs h1 h2 h3 hn] at h
    cases h
  | case6 here segment rest s hs h1 h2 h3 t hn =>
    rw [walk_tooManyLinks hs h1 h2 h3 hn] at h
    cases h
  | case7 here segment rest s hs h1 h2 h3 t hn links ih =>
    obtain ⟨s', hs'⟩ := hc.directory _ ⟨s, hs⟩
    rw [walk_link hs h1 h2 h3 hn] at h
    rw [walk_link hs' h1 h2 h3 (hc.link _ _ hn)]
    exact ih h
  | case8 links here segment rest s hs h1 h2 h3 n hlink hn ih =>
    obtain ⟨s', hs'⟩ := hc.directory _ ⟨s, hs⟩
    rw [walk_name hs h1 h2 h3 hn hlink] at h
    have hstands : d.Stands (here ++ [segment]) := ⟨n, hn, hlink⟩
    rcases hstands.cases with hdir | hstuck
    · obtain ⟨s₁, hs₁⟩ := hc.directory _ hdir
      rw [walk_name hs' h1 h2 h3 hs₁ (by simp)]
      exact ih h
    · -- a lookup that comes to a file leads to no directory
      cases rest with
      | nil =>
        rw [walk_nil, Except.ok.injEq] at h
        subst h
        obtain ⟨s₁, hs₁⟩ := hr
        exact absurd hs₁ (hstuck.not_directory s₁)
      | cons next rest =>
        rw [walk_solid hstuck.not_directory] at h
        cases h
  | case9 links here segment rest hs =>
    rw [walk_solid hs] at h
    cases h

/-- Where directories and links stay, a lookup that leads to a directory still does. -/
theorem walk_extends (he : d.Extends d') {r : Place × Nat} (h : d.walk links here todo = .ok r)
    (hr : d.IsDirectory r.1) : d'.walk links here todo = .ok r := walk_carries he.carries h hr

/-! ### The last step -/

section Ending

variable {start : Place} {p : Path}

/-- What the last step of `p` is once all others led to `place`. -/
def endingAt (d : Disk) (p : Path) (place : Place) : Except Cause Ending :=
  if (d.serialAt? place).isNone then .error .notDirectory
  else if p.segments.getLast?.getD Path.dot = Path.dot then .ok .here
  else if p.segments.getLast?.getD Path.dot = Path.dotDot then .ok .up
  else .ok (.entry place (p.segments.getLast?.getD Path.dot))

theorem ending_eq (d : Disk) (links : Nat) (start : Place) (p : Path) :
    d.ending links (.place start) p =
      match d.walk links start p.segments.dropLast with
      | .ok (place, links) => (d.endingAt p place).map (·, links)
      | .error cause => .error cause := by
  simp only [ending, reach, endingAt, bind, Except.bind]
  cases d.walk links start p.segments.dropLast with
  | error cause => rfl
  | ok r =>
    obtain ⟨place, links⟩ := r
    simp only
    split
    · rfl
    · split
      · rfl
      · split <;> rfl

theorem endingAt_of_isDirectory {place : Place} (h : d.IsDirectory place)
    (h' : d'.IsDirectory place) : d'.endingAt p place = d.endingAt p place := by
  obtain ⟨s, hs⟩ := h
  obtain ⟨s', hs'⟩ := h'
  simp [endingAt, serialAt?_eq_some hs, serialAt?_eq_some hs']

/-- In a directory every last step is found. -/
theorem endingAt_map_ne {place : Place} (h : d.IsDirectory place) (left : Nat) (cause : Cause) :
    (d.endingAt p place).map (·, left) ≠ .error cause := by
  obtain ⟨s, hs⟩ := h
  simp only [endingAt, serialAt?_eq_some hs, Option.isNone_some, Bool.false_eq_true, if_false]
  split
  · simp [Except.map]
  · split <;> simp [Except.map]

theorem endingAt_of_isSolid {place : Place} (h : d.IsSolid place) :
    d.endingAt p place = .error .notDirectory := by
  simp [endingAt, serialAt?_eq_none h.not_directory]

/-- A last step is found in a directory. -/
theorem ending_eq_ok {e : Ending} {left : Nat}
    (h : d.ending links (.place start) p = .ok (e, left)) :
    ∃ place, d.walk links start p.segments.dropLast = .ok (place, left) ∧ d.IsDirectory place ∧
      d.endingAt p place = .ok e := by
  rw [ending_eq] at h
  cases hw : d.walk links start p.segments.dropLast with
  | error cause => simp [hw] at h
  | ok r =>
    obtain ⟨place, left'⟩ := r
    rw [hw] at h
    simp only at h
    cases he : d.endingAt p place with
    | error cause => simp [he, Except.map] at h
    | ok e' =>
      simp only [he, Except.map, Except.ok.injEq, Prod.mk.injEq] at h
      obtain ⟨rfl, rfl⟩ := h
      refine ⟨place, rfl, ?_, he⟩
      cases hs : d.serialAt? place with
      | none => simp [endingAt, hs] at he
      | some s =>
        refine ⟨s, ?_⟩
        unfold serialAt? at hs
        split at hs
        · next s' hs' =>
          rw [Option.some.injEq] at hs
          rw [hs', hs]
        · cases hs

theorem ending_of_walk {place : Place} {left : Nat}
    (hw : d.walk links start p.segments.dropLast = .ok (place, left)) {e : Ending}
    (he : d.endingAt p place = .ok e) : d.ending links (.place start) p = .ok (e, left) := by
  rw [ending_eq, hw]
  simp [he, Except.map]

theorem ending_of_barred (h : d.Barred links start p.segments.dropLast) :
    d.ending links (.place start) p = .error .notDirectory := by
  rw [ending_eq]
  rcases h with h | ⟨⟨place, left⟩, h, hsolid⟩
  · rw [h]
  · rw [h]
    simp [endingAt_of_isSolid hsolid, Except.map]

/-- Where the last step of a path is a name, that is the last of its segments. -/
theorem endingAt_eq_entry {place place' : Place} {last : Bytes}
    (h : d.endingAt p place = .ok (.entry place' last)) :
    place' = place ∧ p.segments.getLast?.getD Path.dot = last ∧ last ≠ Path.dot ∧
      last ≠ Path.dotDot := by
  unfold endingAt at h
  split at h
  · cases h
  · split at h
    · cases h
    · split at h
      · cases h
      · next h1 h2 =>
        simp only [Except.ok.injEq, Ending.entry.injEq] at h
        obtain ⟨rfl, rfl⟩ := h
        exact ⟨rfl, rfl, h1, h2⟩

/-- The last step of a path is found where it was, or a file is in the way. -/
theorem ending_keeps (hd : d.WellFormed) (hk : d.Keeps d') (hstart : d.Stands start)
    {r : Ending × Nat} (h : d.ending links (.place start) p = .ok r) :
    d'.ending links (.place start) p = .ok r ∨
      d'.ending links (.place start) p = .error .notDirectory := by
  obtain ⟨e, left⟩ := r
  obtain ⟨place, hw, ⟨s, hs⟩, he⟩ := ending_eq_ok h
  rcases (walk_keeps hd hk hstart).1 _ hw with hw' | hbarred
  · left
    refine ending_of_walk hw' ?_
    rw [endingAt_of_isDirectory ⟨s, hs⟩ ⟨s, hk.directory _ s hs⟩, he]
  · exact Or.inr (ending_of_barred hbarred)

/-- A path with a file in the way stays so. -/
theorem ending_keeps_error (hd : d.WellFormed) (hk : d.Keeps d') (hstart : d.Stands start)
    (h : d.ending links (.place start) p = .error .notDirectory) :
    d'.ending links (.place start) p = .error .notDirectory := by
  apply ending_of_barred
  apply (walk_keeps hd hk hstart).2
  rw [ending_eq] at h
  cases hw : d.walk links start p.segments.dropLast with
  | error cause =>
    simp only [hw, Except.error.injEq] at h
    exact Or.inl (h ▸ hw)
  | ok r =>
    obtain ⟨place, left⟩ := r
    rcases (walk_stands hd hstart hw).cases with hdir | hsolid
    · rw [hw] at h
      exact absurd h (endingAt_map_ne hdir _ _)
    · exact Or.inr ⟨_, hw, hsolid⟩

/-- Where directories and links stay, the last step of a path stays. The serial numbers of
directories do not matter. -/
theorem ending_carries (hc : d.Carries d') {r : Ending × Nat}
    (h : d.ending links (.place start) p = .ok r) : d'.ending links (.place start) p = .ok r := by
  obtain ⟨e, left⟩ := r
  obtain ⟨place, hw, hdir, hend⟩ := ending_eq_ok h
  refine ending_of_walk (walk_carries hc hw hdir) ?_
  rw [endingAt_of_isDirectory hdir (hc.directory _ hdir), hend]

/-- Where directories and links stay, the last step of a path stays. -/
theorem ending_extends (he : d.Extends d') {r : Ending × Nat}
    (h : d.ending links (.place start) p = .ok r) : d'.ending links (.place start) p = .ok r :=
  ending_carries he.carries h

end Ending

end Disk

end KernelForge
