import KernelForge.Proofs.Act
import KernelForge.Proofs.Disk.Locations

/-!
# What file operations do

For each operation on files, what the tree shows after it: at the place it concerns, and that every
other place shows what it showed before. An operation that fails leaves everything as it was. Main
statements: `createFile_ok`, `createDirectory_ok`, `filled_reaches`, `rename_renames`,
`removeFile_run` and `removeTree_cases`.
-/

namespace KernelForge.Files

variable {f f' f'' : Files} {p p' : Path} {place : Place} {last : Bytes} {cause : Cause}

/-- From `f` the files came to `f'`, where the tree shows `view`: the tree can arise, and the
current directory is the same. -/
structure Reaches (f f' : Files) (view : Place → Option Node) : Prop where
  /-- The tree can arise. -/
  wellFormed : f'.WellFormed
  /-- The current directory is the same. -/
  here : f'.here = f.here
  /-- What the tree shows. -/
  shows : ∀ q, f'.disk.node? q = view q

/-- Where something was set at a free place, what stood stays. -/
theorem Reaches.stays_of_free {q : Place} {n : Node}
    (h : f.Reaches f' fun r ↦ if r = q then some n else f.disk.node? r)
    (hfree : f.disk.node? q = none) {r : Place} {m : Node} (hm : f.disk.node? r = some m) :
    f'.disk.node? r = some m := by
  have hne : r ≠ q := by
    rintro rfl
    rw [hfree] at hm
    cases hm
  rw [h.shows, if_neg hne, hm]

/-- An operation that succeeds has replaced the tree. -/
theorem edit_ok {change : Files → Except Cause Disk}
    (h : (edit change).runFrom f = (.ok (), f')) : ∃ disk, change f = .ok disk ∧
      f' = { f with disk } := by
  rw [edit, Act.runFrom_ofRun] at h
  cases hc : change f with
  | ok disk =>
    rw [hc, Prod.mk.injEq] at h
    exact ⟨disk, rfl, h.2.symm⟩
  | error cause => simp [hc] at h

/-- An operation that fails leaves everything as it was. -/
theorem edit_error {change : Files → Except Cause Disk}
    (h : (edit change).runFrom f = (.error cause, f')) : f' = f := by
  rw [edit, Act.runFrom_ofRun] at h
  cases hc : change f with
  | ok disk => simp [hc] at h
  | error cause =>
    rw [hc, Prod.mk.injEq] at h
    exact h.2.symm

/-- The run of an operation that has something to put in place of the tree. -/
theorem edit_run {change : Files → Except Cause Disk} {disk : Disk} (h : change f = .ok disk) :
    (edit change).runFrom f = (.ok (), { f with disk }) := by
  rw [edit, Act.runFrom_ofRun, h]

/-- Below a directory, what is no directory may be set in place of what is none. -/
theorem WellFormed.put (hf : f.WellFormed) (hdir : f.disk.IsDirectory place) {n : Node}
    (hold : ∀ s, f.disk.node? (place ++ [last]) ≠ some (.directory s))
    (hnew : ∀ s, n ≠ .directory s) :
    f.Reaches { f with disk := f.disk.put (place ++ [last]) n } fun q ↦
      if q = place ++ [last] then some n else f.disk.node? q where
  wellFormed := by
    refine ⟨hf.disk.putFile (by simp) ?_ hold hnew, hf.here⟩
    rwa [List.dropLast_concat]
  here := rfl
  shows := Disk.node?_put _ (by simp) _

/-! ### New names -/

section Make

variable {node : Disk → Node × Disk}

theorem make_ok (h : (make p node).runFrom f = (.ok (), f')) :
    ∃ place last, f.ending p = .ok (.entry place last) ∧ ¬ nameLimit < last.length ∧
      f.disk.node? (place ++ [last]) = none ∧
      f' = { f with disk := (node f.disk).2.put (place ++ [last]) (node f.disk).1 } := by
  obtain ⟨disk, hc, rfl⟩ := edit_ok h
  simp only [bind, Except.bind] at hc
  split at hc
  · cases hc
  · next e he =>
    cases e with
    | here => cases hc
    | up => cases hc
    | entry place last =>
      simp only at hc
      split at hc
      · cases hc
      · next hshort =>
        split at hc
        · cases hc
        · next hnone =>
          rw [Except.ok.injEq] at hc
          exact ⟨place, last, he, hshort, hnone, by rw [hc]⟩

end Make

/-- A file that is made stands empty under its name. -/
theorem createFile_ok (hf : f.WellFormed) (h : (createFile p).runFrom f = (.ok (), f')) :
    ∃ place last, f.ending p = .ok (.entry place last) ∧ ¬ nameLimit < last.length ∧
      f.disk.node? (place ++ [last]) = none ∧ f.Reaches f' fun q ↦
        if q = place ++ [last] then some (.file f.disk.next [] false) else f.disk.node? q := by
  obtain ⟨place, last, he, hshort, hnone, rfl⟩ := make_ok h
  have hfresh : Files.WellFormed { f with disk := f.disk.fresh.2 } :=
    ⟨hf.disk.fresh, Nat.lt_succ_of_lt hf.here⟩
  have hdir : Disk.IsDirectory f.disk.fresh.2 place := isDirectory_of_ending he
  have hold : ∀ s, f.disk.fresh.2.node? (place ++ [last]) ≠ some (.directory s) := by
    simp [hnone]
  have hput := hfresh.put hdir (n := .file f.disk.next [] false) hold (by simp)
  exact ⟨place, last, he, hshort, hnone, hput.wellFormed, hput.here, hput.shows⟩

/-- A directory that is made stands empty under its name. -/
theorem createDirectory_ok (hf : f.WellFormed) (h : (createDirectory p).runFrom f = (.ok (), f')) :
    ∃ place last, f.ending p = .ok (.entry place last) ∧ ¬ nameLimit < last.length ∧
      f.disk.node? (place ++ [last]) = none ∧ f.Reaches f' fun q ↦
        if q = place ++ [last] then some (.directory f.disk.next) else f.disk.node? q := by
  obtain ⟨place, last, he, hshort, hnone, rfl⟩ := make_ok h
  refine ⟨place, last, he, hshort, hnone, ⟨?_, Nat.lt_succ_of_lt hf.here⟩, rfl,
    Disk.node?_put _ (by simp) _⟩
  refine hf.disk.fresh.put (by simp) ?_ (by simp [hnone]) ?_
  · rw [List.dropLast_concat]
    exact isDirectory_of_ending he
  · intro s hs
    rw [Node.directory.injEq] at hs
    subst hs
    -- no directory has a serial number that is fresh
    refine ⟨Nat.lt_succ_self _, fun q hq ↦ ?_⟩
    exact absurd (hf.disk.used q _ hq) (Nat.lt_irrefl _)

/-! ### Writing -/

/-- The place that `p` names for writing. -/
def target (f : Files) (p : Path) : Except Cause Place := do
  f.disk.writable linkLimit linkLimit (← f.start p) p

private theorem writable_cases {d : Disk} {turns links : Nat} {spot : Spot}
    (h : d.writable turns links spot p = .ok place) :
    ∃ parent last left, d.ending links spot p = .ok (.entry parent last, left) ∧
      ((place = parent ++ [last] ∧ (d.node? place = none ∨ d.IsSolid place)) ∨
        ∃ turns' links' spot' p', turns' < turns ∧
          d.writable turns' links' spot' p' = .ok place) := by
  unfold Disk.writable at h
  split at h
  · cases h
  · cases h
  · cases h
  · next parent last left he =>
    refine ⟨parent, last, left, he, ?_⟩
    split at h
    · cases h
    · split at h
      · cases h
      · split at h
        · cases h
        · split at h
          · exact Or.inr ⟨_, _, _, _, Nat.lt_succ_self _, h⟩
          · cases h
        · next hdir hlink =>
          rw [Except.ok.injEq] at h
          subst h
          refine Or.inl ⟨rfl, ?_⟩
          cases hn : d.node? (parent ++ [last]) with
          | none => exact Or.inl rfl
          | some n => cases n <;> simp_all [Disk.IsSolid, Node.isSolid]

/-- A place for writing lies in a directory, and a file or nothing stands there. -/
theorem writable_ok {d : Disk} {turns links : Nat} {spot : Spot}
    (h : d.writable turns links spot p = .ok place) :
    ∃ parent last, place = parent ++ [last] ∧ d.IsDirectory parent ∧
      (d.node? place = none ∨ d.IsSolid place) := by
  induction turns using Nat.strongRecOn generalizing links spot p with
  | ind turns ih =>
    obtain ⟨parent, last, left, he, ⟨rfl, hn⟩ | ⟨turns', _, _, _, hlt, h'⟩⟩ := writable_cases h
    · exact ⟨parent, last, rfl, (Disk.entry_of_ending he).1, hn⟩
    · exact ih turns' hlt h'

theorem target_ok (h : f.target p = .ok place) :
    ∃ parent last, place = parent ++ [last] ∧ f.disk.IsDirectory parent ∧
      (f.disk.node? place = none ∨ f.disk.IsSolid place) := by
  simp only [target, bind, Except.bind] at h
  split at h
  · cases h
  · exact writable_ok h

/-- At most a file stands at a place for writing. -/
theorem isSolid_of_target (h : f.target p = .ok place) {n : Node}
    (hn : f.disk.node? place = some n) : n.isSolid := by
  obtain ⟨-, -, -, -, hnone | ⟨m, hm, hsolid⟩⟩ := target_ok h
  · rw [hn] at hnone
    cases hnone
  · rw [hn, Option.some.injEq] at hm
    exact hm ▸ hsolid

/-- Two trees with the same directories and links show the same one at a place, or neither shows
one. -/
private theorem way_cases {d d' : Disk} (he : d.Extends d') (he' : d'.Extends d) (q : Place) :
    (∃ n, n.isSolid = false ∧ d.node? q = some n ∧ d'.node? q = some n) ∨
      (∀ n, d.node? q = some n → n.isSolid) ∧ ∀ n, d'.node? q = some n → n.isSolid := by
  by_cases hway : ∃ n, n.isSolid = false ∧ d.node? q = some n
  · obtain ⟨n, hn, hq⟩ := hway
    exact Or.inl ⟨n, hn, hq, he q n hq hn⟩
  · right
    constructor
    · intro n hq
      by_contra hn
      exact hway ⟨n, by simpa using hn, hq⟩
    · intro n hq
      by_contra hn
      exact hway ⟨n, by simpa using hn, he' q n hq (by simpa using hn)⟩

private theorem writable_extends {d d' : Disk} (he : d.Extends d') (he' : d'.Extends d)
    {turns links : Nat} {here : Place} (h : d.writable turns links (.place here) p = .ok place) :
    d'.writable turns links (.place here) p = .ok place := by
  induction turns using Nat.strongRecOn generalizing links here p with
  | ind turns ih =>
    unfold Disk.writable at h ⊢
    cases hend : d.ending links (.place here) p with
    | error cause => simp [hend] at h
    | ok r =>
      obtain ⟨e, left⟩ := r
      rw [Disk.ending_extends he hend]
      rw [hend] at h
      cases e with
      | here => exact h
      | up => exact h
      | entry parent last =>
        simp only at h ⊢
        by_cases hslash : p.isSlashed
        · rw [if_pos hslash] at h
          cases h
        rw [if_neg hslash] at h ⊢
        by_cases hshort : nameLimit < last.length
        · rw [if_pos hshort] at h
          cases h
        rw [if_neg hshort] at h ⊢
        rcases way_cases he he' (parent ++ [last]) with ⟨n, hway, hn, hn'⟩ | ⟨hsolid, hsolid'⟩
        · rw [hn] at h
          rw [hn']
          cases n with
          | link t =>
            cases turns with
            | zero => exact h
            | succ turns =>
              cases left with
              | zero => exact h
              | succ left => exact ih turns (Nat.lt_succ_self _) h
          | directory s => cases h
          | _ => cases hway
        · -- the path ends here in both trees
          split at h
          · next s hs => cases hsolid _ hs
          · next t ht => cases hsolid _ ht
          · split
            · next s hs => cases hsolid' _ hs
            · next t ht => cases hsolid' _ ht
            · exact h

/-- Where two trees have the same directories and links, a path names the same place for writing. -/
theorem target_extends (hf : f.WellFormed) (hf' : f'.WellFormed) (hhere : f'.here = f.here)
    (he : f.disk.Extends f'.disk) (he' : f'.disk.Extends f.disk) {here : Place}
    (hstart : f.start p = .ok (.place here)) (h : f.target p = .ok place) :
    f'.target p = .ok place := by
  have hstart' := start_keeps hf hf' hhere (fun s hs ↦ he here _ hs rfl) hstart
  simp only [target, hstart, hstart', bind, Except.bind] at h ⊢
  exact writable_extends he he' h

/-- Where no link and no directory stands under its own name, a path is written there. -/
theorem Locates.target_eq (h : f.Locates p place last) (hslash : p.isSlashed = false)
    (hshort : ¬ nameLimit < last.length)
    (hn : f.disk.node? (place ++ [last]) = none ∨ f.disk.IsSolid (place ++ [last])) :
    f.target p = .ok (place ++ [last]) := by
  obtain ⟨here, left, hs, he⟩ := h
  simp only [target, hs, bind, Except.bind]
  unfold Disk.writable
  simp only [he, hslash, Bool.false_eq_true, if_false, hshort]
  rcases hn with hn | ⟨n, hn, hsolid⟩
  · simp [hn]
  · cases n <;> simp_all [Node.isSolid]

/-- Where no link stands under its own name, a path is written there if at all. -/
theorem Locates.target_ok (h : f.Locates p place last)
    (hlink : ∀ t, f.disk.node? (place ++ [last]) ≠ some (.link t)) {q : Place}
    (hq : f.target p = .ok q) : q = place ++ [last] := by
  obtain ⟨here, left, hs, he⟩ := h
  simp only [target, hs, bind, Except.bind] at hq
  unfold Disk.writable at hq
  simp only [he] at hq
  split at hq
  · cases hq
  · split at hq
    · cases hq
    · split at hq
      · cases hq
      · next t ht => exact absurd ht (hlink t)
      · rw [Except.ok.injEq] at hq
        exact hq.symm

/-- A path that runs into a file names no place for writing. -/
theorem Blocked.target (h : f.Blocked p) (q : Place) : f.target p ≠ .ok q := by
  obtain ⟨here, hs, he⟩ := h
  simp only [Files.target, hs, bind, Except.bind]
  unfold Disk.writable
  simp [he]

/-- The tree with `change` of the file at `place` in its place. -/
def filled (d : Disk) (place : Place) (change : Nat → Bytes → Bool → Node) : Disk :=
  match d.node? place with
  | none => d.fresh.2.put place (change d.fresh.1 [] false)
  | some node =>
    match node.file? with
    | some (serial, content, runnable) => d.put place (change serial content runnable)
    | none => d

/-- A write goes to the place that the path names for writing, if it names one. -/
theorem fill_run (f : Files) (p : Path) (change : Nat → Bytes → Bool → Node) :
    (fill p change).runFrom f =
      match f.target p with
      | .ok place => (.ok (), { f with disk := filled f.disk place change })
      | .error cause => (.error cause, f) := by
  simp only [fill, edit, Act.runFrom_ofRun, target, bind, Except.bind]
  cases f.start p with
  | error cause => rfl
  | ok spot =>
    simp only
    cases f.disk.writable linkLimit linkLimit spot p with
    | error cause => rfl
    | ok place =>
      simp only [filled]
      cases f.disk.node? place with
      | none => rfl
      | some n =>
        simp only
        cases n.file? <;> rfl

/-- What a write does to the place it goes to: a regular file stands there, or what stood there
takes no writes. -/
theorem filled_reaches {change : Nat → Bytes → Bool → Node} (hf : f.WellFormed)
    (hchange : ∀ s c r, (change s c r).isFile) (h : f.target p = .ok place) :
    ∃ n, (f.disk.node? place = some n ∨ n.isFile) ∧
      f.Reaches { f with disk := filled f.disk place change } fun q ↦
        if q = place then some n else f.disk.node? q := by
  obtain ⟨parent, last, rfl, hdir, hn⟩ := target_ok h
  have hnew : ∀ s c r t, change s c r ≠ .directory t := by
    intro s c r t ht
    have := hchange s c r
    rw [ht] at this
    cases this
  have hold : ∀ s, f.disk.node? (parent ++ [last]) ≠ some (.directory s) := by
    rcases hn with hn | hsolid
    · simp [hn]
    · exact hsolid.not_directory
  unfold filled
  cases hnode : f.disk.node? (parent ++ [last]) with
  | none =>
    have hfresh : Files.WellFormed { f with disk := f.disk.fresh.2 } :=
      ⟨hf.disk.fresh, Nat.lt_succ_of_lt hf.here⟩
    have hput := hfresh.put hdir (n := change f.disk.next [] false) hold (hnew _ _ _)
    exact ⟨_, Or.inr (hchange _ _ _), hput.wellFormed, hput.here, hput.shows⟩
  | some n =>
    simp only
    cases n.file? with
    | none =>
      refine ⟨n, Or.inl rfl, hf, rfl, fun q ↦ ?_⟩
      by_cases hq : q = parent ++ [last]
      · rw [if_pos hq, hq]
        exact hnode
      · rw [if_neg hq]
    | some r =>
      obtain ⟨serial, content, runnable⟩ := r
      exact ⟨_, Or.inr (hchange _ _ _), hf.put hdir hold (hnew _ _ _)⟩

/-- The content of a file is replaced under its own name. -/
theorem Locates.write_run (h : f.Locates p place last) (hf : f.WellFormed)
    (hslash : p.isSlashed = false) (hshort : ¬ nameLimit < last.length) {serial : Nat}
    {old : Bytes} {runnable : Bool}
    (hn : f.disk.node? (place ++ [last]) = some (.file serial old runnable)) (content : Bytes) :
    ∃ f', (write p content).runFrom f = (.ok (), f') ∧ f.Reaches f' fun q ↦
      if q = place ++ [last] then some (.file serial content runnable) else f.disk.node? q := by
  have htarget := h.target_eq hslash hshort (Or.inr ⟨_, hn, rfl⟩)
  refine ⟨_, by rw [write, alter, fill_run, htarget], ?_⟩
  have hfilled : filled f.disk (place ++ [last])
      (fun s _ r ↦ .file s content r) =
      f.disk.put (place ++ [last]) (.file serial content runnable) := by
    simp [filled, hn, Node.file?]
  rw [hfilled]
  exact hf.put h.isDirectory (fun s hs ↦ by rw [hn] at hs; cases hs) (by simp)

/-! ### Renaming and removing -/

/-- Moving a part of the tree to a place in a directory that was cleared. -/
private theorem WellFormed.replace {old new : Place} {disk : Disk} (hf : f.WellFormed)
    (ho : old ≠ []) (hne : new ≠ []) (hbelow : ¬ old <+: new) (habove : ¬ new <+: old)
    (hdir : f.disk.IsDirectory new.dropLast) (hdisk : disk.WellFormed)
    (hnext : disk.next = f.disk.next)
    (hcleared : ∀ q, disk.node? q = if new <+: q then none else f.disk.node? q) :
    f.Reaches { f with disk := disk.move old new } (f.disk.moved old new) where
  wellFormed := by
    obtain ⟨s, hs⟩ := hdir
    refine ⟨hdisk.move ho hne (by rw [hcleared, if_pos (List.prefix_refl _)]) hbelow ⟨s, ?_⟩, ?_⟩
    · rw [hcleared, if_neg (Place.not_below_parent hne), hs]
    · show f.here < disk.next
      rw [hnext]
      exact hf.here
  here := rfl
  shows q := by
    rw [hdisk.node?_move ho hne (by rw [hcleared, if_pos (List.prefix_refl _)])]
    by_cases hqn : new <+: q
    · obtain ⟨rest, rfl⟩ := hqn
      have hpart : ¬ new <+: old ++ rest := fun h ↦ by
        rcases List.prefix_or_prefix_of_prefix h (List.prefix_append old rest) with h | h
        · exact habove h
        · exact hbelow h
      rw [Disk.moved_append, Disk.moved_append, hcleared, if_neg hpart]
    · rw [Disk.moved, Disk.moved, if_neg hqn, if_neg hqn, hcleared, if_neg hqn]

/-- What is renamed stands under its old name. -/
theorem rename_ok_old {old new : Path} (hold : f.ending old = .ok (.entry place last))
    (h : (rename old new).runFrom f = (.ok (), f')) :
    ∃ n, f.disk.node? (place ++ [last]) = some n := by
  obtain ⟨disk, hc, -⟩ := edit_ok h
  cases hn : f.disk.node? (place ++ [last]) with
  | some n => exact ⟨n, rfl⟩
  | none =>
    cases hnew : f.ending new with
    | error cause => simp [hold, hnew, bind, Except.bind] at hc
    | ok e => cases e <;> simp [hold, hnew, hn, bind, Except.bind] at hc

/-- A directory holds nothing if and only if nothing stands right below it. -/
private theorem below_eq_nil_iff {d : Disk} (hd : d.WellFormed) :
    d.below place = [] ↔ ∀ name, d.node? (place ++ [name]) = none := by
  rw [Disk.below, List.filterMap_eq_nil_iff]
  constructor
  · intro h name
    cases hn : d.node? (place ++ [name]) with
    | none => rfl
    | some n =>
      rw [Disk.node?_eq_some_iff hd.nodup (by simp)] at hn
      simpa using h _ hn
  · rintro h ⟨q, n⟩ hmem
    cases hlast : q.getLast? with
    | none => simp [hlast]
    | some name =>
      obtain ⟨parent, rfl⟩ := List.getLast?_eq_some_iff.mp hlast
      have hq := h name
      rw [Disk.node?_eq_none_iff (by simp)] at hq
      have hne : parent ≠ place := fun he ↦ hq (he ▸ List.mem_map_of_mem hmem)
      simp [hne]

/-- From `f` the files came to `f'` by giving `n`, which stood at `source`, and all that is below it
the place `target`. -/
structure Renames (f f' : Files) (source target : Place) (n : Node) : Prop where
  /-- The node stood at the old place. -/
  stood : f.disk.node? source = some n
  /-- The new place is not below the old one. -/
  below : ¬ source <+: target
  /-- The old place is not below the new one. -/
  above : ¬ target <+: source
  /-- A directory takes the place of a directory, and a file that of a file or of a link. -/
  replaced : ∀ m, f.disk.node? target = some m → m.isDirectory = n.isDirectory
  /-- Nothing stood below the new place. -/
  free : ∀ rest, rest ≠ [] → f.disk.node? (target ++ rest) = none
  /-- What stood at the old place stands at the new one. -/
  reaches : f.Reaches f' (f.disk.moved source target)

namespace Renames

variable {source target : Place} {n : Node}

/-- What was renamed stands at the new place. -/
theorem arrived (h : f.Renames f' source target n) : f'.disk.node? target = some n := by
  have := h.reaches.shows (target ++ [])
  rwa [Disk.moved_append, List.append_nil, List.append_nil, h.stood] at this

/-- What stood outside of the old place stays, unless it gave way at the new one. -/
theorem stays (h : f.Renames f' source target n) {q : Place} {m : Node}
    (hm : f.disk.node? q = some m) (hsource : ¬ source <+: q) (hq : q ≠ target) :
    f'.disk.node? q = some m := by
  have htarget : ¬ target <+: q := by
    rintro ⟨rest, rfl⟩
    by_cases hrest : rest = []
    · simp [hrest] at hq
    · rw [h.free rest hrest] at hm
      cases hm
  rw [h.reaches.shows, Disk.moved_outside htarget hsource, hm]

end Renames

/-- The tree after a part of it was given another place, if that may be done. -/
private theorem renames_of_cleared {source target : Place} {n : Node} {disk : Disk}
    (hf : f.WellFormed) (ho : source ≠ []) (hne : target ≠ []) (hn : f.disk.node? source = some n)
    (hbelow : ¬ source <+: target) (habove : ¬ target <+: source)
    (hdir : f.disk.IsDirectory target.dropLast)
    (h : (match f.disk.node? target with
      | some (.directory _) =>
        if !n.isDirectory then throw .isDirectory
        else if f.disk.below target ≠ [] then throw .notEmpty
        else .ok ((f.disk.eraseTree target).move source target)
      | some _ =>
        if n.isDirectory then throw .notDirectory
        else .ok ((f.disk.erase target).move source target)
      | none => .ok (f.disk.move source target) : Except Cause Disk) = .ok disk) :
    f.Renames { f with disk } source target n := by
  split at h
  · next s hs =>
    cases hnode : n.isDirectory with
    | false => simp [hnode, throw, throwThe, MonadExceptOf.throw] at h
    | true =>
      by_cases hempty : f.disk.below target = []
      · simp only [hnode, hempty, Bool.not_true, Bool.false_eq_true, if_false, ne_eq,
          not_true_eq_false, Except.ok.injEq] at h
        subst h
        refine ⟨hn, hbelow, habove, fun m hm ↦ ?_, ?_, hf.replace ho hne hbelow habove hdir
          (hf.disk.eraseTree hne) rfl (Disk.node?_eraseTree f.disk hne)⟩
        · rw [hs, Option.some.injEq] at hm
          rw [← hm, hnode]
          rfl
        · rintro (_ | ⟨name, rest⟩) hrest
          · exact absurd rfl hrest
          · refine hf.disk.node?_beneath ((below_eq_nil_iff hf.disk).mp hempty name) ?_
            exact ⟨rest, by simp⟩
      · simp [hnode, hempty, throw, throwThe, MonadExceptOf.throw] at h
  · next m hfile hm =>
    have hgone : ∀ s, f.disk.node? target ≠ some (.directory s) := by
      intro s hs
      rw [hm, Option.some.injEq] at hs
      exact hfile s hs
    cases hnode : n.isDirectory with
    | true => simp [hnode, throw, throwThe, MonadExceptOf.throw] at h
    | false =>
      simp only [hnode, Bool.false_eq_true, if_false, Except.ok.injEq] at h
      subst h
      refine ⟨hn, hbelow, habove, fun m' hm' ↦ ?_, hf.disk.node?_below hgone,
        hf.replace ho hne hbelow habove hdir (hf.disk.erase hne hgone) rfl fun q ↦ ?_⟩
      · rw [hm, Option.some.injEq] at hm'
        subst hm'
        rw [hnode]
        cases m with
        | directory s => exact absurd rfl (hfile s)
        | _ => rfl
      · rw [Disk.node?_erase f.disk hne]
        by_cases hq : target <+: q
        · obtain ⟨rest, rfl⟩ := hq
          by_cases hrest : rest = []
          · simp [hrest]
          · simp [hrest, hf.disk.node?_below hgone rest hrest]
        · rw [if_neg hq, if_neg]
          rintro rfl
          exact hq (List.prefix_refl _)
  · next hnone =>
    rw [Except.ok.injEq] at h
    subst h
    refine ⟨hn, hbelow, habove, fun m hm ↦ ?_, fun rest _ ↦ ?_, hf.replace ho hne hbelow habove
      hdir hf.disk rfl fun q ↦ ?_⟩
    · rw [hnone] at hm
      cases hm
    · exact hf.disk.node?_beneath hnone (List.prefix_append _ _)
    · split
      · next hq => exact hf.disk.node?_beneath hnone hq
      · rfl

/-- What is renamed stands under its new name with all that is below it, in place of what stood
there; what is renamed to itself stays. -/
theorem rename_renames {old new : Path} (hf : f.WellFormed)
    (hold : f.ending old = .ok (.entry place last))
    (h : (rename old new).runFrom f = (.ok (), f')) :
    ∃ n place' last', f.disk.node? (place ++ [last]) = some n ∧
      f.ending new = .ok (.entry place' last') ∧ ¬ nameLimit < last'.length ∧
      (place ++ [last] = place' ++ [last'] ∧ f' = f ∨
        f.Renames f' (place ++ [last]) (place' ++ [last']) n) := by
  obtain ⟨n, hn⟩ := rename_ok_old hold h
  obtain ⟨disk, hc, rfl⟩ := edit_ok h
  obtain ⟨place', last', hnew⟩ : ∃ place' last', f.ending new = .ok (.entry place' last') := by
    cases hnew : f.ending new with
    | error cause => simp [hold, hnew, bind, Except.bind] at hc
    | ok e =>
      cases e with
      | entry place' last' => exact ⟨place', last', rfl⟩
      | _ => simp [hold, hnew, bind, Except.bind] at hc
  simp only [hold, bind, Except.bind] at hc
  simp only [hnew, hn] at hc
  have hdir : f.disk.IsDirectory (place' ++ [last']).dropLast := by
    rw [List.dropLast_concat]
    exact isDirectory_of_ending hnew
  by_cases hshort : nameLimit < last'.length
  · rw [if_pos hshort] at hc
    cases hc
  rw [if_neg hshort] at hc
  refine ⟨n, place', last', hn, hnew, hshort, ?_⟩
  by_cases hslash : (!n.isDirectory && (old.isSlashed || new.isSlashed)) = true
  · rw [if_pos hslash] at hc
    cases hc
  rw [if_neg hslash] at hc
  by_cases heq : place ++ [last] = place' ++ [last']
  · rw [if_pos heq] at hc
    cases hc
    exact Or.inl ⟨heq, rfl⟩
  rw [if_neg heq] at hc
  by_cases hbelow : place ++ [last] <+: place' ++ [last']
  · rw [if_pos hbelow] at hc
    cases hc
  rw [if_neg hbelow] at hc
  by_cases habove : place' ++ [last'] <+: place ++ [last]
  · rw [if_pos habove] at hc
    cases hc
  rw [if_neg habove] at hc
  refine Or.inr (renames_of_cleared hf (by simp) (by simp) hn hbelow habove hdir ?_)
  rw [← hc]
  cases f.disk.node? (place' ++ [last']) with
  | none => rfl
  | some m => cases m <;> rfl

/-- A renamed file stands under its new name alone, in place of what stood there. -/
theorem rename_ok {old new : Path} {n : Node} (hf : f.WellFormed)
    (hold : f.ending old = .ok (.entry place last)) (hn : f.disk.node? (place ++ [last]) = some n)
    (hfile : ∀ s, n ≠ .directory s) (h : (rename old new).runFrom f = (.ok (), f')) :
    ∃ place' last', f.ending new = .ok (.entry place' last') ∧ ¬ nameLimit < last'.length ∧
      (∀ s, f.disk.node? (place' ++ [last']) ≠ some (.directory s)) ∧ f.Reaches f' fun q ↦
        if q = place' ++ [last'] then some n
        else if q = place ++ [last] then none else f.disk.node? q := by
  have hsource : ∀ s, f.disk.node? (place ++ [last]) ≠ some (.directory s) := by
    intro s hs
    rw [hn, Option.some.injEq] at hs
    exact hfile s hs
  obtain ⟨m, place', last', hm, hnew, hshort, hrenamed⟩ := rename_renames hf hold h
  obtain rfl := Option.some.inj (hn.symm.trans hm)
  refine ⟨place', last', hnew, hshort, ?_⟩
  rcases hrenamed with ⟨heq, rfl⟩ | hr
  · rw [← heq]
    refine ⟨hsource, hf, rfl, fun q ↦ ?_⟩
    by_cases hq : q = place ++ [last]
    · rw [if_pos hq, hq, hn]
    · rw [if_neg hq, if_neg hq]
  · refine ⟨fun s hs ↦ ?_, hr.reaches.wellFormed, hr.reaches.here, fun q ↦ ?_⟩
    · have := hr.replaced _ hs
      cases n with
      | directory s => exact hfile s rfl
      | _ => cases this
    · rw [hr.reaches.shows, hf.disk.moved_eq hn hfile hr.above hr.free]

/-- How renaming what is no directory ends depends on where both paths end and on whether a
directory stands under the new name. -/
theorem rename_answer {old new : Path} {n : Node} {place' : Place} {last' : Bytes}
    (hold : f.ending old = .ok (.entry place last))
    (hnew : f.ending new = .ok (.entry place' last'))
    (hn : f.disk.node? (place ++ [last]) = some n) (hfile : n.isDirectory = false) :
    ((rename old new).runFrom f).1 =
      if nameLimit < last'.length then .error .tooLong
      else if old.isSlashed || new.isSlashed then .error .notDirectory
      else if place ++ [last] = place' ++ [last'] then .ok ()
      else if place ++ [last] <+: place' ++ [last'] then .error .invalid
      else if place' ++ [last'] <+: place ++ [last] then .error .notEmpty
      else if (f.disk.node? (place' ++ [last'])).any Node.isDirectory then .error .isDirectory
      else .ok () := by
  simp only [rename, edit, Act.runFrom_ofRun, hold, hnew, hn, hfile, bind, Except.bind,
    Bool.not_false, Bool.true_and]
  by_cases hlong : nameLimit < last'.length
  · simp only [if_pos hlong]
    rfl
  by_cases hslash : (old.isSlashed || new.isSlashed) = true
  · simp only [if_neg hlong, if_pos hslash]
    rfl
  by_cases hsame : place ++ [last] = place' ++ [last']
  · simp only [if_neg hlong, if_neg hslash, if_pos hsame]
    rfl
  by_cases hbelow : place ++ [last] <+: place' ++ [last']
  · simp only [if_neg hlong, if_neg hslash, if_neg hsame, if_pos hbelow]
    rfl
  by_cases habove : place' ++ [last'] <+: place ++ [last]
  · simp only [if_neg hlong, if_neg hslash, if_neg hsame, if_neg hbelow, if_pos habove]
    rfl
  simp only [if_neg hlong, if_neg hslash, if_neg hsame, if_neg hbelow, if_neg habove]
  cases f.disk.node? (place' ++ [last']) with
  | none => rfl
  | some m => cases m <;> rfl

/-- A file under a located name can be removed. -/
theorem removeFile_run {n : Node} (hf : f.WellFormed)
    (h : f.ending p = .ok (.entry place last)) (hslash : p.isSlashed = false)
    (hn : f.disk.node? (place ++ [last]) = some n) (hfile : ∀ s, n ≠ .directory s) :
    ∃ f', (removeFile p).runFrom f = (.ok (), f') ∧ f.Reaches f' fun q ↦
      if q = place ++ [last] then none else f.disk.node? q := by
  refine ⟨{ f with disk := f.disk.erase (place ++ [last]) }, ?_, ?_, rfl,
    Disk.node?_erase f.disk (by simp)⟩
  · apply edit_run
    simp only [h, bind, Except.bind, hn, hslash, Bool.false_eq_true, if_false]
  · refine ⟨hf.disk.erase (by simp) fun s hs ↦ ?_, hf.here⟩
    rw [hn, Option.some.injEq] at hs
    exact hfile s hs

/-- The files when the directory at `place` is emptied. -/
def emptyAt (f : Files) (place : Place) (serial : Nat) : Files :=
  { f with disk := (f.disk.eraseTree place).put place (.directory serial) }

theorem WellFormed.emptyAt {serial : Nat} (hf : f.WellFormed) (hdir : f.disk.IsDirectory place)
    (hn : f.disk.node? (place ++ [last]) = some (.directory serial)) :
    f.Reaches (f.emptyAt (place ++ [last]) serial) fun q ↦
      if q = place ++ [last] then some (.directory serial)
      else if place ++ [last] <+: q then none else f.disk.node? q := by
  have hne : place ++ [last] ≠ [] := by simp
  have herase := Disk.node?_eraseTree f.disk hne
  refine ⟨⟨(hf.disk.eraseTree hne).put hne ?_ ?_ ?_, hf.here⟩, rfl, fun q ↦ ?_⟩
  · obtain ⟨s, hs⟩ := hdir
    exact ⟨s, by rw [List.dropLast_concat, herase, if_neg (place.not_below_self last), hs]⟩
  · exact fun s _ ↦ ⟨serial, rfl⟩
  · intro s hs
    rw [Node.directory.injEq] at hs
    subst hs
    refine ⟨hf.disk.used _ _ hn, fun q hq ↦ ?_⟩
    rw [herase] at hq
    split at hq
    · cases hq
    · exact hf.disk.serial _ _ _ hq hn
  · rw [Files.emptyAt, Disk.node?_put _ hne, herase]

/-- What is no link is emptied first when it is removed with all that it holds. -/
private theorem removeTree_eq (hlink : f.isOwnLink p = false) :
    (removeTree p).runFrom f = (clear p >>= fun _ ↦ removeDirectory p).runFrom f := by
  rw [removeTree, Act.runFrom_bind_ok (Act.runFrom_reads _ _), hlink]
  rfl

/-- A directory that a path locates is emptied, and then the empty one is removed. -/
private theorem removeTree_run_of_locates {serial : Nat} (h : f.Locates p place last)
    (hshort : ¬ nameLimit < last.length)
    (hn : f.disk.node? (place ++ [last]) = some (.directory serial)) :
    (removeTree p).runFrom f =
      (removeDirectory p).runFrom (f.emptyAt (place ++ [last]) serial) := by
  have hlink : f.isOwnLink p = false := by
    rw [isOwnLink, h.ownNode_eq hshort hn (by simp) (Or.inr rfl)]
  have hclear : (clear p).runFrom f = (.ok (), f.emptyAt (place ++ [last]) serial) := by
    refine edit_run ?_
    simp [h.place_eq hshort hn (by simp) (Or.inr rfl), hn, bind, Except.bind]
  rw [removeTree_eq hlink, Act.runFrom_bind_ok hclear]

section RemoveTree

variable {serial : Nat} (hf : f.WellFormed)

include hf

/-- A directory is removed with all that it holds. Its path must lead to it even when it is
emptied. -/
theorem removeTree_run (h : f.Locates p place last) (hshort : ¬ nameLimit < last.length)
    (hn : f.disk.node? (place ++ [last]) = some (.directory serial))
    (hempty : (f.emptyAt (place ++ [last]) serial).Locates p place last) :
    ∃ f', (removeTree p).runFrom f = (.ok (), f') ∧ f.Reaches f' fun q ↦
      if place ++ [last] <+: q then none else f.disk.node? q := by
  have hne : place ++ [last] ≠ [] := by simp
  have hreaches := hf.emptyAt h.isDirectory hn
  have hn' := hreaches.shows (place ++ [last])
  rw [if_pos rfl] at hn'
  have hbelow : (f.emptyAt (place ++ [last]) serial).disk.below (place ++ [last]) = [] := by
    refine (below_eq_nil_iff hreaches.wellFormed.disk).mpr fun name ↦ ?_
    rw [hreaches.shows, if_neg (by simp), if_pos (List.prefix_append _ _)]
  refine ⟨{ f.emptyAt (place ++ [last]) serial with
    disk := (f.emptyAt (place ++ [last]) serial).disk.eraseTree (place ++ [last]) },
    ?_, ?_, hreaches.here, fun q ↦ ?_⟩
  · rw [removeTree_run_of_locates h hshort hn]
    refine edit_run ?_
    simp [hempty.ending, hn', hbelow, bind, Except.bind]
  · exact ⟨hreaches.wellFormed.disk.eraseTree hne, hreaches.wellFormed.here⟩
  · rw [Disk.node?_eraseTree _ hne, hreaches.shows]
    split
    · rfl
    · next hq =>
      have hne : q ≠ place ++ [last] := by
        rintro rfl
        exact hq (List.prefix_refl _)
      rw [if_neg hne]

/-- How removing a directory can end, if its path leads to it or into a file: it is removed with all
that it holds, or emptied because nothing leads to it then, or left. -/
theorem removeTree_cases (h : f.Locates p place last ∨ f.Blocked p)
    (hshort : ¬ nameLimit < last.length)
    (hn : f.disk.node? (place ++ [last]) = some (.directory serial))
    (hdir : f.disk.IsDirectory place)
    (hempty : (f.emptyAt (place ++ [last]) serial).Locates p place last ∨
      (f.emptyAt (place ++ [last]) serial).Blocked p) :
    (f.Locates p place last ∧ (f.emptyAt (place ++ [last]) serial).Locates p place last ∧
        f.Reaches ((removeTree p).runFrom f).2 fun q ↦
          if place ++ [last] <+: q then none else f.disk.node? q) ∨
      (f.Locates p place last ∧ (f.emptyAt (place ++ [last]) serial).Blocked p ∧
        f.Reaches ((removeTree p).runFrom f).2 fun q ↦
          if q = place ++ [last] then some (.directory serial)
          else if place ++ [last] <+: q then none else f.disk.node? q) ∨
      f.Blocked p ∧ ((removeTree p).runFrom f).2 = f := by
  rcases h with h | h
  · rcases hempty with hlocates | hblocked
    · obtain ⟨f', hrun, hreaches⟩ := removeTree_run hf h hshort hn hlocates
      exact Or.inl ⟨h, hlocates, by rwa [hrun]⟩
    · -- the directory is empty, and nothing leads to it any more
      have hlast : ((removeDirectory p).runFrom (f.emptyAt (place ++ [last]) serial)).2 =
          f.emptyAt (place ++ [last]) serial := by
        simp [removeDirectory, edit, hblocked.ending, bind, Except.bind]
      refine Or.inr (Or.inl ⟨h, hblocked, ?_⟩)
      rw [removeTree_run_of_locates h hshort hn, hlast]
      exact hf.emptyAt hdir hn
  · have hclear : (clear p).runFrom f = (.error .notDirectory, f) := by
      simp [clear, edit, h.place_eq hf, bind, Except.bind]
    exact Or.inr (Or.inr ⟨h, by
      rw [removeTree_eq h.isOwnLink, Act.runFrom_bind_error hclear]⟩)

/-- Whether a directory can be removed or not, what is not below it stays. Its path must lead to it
or into a file. -/
theorem removeTree_within (h : f.Locates p place last ∨ f.Blocked p)
    (hshort : ¬ nameLimit < last.length)
    (hn : f.disk.node? (place ++ [last]) = some (.directory serial))
    (hdir : f.disk.IsDirectory place)
    (hempty : (f.emptyAt (place ++ [last]) serial).Locates p place last ∨
      (f.emptyAt (place ++ [last]) serial).Blocked p) :
    ((removeTree p).runFrom f).2.WellFormed ∧ ((removeTree p).runFrom f).2.here = f.here ∧
      ∀ q, ¬ place ++ [last] <+: q →
        ((removeTree p).runFrom f).2.disk.node? q = f.disk.node? q := by
  rcases removeTree_cases hf h hshort hn hdir hempty with
    ⟨-, -, hreaches⟩ | ⟨-, -, hreaches⟩ | ⟨-, hsame⟩
  · exact ⟨hreaches.wellFormed, hreaches.here, fun q hq ↦ (hreaches.shows q).trans (if_neg hq)⟩
  · refine ⟨hreaches.wellFormed, hreaches.here, fun q hq ↦ ?_⟩
    have hne : q ≠ place ++ [last] := by
      rintro rfl
      exact hq (List.prefix_refl _)
    rw [hreaches.shows, if_neg hne, if_neg hq]
  · rw [hsame]
    exact ⟨hf, rfl, fun _ _ ↦ rfl⟩

end RemoveTree

end KernelForge.Files
