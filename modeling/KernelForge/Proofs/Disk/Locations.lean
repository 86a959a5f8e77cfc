import KernelForge.Disk.Files
import KernelForge.Proofs.Disk.Ways

/-!
# Where paths lead

A path locates a name in a directory if its lookup starts at a place and all steps but the last lead
to that directory. While directories stay, it locates the same name or runs into a file. Main
statements: `Locates.keeps`, `Locates.extends`, and what a path leads to once its name is known
(`Locates.node_eq`, `Blocked.spot_eq`).
-/

namespace KernelForge

namespace Disk

variable {d : Disk} {links : Nat} {here q : Place} {s : Nat}

/-- The directory with a serial number is found where it stands. -/
theorem WellFormed.placeOf?_eq_some_iff (hd : d.WellFormed) :
    d.placeOf? s = some q ↔ d.node? q = some (.directory s) := by
  constructor
  · intro h
    unfold placeOf? at h
    split at h
    · next hs =>
      rw [Option.some.injEq] at h
      rw [← h, hs, node?_nil]
    · obtain ⟨⟨q', n⟩, hfind, rfl⟩ := Option.map_eq_some_iff.mp h
      have hmem := List.mem_of_find?_eq_some hfind
      have hn : n = .directory s := by simpa using List.find?_some hfind
      have hq : q' ≠ [] := fun hnil ↦ hd.root (hnil ▸ List.mem_map_of_mem hmem)
      rw [node?_eq_some_iff hd.nodup hq, ← hn]
      exact hmem
  · intro h
    unfold placeOf?
    split
    · next hs =>
      subst hs
      rw [hd.serial [] q _ (node?_nil d) h]
    · next hs =>
      have hq : q ≠ [] := by
        rintro rfl
        rw [node?_nil, Option.some.injEq, Node.directory.injEq] at h
        exact hs h.symm
      have hmem := (node?_eq_some_iff hd.nodup hq).mp h
      cases hfind : d.nodes.find? fun entry ↦ entry.2 = .directory s with
      | none => simpa using List.find?_eq_none.mp hfind _ hmem
      | some e =>
        obtain ⟨q', n⟩ := e
        have hmem' := List.mem_of_find?_eq_some hfind
        have hn : n = .directory s := by simpa using List.find?_some hfind
        have hq' : q' ≠ [] := fun hnil ↦ hd.root (hnil ▸ List.mem_map_of_mem hmem')
        rw [hn] at hmem'
        have := hd.serial q' q s ((node?_eq_some_iff hd.nodup hq').mpr hmem') h
        simp [this]

/-- A lookup through two lists of steps is a lookup through the one and then the other. -/
theorem walk_append (d : Disk) (links : Nat) (here : Place) (xs ys : List Bytes) :
    d.walk links here (xs ++ ys) =
      match d.walk links here xs with
      | .ok (place, links) => d.walk links place ys
      | .error cause => .error cause := by
  induction links, here, xs using walk.induct d with
  | case1 links here => simp
  | case2 links here rest s hs ih => rw [List.cons_append, walk_dot hs, walk_dot hs, ih]
  | case3 links here rest s hs _ ih => rw [List.cons_append, walk_dotDot hs, walk_dotDot hs, ih]
  | case4 links here segment rest s hs h1 h2 h3 =>
    rw [List.cons_append, walk_long hs h1 h2 h3, walk_long hs h1 h2 h3]
  | case5 links here segment rest s hs h1 h2 h3 hn =>
    rw [List.cons_append, walk_missing hs h1 h2 h3 hn, walk_missing hs h1 h2 h3 hn]
  | case6 here segment rest s hs h1 h2 h3 t hn =>
    rw [List.cons_append, walk_tooManyLinks hs h1 h2 h3 hn, walk_tooManyLinks hs h1 h2 h3 hn]
  | case7 here segment rest s hs h1 h2 h3 t hn links ih =>
    rw [List.cons_append, walk_link hs h1 h2 h3 hn, walk_link hs h1 h2 h3 hn, ← List.append_assoc]
    exact ih
  | case8 links here segment rest s hs h1 h2 h3 n hlink hn ih =>
    rw [List.cons_append, walk_name hs h1 h2 h3 hn hlink, walk_name hs h1 h2 h3 hn hlink, ih]
  | case9 links here segment rest hs =>
    rw [List.cons_append, walk_solid hs, walk_solid hs]

/-- A name is found in a directory, and is no dots. -/
theorem entry_of_ending {spot : Spot} {p : Path} {place : Place} {last : Bytes} {left : Nat}
    (h : d.ending links spot p = .ok (.entry place last, left)) :
    d.IsDirectory place ∧ last = p.segments.getLast?.getD Path.dot ∧ last ≠ Path.dot ∧
      last ≠ Path.dotDot := by
  simp only [ending, bind, Except.bind] at h
  split at h
  · cases h
  · next r _ =>
    obtain ⟨spot', links'⟩ := r
    cases spot' with
    | removed serial =>
      simp only at h
      split at h
      · simp at h
      · split at h <;> simp at h
    | place q =>
      simp only at h
      split at h
      · cases h
      · next hserial =>
        split at h
        · simp at h
        · split at h
          · simp at h
          · next hdot hdotDot =>
            simp only [Except.ok.injEq, Prod.mk.injEq, Ending.entry.injEq] at h
            obtain ⟨⟨rfl, rfl⟩, rfl⟩ := h
            refine ⟨?_, rfl, hdot, hdotDot⟩
            unfold serialAt? at hserial
            split at hserial
            · next s hs => exact ⟨s, hs⟩
            · simp at hserial

end Disk

namespace Files

variable {f f' : Files} {p p' : Path} {here place : Place} {last last' : Bytes}

/-! ### Starts -/

/-- A lookup starts at the root or in the current directory. -/
theorem start_eq_ok {spot : Spot} (h : f.start p = .ok spot) :
    spot = if p.isAbsolute then .place [] else f.disk.spotOf f.here := by
  unfold start at h
  split at h
  · cases h
  · split at h
    · cases h
    · split at h
      · cases h
      · split at h <;> (rw [Except.ok.injEq] at h; simp_all)

/-- Whether a lookup can start depends on the path alone. -/
theorem start_eq_error {cause : Cause} (h : f.start p = .error cause) (f' : Files) :
    f'.start p = .error cause := by
  unfold start at h ⊢
  repeat' split at h
  all_goals simp_all

/-- Whether a lookup can start depends on the path alone. -/
theorem start_isOk {spot : Spot} (h : f.start p = .ok spot) (f' : Files) :
    f'.start p = .ok (if p.isAbsolute then .place [] else f'.disk.spotOf f'.here) := by
  unfold start at h ⊢
  repeat' split at h
  all_goals simp_all

theorem start_place (hf : f.WellFormed) (h : f.start p = .ok (.place here)) :
    here = [] ∧ p.isAbsolute ∨
      p.isAbsolute = false ∧ f.disk.node? here = some (.directory f.here) := by
  have := start_eq_ok h
  by_cases ha : p.isAbsolute
  · rw [if_pos ha, Spot.place.injEq] at this
    exact Or.inl ⟨this, ha⟩
  · rw [if_neg ha, Disk.spotOf] at this
    split at this
    · next q hq =>
      rw [Spot.place.injEq] at this
      rw [hf.disk.placeOf?_eq_some_iff] at hq
      exact Or.inr ⟨by simpa using ha, this ▸ hq⟩
    · cases this

/-- A lookup starts in a directory. -/
theorem isDirectory_of_start (hf : f.WellFormed) (h : f.start p = .ok (.place here)) :
    f.disk.IsDirectory here := by
  rcases start_place hf h with ⟨rfl, -⟩ | ⟨-, h⟩
  · exact ⟨_, Disk.node?_nil _⟩
  · exact ⟨_, h⟩

/-- While directories stay, a lookup starts where it started. -/
theorem start_keeps (hf : f.WellFormed) (hf' : f'.WellFormed) (hhere : f'.here = f.here)
    (hk : ∀ s, f.disk.node? here = some (.directory s) → f'.disk.node? here = some (.directory s))
    (h : f.start p = .ok (.place here)) : f'.start p = .ok (.place here) := by
  rw [start_isOk h f']
  rcases start_place hf h with ⟨rfl, ha⟩ | ⟨ha, hs⟩
  · rw [if_pos ha]
  · have := (hf'.disk.placeOf?_eq_some_iff).mpr (hhere ▸ hk _ hs)
    simp [ha, Disk.spotOf, this]

/-! ### Located names -/

/-- The lookup of `p` starts at a place, and all its steps but the last lead to the directory
`place`; the last one is the name `last`. -/
def Locates (f : Files) (p : Path) (place : Place) (last : Bytes) : Prop :=
  ∃ here left, f.start p = .ok (.place here) ∧
    f.disk.ending linkLimit (.place here) p = .ok (.entry place last, left)

/-- The lookup of `p` starts at a place and runs into a file before its last step. -/
def Blocked (f : Files) (p : Path) : Prop :=
  ∃ here, f.start p = .ok (.place here) ∧
    f.disk.ending linkLimit (.place here) p = .error .notDirectory

/-- The name `p` itself, and not what a link under it leads to, is that of the place `q`. -/
def Names (f : Files) (p : Path) (q : Place) : Prop :=
  ∃ place last, f.ending p = .ok (.entry place last) ∧ q = place ++ [last]

/-- The last step of a path whose lookup starts at a place. -/
theorem ending_of_start (h : f.start p = .ok (.place here)) :
    f.ending p = (f.disk.ending linkLimit (.place here) p).map Prod.fst := by
  simp only [ending, h, bind, Except.bind]
  cases f.disk.ending linkLimit (.place here) p <;> rfl

/-- A name that is found is found in a directory. -/
theorem isDirectory_of_ending (h : f.ending p = .ok (.entry place last)) :
    f.disk.IsDirectory place := by
  simp only [ending, bind, Except.bind] at h
  split at h
  · cases h
  · split at h
    · cases h
    · next r hr =>
      obtain ⟨e, left⟩ := r
      simp only [pure, Except.pure, Except.ok.injEq] at h
      subst h
      exact (Disk.entry_of_ending hr).1

theorem start_of_ending {e : Ending} (h : f.ending p = .ok e) : ∃ spot, f.start p = .ok spot := by
  cases hs : f.start p with
  | ok spot => exact ⟨spot, rfl⟩
  | error cause => simp [ending, hs, bind, Except.bind] at h

theorem locates_of_ending (hstart : f.start p = .ok (.place here))
    (h : f.ending p = .ok (.entry place last)) : f.Locates p place last := by
  rw [ending_of_start hstart] at h
  cases he : f.disk.ending linkLimit (.place here) p with
  | error cause => simp [he, Except.map] at h
  | ok r =>
    obtain ⟨e, left⟩ := r
    simp only [he, Except.map, Except.ok.injEq] at h
    exact ⟨here, left, hstart, h ▸ he⟩

theorem locates_of_isAbsolute (ha : p.isAbsolute) (h : f.ending p = .ok (.entry place last)) :
    f.Locates p place last := by
  cases hs : f.start p with
  | error cause => simp [ending, hs, bind, Except.bind] at h
  | ok spot =>
    have := start_isOk hs f
    rw [if_pos ha] at this
    exact locates_of_ending this h

/-- Where the current directory is there, every name is found from a place. -/
theorem locates_of_spotOf (hplace : p.isAbsolute ∨ ∃ here, f.disk.spotOf f.here = .place here)
    (h : f.ending p = .ok (.entry place last)) : f.Locates p place last := by
  rcases hplace with ha | ⟨here, hhere⟩
  · exact locates_of_isAbsolute ha h
  · by_cases ha : p.isAbsolute
    · exact locates_of_isAbsolute ha h
    · cases hs : f.start p with
      | error cause => simp [Files.ending, hs, bind, Except.bind] at h
      | ok spot =>
        have := start_isOk hs f
        rw [if_neg ha, hhere] at this
        exact locates_of_ending this h

theorem spotOf_keeps (hf : f.WellFormed) (hf' : f'.WellFormed) (hhere : f'.here = f.here)
    (hk : ∀ s, f.disk.node? here = some (.directory s) → f'.disk.node? here = some (.directory s))
    (h : f.disk.spotOf f.here = .place here) : f'.disk.spotOf f'.here = .place here := by
  unfold Disk.spotOf at h
  split at h
  · next q hq =>
    rw [Spot.place.injEq] at h
    rw [hf.disk.placeOf?_eq_some_iff, h] at hq
    have := (hf'.disk.placeOf?_eq_some_iff).mpr (hhere ▸ hk _ hq)
    simp [Disk.spotOf, this]
  · cases h

theorem Blocked.ending (h : f.Blocked p) : f.ending p = .error .notDirectory := by
  obtain ⟨here, hs, he⟩ := h
  rw [ending_of_start hs, he]
  rfl

namespace Locates

theorem ending (h : f.Locates p place last) : f.ending p = .ok (.entry place last) := by
  obtain ⟨here, left, hs, he⟩ := h
  rw [ending_of_start hs, he]
  rfl

theorem isDirectory (h : f.Locates p place last) : f.disk.IsDirectory place := by
  obtain ⟨here, left, -, he⟩ := h
  exact (Disk.entry_of_ending he).1

theorem last_eq (h : f.Locates p place last) : last = p.segments.getLast?.getD Path.dot := by
  obtain ⟨here, left, -, he⟩ := h
  exact (Disk.entry_of_ending he).2.1

/-- An absolute path locates its name from the root. -/
theorem ending_root (h : f.Locates p place last) (ha : p.isAbsolute) :
    ∃ left, f.disk.ending linkLimit (.place []) p = .ok (.entry place last, left) := by
  obtain ⟨here, left, hs, he⟩ := h
  have := start_eq_ok hs
  rw [if_pos ha, Spot.place.injEq] at this
  exact ⟨left, this ▸ he⟩

/-- While directories stay and links give way to files at most, the name is located where it was, or
a file is in the way. -/
theorem keeps (h : f.Locates p place last) (hf : f.WellFormed) (hf' : f'.WellFormed)
    (hhere : f'.here = f.here) (hk : f.disk.Keeps f'.disk) :
    f'.Locates p place last ∨ f'.Blocked p := by
  obtain ⟨here, left, hs, he⟩ := h
  have hs' := start_keeps hf hf' hhere (hk.directory here) hs
  rcases Disk.ending_keeps hf.disk hk (isDirectory_of_start hf hs).stands he with h | h
  · exact Or.inl ⟨here, left, hs', h⟩
  · exact Or.inr ⟨here, hs', h⟩

/-- While directories and links stay, the name is located where it was. -/
theorem «extends» (h : f.Locates p place last) (hf : f.WellFormed) (hf' : f'.WellFormed)
    (hhere : f'.here = f.here) (he : f.disk.Extends f'.disk) : f'.Locates p place last := by
  obtain ⟨here, left, hs, hend⟩ := h
  have hs' := start_keeps hf hf' hhere (fun s hs ↦ he here _ hs rfl) hs
  exact ⟨here, left, hs', Disk.ending_extends he hend⟩

/-- A path with the same steps but the last locates its name in the same directory. -/
theorem sibling (h : f.Locates p place last) (habs : p'.isAbsolute = p.isAbsolute)
    (hway : p'.segments.dropLast = p.segments.dropLast)
    (hlast : p'.segments.getLast? = some last') (hdot : last' ≠ Path.dot)
    (hdotDot : last' ≠ Path.dotDot) {spot : Spot} (hstart : f.start p' = .ok spot) :
    f.Locates p' place last' := by
  obtain ⟨here, left, hs, he⟩ := h
  have hs' : f.start p' = .ok (.place here) := by
    rw [start_isOk hstart f, habs, ← start_eq_ok hs]
  obtain ⟨q, hw, ⟨s, hdir⟩, hend⟩ := Disk.ending_eq_ok he
  obtain ⟨rfl, -⟩ := Disk.endingAt_eq_entry hend
  refine ⟨here, left, hs', Disk.ending_of_walk (hway ▸ hw) ?_⟩
  simp [Disk.endingAt, Disk.serialAt?_eq_some hdir, hlast, hdot, hdotDot]

end Locates

/-- A path that runs into a file goes on to do so. -/
theorem Blocked.keeps (h : f.Blocked p) (hf : f.WellFormed) (hf' : f'.WellFormed)
    (hhere : f'.here = f.here) (hk : f.disk.Keeps f'.disk) : f'.Blocked p := by
  obtain ⟨here, hs, he⟩ := h
  have hs' := start_keeps hf hf' hhere (hk.directory here) hs
  exact ⟨here, hs', Disk.ending_keeps_error hf.disk hk (isDirectory_of_start hf hs).stands he⟩

/-- A path with the same steps but the last runs into the same file. -/
theorem Blocked.sibling (h : f.Blocked p) (habs : p'.isAbsolute = p.isAbsolute)
    (hway : p'.segments.dropLast = p.segments.dropLast) {spot : Spot}
    (hstart : f.start p' = .ok spot) : f.Blocked p' := by
  obtain ⟨here, hs, he⟩ := h
  have hs' : f.start p' = .ok (.place here) := by
    rw [start_isOk hstart f, habs, ← start_eq_ok hs]
  refine ⟨here, hs', ?_⟩
  rw [Disk.ending_eq] at he ⊢
  rw [hway]
  cases hw : f.disk.walk linkLimit here p.segments.dropLast with
  | error cause => simpa [hw] using he
  | ok r =>
    obtain ⟨place, left⟩ := r
    simp only [hw] at he ⊢
    have hnodir : ∀ s, f.disk.node? place ≠ some (.directory s) :=
      fun s hdir ↦ Disk.endingAt_map_ne ⟨s, hdir⟩ _ _ he
    simp [Disk.endingAt, Disk.serialAt?_eq_none hnodir, Except.map]

/-! ### Where two trees have the same directories and links -/

section Same

variable {d d' : Disk} (hd : d.WellFormed) (hd' : d'.WellFormed) (he : d.Extends d')
  (he' : d'.Extends d)

include hd hd' he he'

private theorem spotOf_same (serial : Nat) : d'.spotOf serial = d.spotOf serial := by
  have hplace : d'.placeOf? serial = d.placeOf? serial := by
    refine Option.ext fun q ↦ ?_
    rw [hd'.placeOf?_eq_some_iff, hd.placeOf?_eq_some_iff]
    exact ⟨fun hs ↦ he' q _ hs rfl, fun hs ↦ he q _ hs rfl⟩
  rw [Disk.spotOf, Disk.spotOf, hplace]

private theorem leave_same (hremoved : d'.removed = d.removed) (serial : Nat) (todo : List Bytes) :
    d'.leave serial todo = d.leave serial todo := by
  induction todo generalizing serial with
  | nil => rfl
  | cons segment rest ih =>
    simp only [Disk.leave, ih, hremoved, spotOf_same hd hd' he he']

end Same

/-- Where two trees have the same directories and links, and remember the same directories that were
removed, the last step of a path is the same. -/
theorem ending_same (hf : f.WellFormed) (hf' : f'.WellFormed) (hhere : f'.here = f.here)
    (hremoved : f'.disk.removed = f.disk.removed) (he : f.disk.Extends f'.disk)
    (he' : f'.disk.Extends f.disk) {e : Ending} (h : f.ending p = .ok e) : f'.ending p = .ok e := by
  obtain ⟨spot, hstart⟩ := start_of_ending h
  have hstart' : f'.start p = .ok spot := by
    rw [start_isOk hstart f', hhere, spotOf_same hf.disk hf'.disk he he', ← start_eq_ok hstart]
  cases spot with
  | place here =>
    rw [ending_of_start hstart] at h
    rw [ending_of_start hstart']
    cases hend : f.disk.ending linkLimit (.place here) p with
    | error cause => simp [hend, Except.map] at h
    | ok r => rwa [Disk.ending_extends he hend, ← hend]
  | removed serial =>
    have hleave := leave_same hf.disk hf'.disk he he' hremoved serial p.segments.dropLast
    simp only [Files.ending, hstart, hstart', Disk.ending, Disk.reach, hleave, bind,
      Except.bind] at h ⊢
    cases hl : f.disk.leave serial p.segments.dropLast with
    | error cause => simp [hl] at h
    | ok r =>
      obtain ⟨spot, rest⟩ := r
      simp only [hl] at h ⊢
      cases spot with
      | removed serial' => exact h
      | place here =>
        simp only at h ⊢
        cases hw : f.disk.walk linkLimit here rest with
        | error cause => simp [hw] at h
        | ok r =>
          obtain ⟨place, left⟩ := r
          simp only [hw] at h
          -- the way out ends in a directory, and there the last step is the same
          obtain ⟨s, hs⟩ : f.disk.IsDirectory place := by
            by_contra hno
            have := Disk.serialAt?_eq_none fun s hs ↦ hno ⟨s, hs⟩
            simp [this] at h
          simp only [Disk.walk_extends he hw ⟨s, hs⟩, Disk.serialAt?_eq_some hs,
            Disk.serialAt?_eq_some (he _ _ hs rfl)] at h ⊢
          exact h

/-! ### What paths lead to -/

theorem Locates.segments (h : f.Locates p place last) :
    p.segments = p.segments.dropLast ++ [last] := by
  obtain ⟨here, left, -, he⟩ := h
  obtain ⟨-, hlast, hdot, -⟩ := Disk.entry_of_ending he
  cases hg : p.segments.getLast? with
  | none =>
    rw [hg] at hlast
    exact absurd hlast hdot
  | some x =>
    rw [hg] at hlast
    obtain ⟨xs, hxs⟩ := List.getLast?_eq_some_iff.mp hg
    rw [hxs, List.dropLast_concat, hlast]
    rfl

theorem Locates.walk_eq (h : f.Locates p place last) (hshort : ¬ nameLimit < last.length)
    {n : Node} (hn : f.disk.node? (place ++ [last]) = some n) (hlink : ∀ t, n ≠ .link t) :
    ∃ here left, f.start p = .ok (.place here) ∧
      f.disk.walk linkLimit here p.segments = .ok (place ++ [last], left) := by
  have hseg := h.segments
  obtain ⟨here, left, hs, he⟩ := h
  obtain ⟨-, -, hdot, hdotDot⟩ := Disk.entry_of_ending he
  obtain ⟨q, hw, ⟨s, hdir⟩, hend⟩ := Disk.ending_eq_ok he
  obtain ⟨rfl, -⟩ := Disk.endingAt_eq_entry hend
  refine ⟨here, left, hs, ?_⟩
  rw [hseg, Disk.walk_append, hw]
  simp only
  rw [Disk.walk_name hdir hdot hdotDot hshort hn hlink, Disk.walk_nil]

/-- The spot that a located name leads to; a slash at the end asks for a directory. -/
private theorem Locates.spot_eq (h : f.Locates p place last) (hshort : ¬ nameLimit < last.length)
    {n : Node} (hn : f.disk.node? (place ++ [last]) = some n) (hlink : ∀ t, n ≠ .link t)
    (hslash : p.isSlashed = false ∨ n.isDirectory) : f.spot p = .ok (.place (place ++ [last])) := by
  obtain ⟨here, left, hs, hw⟩ := h.walk_eq hshort hn hlink
  have hsteps : f.disk.walk linkLimit here p.steps = .ok (place ++ [last], left) := by
    rw [Path.steps, Disk.walk_append, hw]
    simp only
    split
    · next hp =>
      cases n with
      | directory s => rw [Disk.walk_dot hn, Disk.walk_nil]
      | _ => simp_all [Node.isDirectory]
    · rw [Disk.walk_nil]
  simp [Files.spot, hs, Disk.reach, hsteps, bind, Except.bind, pure, Except.pure]

/-- What stands under a located name is at the place that the path leads to. -/
theorem Locates.place_eq (h : f.Locates p place last) (hshort : ¬ nameLimit < last.length)
    {n : Node} (hn : f.disk.node? (place ++ [last]) = some n) (hlink : ∀ t, n ≠ .link t)
    (hslash : p.isSlashed = false ∨ n.isDirectory) : f.place p = .ok (place ++ [last]) := by
  simp [Files.place, h.spot_eq hshort hn hlink hslash, bind, Except.bind]

/-- What stands under a located name is what the path leads to. -/
theorem Locates.node_eq (h : f.Locates p place last) (hshort : ¬ nameLimit < last.length) {n : Node}
    (hn : f.disk.node? (place ++ [last]) = some n) (hlink : ∀ t, n ≠ .link t)
    (hslash : p.isSlashed = false ∨ n.isDirectory) : f.node p = .ok n := by
  simp [Files.node, h.spot_eq hshort hn hlink hslash, hn, bind, Except.bind]

/-- What stands under a located name and is no link is what the path itself names. -/
theorem Locates.ownNode_eq (h : f.Locates p place last) (hshort : ¬ nameLimit < last.length)
    {n : Node} (hn : f.disk.node? (place ++ [last]) = some n) (hlink : ∀ t, n ≠ .link t)
    (hslash : p.isSlashed = false ∨ n.isDirectory) : f.ownNode p = .ok n := by
  simp only [ownNode, h.ending, hn]
  split
  · exact h.node_eq hshort hn hlink hslash
  · rfl

/-- A path that runs into a file is no link. -/
theorem Blocked.isOwnLink (h : f.Blocked p) : f.isOwnLink p = false := by
  simp [Files.isOwnLink, ownNode, h.ending]

/-- A path that runs into a file leads nowhere. -/
theorem Blocked.spot_eq (h : f.Blocked p) (hf : f.WellFormed) :
    f.spot p = .error .notDirectory := by
  obtain ⟨here, hs, he⟩ := h
  rw [Disk.ending_eq] at he
  have hsegments : ∃ last, p.segments = p.segments.dropLast ++ [last] := by
    cases hnil : p.segments with
    | nil =>
      simp only [hnil, List.dropLast_nil, Disk.walk_nil] at he
      exact absurd he (Disk.endingAt_map_ne (isDirectory_of_start hf hs) _ _)
    | cons segment rest => exact ⟨_, (List.dropLast_concat_getLast (by simp)).symm⟩
  obtain ⟨last, hlast⟩ := hsegments
  have hsteps : f.disk.walk linkLimit here p.steps = .error .notDirectory := by
    rw [Path.steps, hlast, List.append_assoc, Disk.walk_append]
    cases hw : f.disk.walk linkLimit here p.segments.dropLast with
    | error cause => simpa [hw] using he
    | ok r =>
      obtain ⟨place, left⟩ := r
      simp only [hw] at he ⊢
      exact Disk.walk_solid fun s hdir ↦ Disk.endingAt_map_ne ⟨s, hdir⟩ _ _ he
  simp [Files.spot, hs, Disk.reach, hsteps, bind, Except.bind]

theorem Blocked.node_eq (h : f.Blocked p) (hf : f.WellFormed) :
    f.node p = .error .notDirectory := by
  simp [Files.node, h.spot_eq hf, bind, Except.bind]

theorem Blocked.isFile (h : f.Blocked p) (hf : f.WellFormed) : f.isFile p = false := by
  simp [Files.isFile, h.node_eq hf]

theorem Blocked.place_eq (h : f.Blocked p) (hf : f.WellFormed) :
    f.place p = .error .notDirectory := by
  simp [Files.place, h.spot_eq hf, bind, Except.bind]

end Files

end KernelForge
