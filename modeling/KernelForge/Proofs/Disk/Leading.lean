import KernelForge.Proofs.Disk.Scratch

/-!
# Paths that lead to a directory

A path leads to a directory if the directory is found there, or if the segments of the path name it
and at most some of the directories on the way are still to be made. Names behind the path are then
looked up in that directory and nowhere else, and making the directory adds what was missing on the
way. Main statements: `Leads.locates`, `Leads.extends` and `Leads.createDirectories`.
-/

namespace KernelForge

namespace Disk

variable {d : Disk} {links left : Nat} {here place : Place}

/-- A step by a name that succeeds finds something under the name. -/
theorem walk_step {name : Bytes} {r : Place × Nat} (h : d.walk links here [name] = .ok r)
    (hdot : name ≠ Path.dot) (hdotDot : name ≠ Path.dotDot) :
    ¬ nameLimit < name.length ∧ ∃ n, d.node? (here ++ [name]) = some n ∧
      ((∀ t, n ≠ .link t) → r.1 = here ++ [name]) := by
  obtain ⟨s, hs⟩ := isDirectory_of_walk h
  have hshort : ¬ nameLimit < name.length := by
    intro hlong
    rw [walk_long hs hdot hdotDot hlong] at h
    cases h
  refine ⟨hshort, ?_⟩
  cases hn : d.node? (here ++ [name]) with
  | none =>
    rw [walk_missing hs hdot hdotDot hshort hn] at h
    cases h
  | some n =>
    refine ⟨n, rfl, fun hlink ↦ ?_⟩
    rw [walk_name hs hdot hdotDot hshort hn hlink, walk_nil, Except.ok.injEq] at h
    rw [← h]

/-- No link stands on the way from `base` through `names`. -/
def Unlinked (d : Disk) (base : Place) (names : List Bytes) : Prop :=
  ∀ q, q <+: names → ∀ t, d.node? (base ++ q) ≠ some (.link t)

/-- Through names under which no links stand, a lookup goes by these names. -/
theorem walk_unlinked {names : List Bytes} (hdot : Path.dot ∉ names)
    (hdotDot : Path.dotDot ∉ names) (hway : d.Unlinked here names)
    (h : d.walk links here names = .ok (place, left)) : place = here ++ names := by
  induction names generalizing here links with
  | nil =>
    rw [walk_nil, Except.ok.injEq, Prod.mk.injEq] at h
    rw [← h.1, List.append_nil]
  | cons name rest ih =>
    rw [List.mem_cons, not_or] at hdot hdotDot
    rw [← List.singleton_append, walk_append] at h
    split at h
    · next q links' hstep =>
      obtain ⟨-, n, hn, hplace⟩ := walk_step hstep (Ne.symm hdot.1) (Ne.symm hdotDot.1)
      obtain rfl : q = here ++ [name] := hplace fun t ht ↦ hway [name] ⟨rest, rfl⟩ t (ht ▸ hn)
      rw [ih hdot.2 hdotDot.2 (fun q hq ↦ ?_) h, List.append_assoc, List.singleton_append]
      rw [List.append_assoc, List.singleton_append]
      exact hway (name :: q) (List.cons_prefix_cons.mpr ⟨rfl, hq⟩)
    · cases h

/-- Through names under which directories stand, a lookup goes by these names. -/
theorem walk_names {names : List Bytes} (hdot : Path.dot ∉ names) (hdotDot : Path.dotDot ∉ names)
    (hway : ∀ q, q <+: names → d.node? (here ++ q) = none ∨ d.IsDirectory (here ++ q))
    (h : d.walk links here names = .ok (place, left)) : place = here ++ names := by
  refine walk_unlinked hdot hdotDot (fun q hq t ht ↦ ?_) h
  rcases hway q hq with hnone | ⟨s, hs⟩
  · simp [ht] at hnone
  · simp [ht] at hs

/-- Where all steps lead to a directory, so do the segments. -/
theorem walk_segments {p : Path} (h : d.walk links here p.steps = .ok (place, left)) :
    d.walk links here p.segments = .ok (place, left) := by
  rw [Path.steps] at h
  split at h
  · rw [walk_append] at h
    cases hw : d.walk links here p.segments with
    | error cause =>
      rw [hw] at h
      cases h
    | ok r =>
      obtain ⟨q, left'⟩ := r
      rw [hw] at h
      simp only at h
      by_cases hdir : ∃ s, d.node? q = some (.directory s)
      · obtain ⟨s, hs⟩ := hdir
        rwa [walk_dot hs, walk_nil] at h
      · rw [walk_solid (not_exists.mp hdir)] at h
        cases h
  · rwa [List.append_nil] at h

end Disk

namespace Files

variable {f f' : Files} {p : Path} {here place directory : Place} {name last : Bytes}

/-- A path that leads somewhere ends in dots, or in a name that is taken. -/
private theorem ending_cases (hf : f.WellFormed) (hs : f.start p = .ok (.place here))
    (h : f.place p = .ok place) : f.ending p = .ok .here ∨ f.ending p = .ok .up ∨
      ∃ q last n, f.ending p = .ok (.entry q last) ∧ ¬ nameLimit < last.length ∧
        f.disk.node? (q ++ [last]) = some n := by
  obtain ⟨left, hsteps⟩ := (place_eq_ok hs).mp h
  have hw := Disk.walk_segments hsteps
  rw [ending_of_start hs, Disk.ending_eq]
  rcases List.eq_nil_or_concat p.segments with hnil | ⟨xs, last, hxs⟩
  · obtain ⟨s, hdir⟩ := isDirectory_of_start hf hs
    left
    simp [hnil, Disk.endingAt, Disk.serialAt?_eq_some hdir, Except.map]
  rw [hxs, List.concat_eq_append, Disk.walk_append] at hw
  rw [hxs, List.concat_eq_append, List.dropLast_concat]
  cases hway : f.disk.walk linkLimit here xs with
  | error cause =>
    rw [hway] at hw
    cases hw
  | ok r =>
    obtain ⟨q, links⟩ := r
    rw [hway] at hw
    simp only at hw
    obtain ⟨s, hdir⟩ : f.disk.IsDirectory q := by
      by_contra hno
      rw [Disk.walk_solid (not_exists.mp hno)] at hw
      cases hw
    simp only [Disk.endingAt, Disk.serialAt?_eq_some hdir, hxs, List.concat_eq_append,
      List.getLast?_concat, Option.getD_some, Option.isNone_some, Bool.false_eq_true, if_false]
    split
    · exact Or.inl rfl
    · split
      · exact Or.inr (Or.inl rfl)
      · next hdot hdotDot =>
        obtain ⟨hshort, n, hn, -⟩ := Disk.walk_step hw hdot hdotDot
        exact Or.inr (Or.inr ⟨q, last, n, rfl, hshort, hn⟩)

/-- Where a path leads somewhere, nothing is made. -/
private theorem make_taken (hf : f.WellFormed) (hs : f.start p = .ok (.place here))
    (h : f.place p = .ok place) (node : Disk → Node × Disk) :
    (make p node).runFrom f = (.error .taken, f) := by
  rw [make, edit, Act.runFrom_ofRun]
  rcases ending_cases hf hs h with he | he | ⟨q, last, n, he, hshort, hn⟩
  · simp [he, bind, Except.bind]
  · simp [he, bind, Except.bind]
  · simp [he, hshort, hn, bind, Except.bind]

/-- A directory that is there is not made again. -/
theorem createDirectories_run (hf : f.WellFormed) (hs : f.start p = .ok (.place here))
    (h : f.place p = .ok place) (hdir : f.disk.IsDirectory place) :
    (createDirectories p).runFrom f = (.ok (), f) := by
  obtain ⟨s, hdir⟩ := hdir
  have hfound : f.isDirectory p = true := by
    have hspot : f.spot p = .ok (.place place) := by
      obtain ⟨left, hw⟩ := (place_eq_ok hs).mp h
      simp [spot, hs, Disk.reach, hw, bind, Except.bind, pure, Except.pure]
    simp [Files.isDirectory, Files.node, hspot, hdir, bind, Except.bind, Node.isDirectory]
  rw [createDirectories, Path.ancestors, createAll]
  split
  · rfl
  · rw [Act.runFrom_bind, Act.runFrom_attempt, createDirectory, make_taken hf hs h]
    simp only
    rw [Act.runFrom_bind, Act.runFrom_reads, hfound]
    rfl

/-- The path `p` leads to a directory, or does so once the directories on the way are made. -/
inductive Leads (f : Files) (p : Path) (directory : Place) : Prop where
  /-- The directory is found there. -/
  | found {here : Place} (start : f.start p = .ok (.place here))
      (place : f.place p = .ok directory) (isDirectory : f.disk.IsDirectory directory)
  /-- The path names the directory, and nothing but directories stand on the way. -/
  | named (absolute : p.isAbsolute) (segments : p.segments = directory)
      (dot : Path.dot ∉ directory) (dotDot : Path.dotDot ∉ directory)
      (way : ∀ q, q <+: directory → f.disk.node? q = none ∨ f.disk.IsDirectory q)

namespace Leads

/-- Where the lookup of a name behind the path begins and goes to. -/
private theorem walk_eq (h : f.Leads p directory) (hname : Path.slash ∉ name) {spot : Spot}
    (hs : f.start (p.join ⟨name⟩) = .ok spot) : ∃ here, spot = .place here ∧ ∀ {place left},
      f.disk.walk linkLimit here p.segments = .ok (place, left) → place = directory := by
  have hspot := start_eq_ok hs
  cases h with
  | @found here start hplace _ =>
    have hnil : p.bytes ≠ [] := by
      intro hb
      simp [Files.start, hb] at start
    rw [Path.isAbsolute_join hname hnil, ← start_eq_ok start] at hspot
    refine ⟨here, hspot, fun hw ↦ ?_⟩
    obtain ⟨left', hsteps⟩ := (place_eq_ok start).mp hplace
    rw [Disk.walk_segments hsteps, Except.ok.injEq, Prod.mk.injEq] at hw
    exact hw.1.symm
  | named absolute segments hdot hdotDot way =>
    rw [if_pos (Path.isAbsolute_join_of_isAbsolute absolute _)] at hspot
    refine ⟨[], hspot, fun hw ↦ ?_⟩
    rw [segments] at hw
    exact Disk.walk_names hdot hdotDot way hw

/-- Names behind the path are looked up in the directory. -/
theorem locates (h : f.Leads p directory) (hname : Path.slash ∉ name) (hnil : name ≠ [])
    (hl : f.Locates (p.join ⟨name⟩) place last) : place = directory ∧ last = name := by
  have hsegments := Path.segments_join (p := p) hname hnil
  have hlast := hl.last_eq
  obtain ⟨here, left, hs, he⟩ := hl
  obtain ⟨q, hw, -, hend⟩ := Disk.ending_eq_ok he
  obtain ⟨rfl, -⟩ := Disk.endingAt_eq_entry hend
  rw [hsegments, List.dropLast_concat] at hw
  rw [hsegments, List.getLast?_concat] at hlast
  obtain ⟨here', hhere, hplace⟩ := h.walk_eq hname hs
  rw [Spot.place.injEq] at hhere
  subst hhere
  exact ⟨hplace hw, hlast⟩

/-- While directories and links stay, and nothing but directories come to stand on the way, the path
leads to the same directory. -/
theorem «extends» (h : f.Leads p directory) (hf : f.WellFormed) (hf' : f'.WellFormed)
    (hhere : f'.here = f.here) (he : f.disk.Extends f'.disk)
    (hnew : ∀ q, q <+: directory → f.disk.node? q = none →
      f'.disk.node? q = none ∨ f'.disk.IsDirectory q) : f'.Leads p directory := by
  cases h with
  | found start hplace hdir =>
    have hstart := start_keeps hf hf' hhere (fun s hs ↦ he _ _ hs rfl) start
    have hdir' : f'.disk.IsDirectory directory := by
      obtain ⟨s, hs⟩ := hdir
      exact ⟨s, he _ _ hs rfl⟩
    exact .found hstart (place_extends hf hf' hhere he start hplace hdir) hdir'
  | named absolute segments hdot hdotDot way =>
    refine .named absolute segments hdot hdotDot fun q hq ↦ ?_
    rcases way q hq with hnone | ⟨s, hs⟩
    · exact hnew q hq hnone
    · exact Or.inr ⟨s, he _ _ hs rfl⟩

/-- Making the directory changes nothing but what is missing on the way to it. -/
theorem createDirectories (h : f.Leads p directory) (hf : f.WellFormed) (q : Place) :
    ((createDirectories p).runFrom f).2.disk.node? q = f.disk.node? q ∨ q <+: directory ∧
      f.disk.node? q = none ∧ ((createDirectories p).runFrom f).2.disk.IsDirectory q := by
  cases h with
  | found start hplace hdir =>
    rw [createDirectories_run hf start hplace hdir]
    exact Or.inl rfl
  | named absolute segments hdot hdotDot way =>
    have hgrows := createAll_grows hf p.ancestors
    have hsame : (Files.createDirectories p).runFrom f = (createAll p.ancestors).runFrom f := rfl
    rw [hsame]
    generalize ((createAll p.ancestors).runFrom f).2 = f' at hgrows ⊢
    cases hn : f.disk.node? q with
    | some n => exact Or.inl (hgrows.stays q n hn)
    | none =>
      cases hn' : f'.disk.node? q with
      | none => exact Or.inl rfl
      | some n =>
        right
        obtain ⟨hdir, p', hp', hmade⟩ := hgrows.made q hn (by simp [hn'])
        refine ⟨?_, rfl, hdir⟩
        -- what was made is above the path, and so its segments are on the way
        obtain ⟨habsolute, hpart⟩ : p'.isAbsolute ∧ p'.segments <+: directory := by
          rcases List.mem_cons.mp hp' with rfl | hp'
          · exact ⟨absolute, segments ▸ List.prefix_refl _⟩
          · exact segments ▸ Path.segments_prefix_of_mem_stems absolute (List.mem_of_mem_tail hp')
        obtain ⟨spot, hs⟩ := hmade.start
        have hstart := start_isOk hs f
        have hstart' := start_isOk hs f'
        rw [if_pos habsolute] at hstart hstart'
        obtain ⟨left, hsteps⟩ := (place_eq_ok hstart').mp (hmade.leads [] hstart)
        have hway' : ∀ q', q' <+: p'.segments →
            f'.disk.node? ([] ++ q') = none ∨ f'.disk.IsDirectory ([] ++ q') := by
          intro q' hq'
          rw [List.nil_append]
          cases hq : f'.disk.node? q' with
          | none => exact Or.inl rfl
          | some m =>
            right
            rcases way q' (hq'.trans hpart) with hfree | ⟨s, hs⟩
            · exact (hgrows.made q' hfree (by simp [hq])).1
            · exact ⟨s, hgrows.stays q' _ hs⟩
        have := Disk.walk_names (fun hm ↦ hdot (hpart.subset hm))
          (fun hm ↦ hdotDot (hpart.subset hm)) hway' (Disk.walk_segments hsteps)
        rw [List.nil_append] at this
        rw [this]
        exact hpart

/-- What is found under a name behind the path stands under that name in the directory, if no link
does. -/
theorem node_eq (h : f.Leads p directory) (hname : Path.slash ∉ name) (hnil : name ≠ [])
    (hdot : name ≠ Path.dot) (hdotDot : name ≠ Path.dotDot)
    (hlink : ∀ t, f.disk.node? (directory ++ [name]) ≠ some (.link t)) {n : Node}
    (hn : f.node (p.join ⟨name⟩) = .ok n) : f.disk.node? (directory ++ [name]) = some n := by
  have hlast := Path.lastPiece_join (p := p) hname
  have hsteps : (p.join ⟨name⟩).steps = p.segments ++ [name] := by
    rw [Path.steps, Path.not_isSlashed_of_lastPiece (by rwa [hlast]), Path.segments_join hname hnil]
    simp
  cases hs : f.start (p.join ⟨name⟩) with
  | error cause => simp [Files.node, Files.spot, hs, bind, Except.bind] at hn
  | ok spot =>
    obtain ⟨here, rfl, hplace⟩ := h.walk_eq hname hs
    simp only [Files.node, Files.spot, hs, Disk.reach, hsteps, Disk.walk_append, bind, Except.bind,
      pure, Except.pure] at hn
    cases hw : f.disk.walk linkLimit here p.segments with
    | error cause => simp [hw] at hn
    | ok r =>
      obtain ⟨q, left⟩ := r
      obtain rfl := hplace hw
      simp only [hw] at hn
      cases hstep : f.disk.walk left q [name] with
      | error cause => simp [hstep] at hn
      | ok r =>
        obtain ⟨-, m, hm, hplace'⟩ := Disk.walk_step hstep hdot hdotDot
        have hr := hplace' fun t ht ↦ hlink t (ht ▸ hm)
        simp only [hstep, hr, hm, Except.ok.injEq] at hn
        rw [hm, hn]

end Leads

end Files

end KernelForge
