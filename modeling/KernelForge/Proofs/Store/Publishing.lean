import KernelForge.Proofs.Store.Writing

/-!
# Publishing an artifact

An artifact is built in a scratch directory and renamed from there; the scratch directory is removed
whether that went well or not. Where building or renaming fails, nothing is left of it but the
header; where both succeed, a regular file stands under the name of the artifact. Main statements:
`Scratched.failed` and `Scratched.published`.
-/

namespace KernelForge.Files

variable {f f₁ g : Files} {scratch : Path} {T : Place} {name : Bytes} {serial : Nat}

/-- From `f` the files came to `f₁` by making the scratch directory `name` in `T`. -/
structure Scratched (f f₁ : Files) (scratch : Path) (T : Place) (name : Bytes) : Prop where
  /-- The tree could arise. -/
  before : f.WellFormed
  /-- The path of the scratch directory is absolute. -/
  absolute : scratch.isAbsolute
  /-- It does not end in a slash. -/
  slashed : scratch.isSlashed = false
  /-- It locates the name. -/
  locates : f.Locates scratch T name
  /-- The name is not too long. -/
  short : ¬ nameLimit < name.length
  /-- The name was free. -/
  free : f.disk.node? (T ++ [name]) = none
  /-- The directory is all that is new. -/
  reaches : f.Reaches f₁ fun q ↦
    if q = T ++ [name] then some (.directory f.disk.next) else f.disk.node? q

namespace Scratched

variable (h : Scratched f f₁ scratch T name)

include h

/-- Nothing stood where the scratch directory is, or below. -/
theorem below {q : Place} (hq : T ++ [name] <+: q) : f.disk.node? q = none :=
  h.before.disk.node?_beneath h.free hq

theorem not_prefix {q : Place} {n : Node} (hn : f.disk.node? q = some n) : ¬ T ++ [name] <+: q := by
  intro hq
  rw [h.below hq] at hn
  cases hn

theorem shows {q : Place} (hq : q ≠ T ++ [name]) : f₁.disk.node? q = f.disk.node? q := by
  rw [h.reaches.shows, if_neg hq]

theorem shows_scratch : f₁.disk.node? (T ++ [name]) = some (.directory f.disk.next) := by
  rw [h.reaches.shows, if_pos rfl]

theorem stays {q : Place} {n : Node} (hn : f.disk.node? q = some n) :
    f₁.disk.node? q = some n := h.reaches.stays_of_free h.free hn

theorem keeps : f.disk.Keeps f₁.disk := Disk.Keeps.of_node? fun _ _ hn ↦ h.stays hn

theorem «extends» : f.disk.Extends f₁.disk := fun _ _ hn _ ↦ h.stays hn

/-- A name behind the scratch path is located in the scratch directory, if its path is not too
long. -/
theorem output {last : Bytes} (hlast : Path.slash ∉ last) (hnil : last ≠ [])
    (hdot : last ≠ Path.dot) (hdotDot : last ≠ Path.dotDot) :
    (scratch.join ⟨last⟩).isSlashed = false ∧ (f₁.Locates (scratch.join ⟨last⟩) (T ++ [name]) last ∨
      ∃ cause, ∀ g : Files, g.start (scratch.join ⟨last⟩) = .error cause) := by
  have ha : (scratch.join ⟨last⟩).isAbsolute := Path.isAbsolute_join_of_isAbsolute h.absolute _
  have hlastPiece := Path.lastPiece_join (p := scratch) hlast
  refine ⟨Path.not_isSlashed_of_lastPiece (by rwa [hlastPiece]), ?_⟩
  cases hs : f₁.start (scratch.join ⟨last⟩) with
  | error cause => exact Or.inr ⟨cause, start_eq_error hs⟩
  | ok spot =>
    left
    have hlocates := h.locates.extends h.before h.reaches.wellFormed h.reaches.here h.extends
    obtain ⟨here, left, hstart, hw⟩ := hlocates.walk_eq h.short h.shows_scratch (by simp)
    have hhere : here = [] := by
      have := start_eq_ok hstart
      rw [if_pos h.absolute, Spot.place.injEq] at this
      exact this
    subst hhere
    have hspot := start_eq_ok hs
    rw [if_pos ha] at hspot
    subst hspot
    have hsegments := Path.segments_join (p := scratch) hlast hnil
    have hway : f₁.disk.walk linkLimit [] (scratch.join ⟨last⟩).segments.dropLast =
        .ok (T ++ [name], left) := by
      rw [hsegments, List.dropLast_concat, hw]
    refine ⟨[], left, hs, Disk.ending_of_walk hway ?_⟩
    simp [Disk.endingAt, Disk.serialAt?_eq_some h.shows_scratch, hsegments, hdot, hdotDot]

/-! ### Removing the scratch directory -/

section Cleanup

variable (hg : g.WellFormed) (hhere : g.here = f.here)
  (hn : g.disk.node? (T ++ [name]) = some (.directory serial))

include hg hhere hn

omit hhere in
private theorem emptyAt_shows (hdir : g.disk.IsDirectory T) {q : Place} {n : Node}
    (hq : f.disk.node? q = some n) :
    (g.emptyAt (T ++ [name]) serial).disk.node? q = g.disk.node? q := by
  have hpart := h.not_prefix hq
  have hne : q ≠ T ++ [name] := by
    rintro rfl
    exact hpart (List.prefix_refl _)
  rw [(hg.emptyAt hdir hn).shows, if_neg hne, if_neg hpart]

omit hhere in
/-- While the directories and links stay that the path of the scratch directory needs, it is removed
with all that it holds. The serial numbers of these directories do not matter. -/
theorem cleanup_carries {d : Disk} {left : Nat}
    (hway : d.ending linkLimit (.place []) scratch = .ok (.entry T name, left))
    (hd : ∀ q n, d.node? q = some n → f.disk.node? q = some n) (hc : d.Carries g.disk) :
    ∃ g', (removeTree scratch).runFrom g = (.ok (), g') ∧ g.Reaches g' fun q ↦
      if T ++ [name] <+: q then none else g.disk.node? q := by
  obtain ⟨here, _, hstart, -⟩ := h.locates
  have hlocates : ∀ g' : Files, d.Carries g'.disk → g'.Locates scratch T name := by
    refine fun g' hc' ↦ ⟨[], left, ?_, Disk.ending_carries hc' hway⟩
    rw [start_isOk hstart g', if_pos h.absolute]
  have hl := hlocates g hc
  refine removeTree_run hg hl h.short hn (hlocates _ (hc.congr fun q n hq ↦ ?_))
  exact h.emptyAt_shows hg hn hl.isDirectory (hd q n hq)

omit hhere in
/-- While directories and links stay, the scratch directory is removed with all that it holds. -/
theorem cleanup_extends (he : f.disk.Extends g.disk) :
    ∃ g', (removeTree scratch).runFrom g = (.ok (), g') ∧ g.Reaches g' fun q ↦
      if T ++ [name] <+: q then none else g.disk.node? q := by
  obtain ⟨left, hway⟩ := h.locates.ending_root h.absolute
  exact h.cleanup_carries hg hn hway (fun _ _ hq ↦ hq) he.carries

/-- While directories stay, the path of the scratch directory leads to it or into a file, also once
it is emptied. -/
theorem cleanup_ways (hk : f.disk.Keeps g.disk) :
    (g.Locates scratch T name ∨ g.Blocked scratch) ∧
      ((g.emptyAt (T ++ [name]) serial).Locates scratch T name ∨
        (g.emptyAt (T ++ [name]) serial).Blocked scratch) := by
  obtain ⟨s, hs⟩ := h.locates.isDirectory
  have hdir : g.disk.IsDirectory T := ⟨s, hk.directory T s hs⟩
  have hempty := hg.emptyAt hdir hn
  refine ⟨h.locates.keeps h.before hg hhere hk, ?_⟩
  exact h.locates.keeps h.before hempty.wellFormed (hempty.here.trans hhere)
    (hk.congr fun q n hq ↦ h.emptyAt_shows hg hn hdir hq)

/-- While directories stay, nothing but the scratch directory is removed. -/
theorem cleanup_keeps (hk : f.disk.Keeps g.disk) :
    ((removeTree scratch).runFrom g).2.WellFormed ∧
      ((removeTree scratch).runFrom g).2.here = g.here ∧ ∀ q, ¬ T ++ [name] <+: q →
        ((removeTree scratch).runFrom g).2.disk.node? q = g.disk.node? q := by
  obtain ⟨s, hs⟩ := h.locates.isDirectory
  obtain ⟨hway, hempty⟩ := h.cleanup_ways hg hhere hn hk
  exact removeTree_within hg hway h.short hn ⟨s, hk.directory T s hs⟩ hempty

end Cleanup

end Scratched

/-! ### What building does -/

/-- From `f₁` the files came to `f₂` by building: at the place of the output and below anything may
have happened, at the place of the header a regular file may have been written, and every other
place shows what it showed. -/
structure Built (f₁ f₂ : Files) (output : Place) (atHeader : Place → Prop) : Prop where
  /-- The tree can arise. -/
  wellFormed : f₂.WellFormed
  /-- The current directory is the same. -/
  here : f₂.here = f₁.here
  /-- What is neither output nor header stays. -/
  stays : ∀ q, ¬ output <+: q → ¬ atHeader q → f₂.disk.node? q = f₁.disk.node? q
  /-- A header is a regular file. -/
  header : ∀ q, atHeader q → ¬ output <+: q →
    f₂.disk.node? q = f₁.disk.node? q ∨ ∃ n, f₂.disk.node? q = some n ∧ n.isFile
  /-- A header takes the place of a file at most. -/
  free : ∀ q, atHeader q → f₁.disk.node? q = none ∨ f₁.disk.IsSolid q

/-- From `f₂` the files came to `f₃` by giving the file `n` at `source` the name at `place`; in `f`
there was no scratch directory yet. -/
structure Renamed (f f₂ f₃ : Files) (scratch source place : Place) (n : Node) : Prop where
  /-- A regular file was renamed. -/
  isFile : n.isFile
  /-- It stood at `source`. -/
  stood : f₂.disk.node? source = some n
  /-- No directory stood at `place`. -/
  replaced : ∀ s, f.disk.node? place ≠ some (.directory s)
  /-- The scratch directory is elsewhere. -/
  away : ¬ scratch <+: place
  /-- The file stands at `place` alone. -/
  reaches : f₂.Reaches f₃ fun q ↦
    if q = place then some n else if q = source then none else f₂.disk.node? q
  /-- What stood stays. -/
  keeps : f.disk.Keeps f₃.disk
  /-- The scratch directory is still there. -/
  stays : f₃.disk.node? scratch = some (.directory f.disk.next)

/-- What the files are after an artifact was renamed and the scratch directory removed: the artifact
stands under its name, and a header may have been written. Where the artifact took the place of a
link, the scratch directory may be left. -/
structure Published (f g : Files) (scratch place : Place) (n : Node) (atHeader : Place → Prop) :
    Prop where
  /-- The tree can arise. -/
  wellFormed : g.WellFormed
  /-- The current directory is the same. -/
  here : g.here = f.here
  /-- What stood stays. -/
  keeps : f.disk.Keeps g.disk
  /-- The artifact is a regular file. -/
  isFile : n.isFile
  /-- It stands under its name. -/
  artifact : g.disk.node? place = some n
  /-- No directory stood there. -/
  replaced : ∀ s, f.disk.node? place ≠ some (.directory s)
  /-- What is neither the artifact nor the header stays. -/
  stays : ∀ q, ¬ scratch <+: q → q ≠ place → g.disk.node? q = f.disk.node? q ∨
    atHeader q ∧ ∃ n, g.disk.node? q = some n ∧ n.isFile
  /-- Nothing stood where the scratch directory was. -/
  below : ∀ q, scratch <+: q → f.disk.node? q = none
  /-- The scratch directory is gone. -/
  gone : (∀ t, f.disk.node? place ≠ some (.link t)) → ∀ q, scratch <+: q → g.disk.node? q = none

namespace Scratched

variable {f₂ f₃ : Files} {output : Bytes} {atHeader : Place → Prop}
  (h : Scratched f f₁ scratch T name) (hb : Built f₁ f₂ (T ++ [name] ++ [output]) atHeader)

include h hb

omit h in
private theorem built_scratch {s : Nat} (hs : f₁.disk.node? (T ++ [name]) = some (.directory s)) :
    f₂.disk.node? (T ++ [name]) = some (.directory s) := by
  rw [hb.stays, hs]
  · exact Place.not_below_self _ _
  · intro hq
    rcases hb.free _ hq with hn | hsolid
    · rw [hs] at hn
      cases hn
    · exact hsolid.not_directory s hs

private theorem built_scratch' : f₂.disk.node? (T ++ [name]) = some (.directory f.disk.next) :=
  built_scratch hb h.shows_scratch

/-- Where something stood before, building leaves it, a header apart. -/
theorem built_shows {q : Place} {n : Node} (hn : f.disk.node? q = some n) (hq : ¬ atHeader q) :
    f₂.disk.node? q = some n := by
  rw [hb.stays q (fun hp ↦ h.not_prefix hn ((List.prefix_append _ _).trans hp)) hq, h.stays hn]

/-- Building keeps directories and links. -/
theorem built_extends : f.disk.Extends f₂.disk := by
  intro q n hn hway
  refine h.built_shows hb hn fun hq ↦ ?_
  rcases hb.free q hq with hnone | ⟨m, hm, hsolid⟩
  · rw [h.stays hn] at hnone
    cases hnone
  · rw [h.stays hn, Option.some.injEq] at hm
    subst hm
    rw [hway] at hsolid
    cases hsolid

/-- Building keeps what stood. -/
theorem built_keeps : f.disk.Keeps f₂.disk := by
  apply Disk.Keeps.of_files
  intro q n hn
  by_cases hq : atHeader q
  · have hsolid : n.isSolid := by
      rcases hb.free q hq with hnone | ⟨m, hm, hsolid⟩
      · rw [h.stays hn] at hnone
        cases hnone
      · rw [h.stays hn, Option.some.injEq] at hm
        exact hm ▸ hsolid
    have hp : ¬ T ++ [name] ++ [output] <+: q :=
      fun hp ↦ h.not_prefix hn ((List.prefix_append _ _).trans hp)
    rcases hb.header q hq hp with hsame | hfile
    · exact Or.inl (hsame.trans (h.stays hn))
    · exact Or.inr ⟨hsolid, hfile⟩
  · exact Or.inl (h.built_shows hb hn hq)

/-- Away from the scratch directory, a place shows what it showed, or a header. -/
private theorem built_elsewhere {q : Place} (hq : ¬ T ++ [name] <+: q) :
    f₂.disk.node? q = f.disk.node? q ∨ atHeader q ∧ ∃ n, f₂.disk.node? q = some n ∧ n.isFile := by
  have hp : ¬ T ++ [name] ++ [output] <+: q := fun hp ↦ hq ((List.prefix_append _ _).trans hp)
  have hne : q ≠ T ++ [name] := by
    rintro rfl
    exact hq (List.prefix_refl _)
  by_cases hh : atHeader q
  · rcases hb.header q hh hp with he | he
    · exact Or.inl (he.trans (h.shows hne))
    · exact Or.inr ⟨hh, he⟩
  · exact Or.inl ((hb.stays q hp hh).trans (h.shows hne))

/-- What is left of an artifact that was not published is the header. -/
theorem failed : ∃ g, (removeTree scratch).runFrom f₂ = (.ok (), g) ∧ g.WellFormed ∧
    g.here = f.here ∧ f.disk.Keeps g.disk ∧ ∀ q, g.disk.node? q = f.disk.node? q ∨
      atHeader q ∧ ∃ n, g.disk.node? q = some n ∧ n.isFile := by
  have hhere : f₂.here = f.here := hb.here.trans h.reaches.here
  obtain ⟨g, hrun, hreaches⟩ :=
    h.cleanup_extends hb.wellFormed (h.built_scratch' hb) (h.built_extends hb)
  refine ⟨g, hrun, hreaches.wellFormed, hreaches.here.trans hhere,
    (h.built_keeps hb).congr fun q n hn ↦ ?_, fun q ↦ ?_⟩
  · rw [hreaches.shows, if_neg (h.not_prefix hn)]
  · rw [hreaches.shows]
    split
    · next hq => exact Or.inl (h.below hq).symm
    · next hq => exact h.built_elsewhere hb hq

theorem scratch_extends : f₁.disk.Extends f₂.disk := by
  intro q n hn hway
  by_cases hq : q = T ++ [name]
  · subst hq
    rw [h.shows_scratch, Option.some.injEq] at hn
    subst hn
    exact h.built_scratch' hb
  · exact h.built_extends hb q n ((h.shows hq).symm.trans hn) hway

/-- An artifact that was renamed has its name. -/
theorem renamed {path target : Path} {P : Place} {last : Bytes}
    (hfile : ∀ n, f₂.disk.node? (T ++ [name] ++ [output]) = some n → n.isFile)
    (hpath : f₁.Locates path (T ++ [name]) output ∨
      ∃ cause, ∀ g : Files, g.start path = .error cause)
    (htarget : ∀ spot, f.start target = .ok spot → f.Locates target P last ∨ f.Blocked target)
    (hr : (rename path target).runFrom f₂ = (.ok (), f₃)) :
    ∃ n, f₂.Locates path (T ++ [name]) output ∧ f.Locates target P last ∧
      ¬ nameLimit < last.length ∧
      Renamed f f₂ f₃ (T ++ [name]) (T ++ [name] ++ [output]) (P ++ [last]) n := by
  have hhere : f₂.here = f.here := hb.here.trans h.reaches.here
  have hkeeps := h.built_keeps hb
  -- the artifact is where the build was asked to leave it
  have hleft : f₂.Locates path (T ++ [name]) output := by
    rcases hpath with hpath | ⟨cause, hpath⟩
    · exact hpath.extends h.reaches.wellFormed hb.wellFormed hb.here (h.scratch_extends hb)
    · obtain ⟨disk, hc, -⟩ := edit_ok hr
      have : f₂.ending path = .error cause := by simp [Files.ending, hpath, bind, Except.bind]
      simp [this, bind, Except.bind] at hc
  have hend := hleft.ending
  obtain ⟨n, hn⟩ := rename_ok_old hend hr
  have hn_file := hfile n hn
  have hn_dir : ∀ s, n ≠ .directory s := by
    rintro s rfl
    cases hn_file
  obtain ⟨P', last', hend', hshort, hreplaced, h₃⟩ := rename_ok hb.wellFormed hend hn hn_dir hr
  -- the target is located as it was before the scratch directory was made
  have hlocates : f₂.Locates target P last ∧ f.Locates target P last := by
    obtain ⟨spot, hstart⟩ := start_of_ending hend'
    rcases htarget _ (start_isOk hstart f) with ht | ht
    · rcases ht.keeps h.before hb.wellFormed hhere hkeeps with ht' | ht'
      · exact ⟨ht', ht⟩
      · rw [ht'.ending] at hend'
        cases hend'
    · rw [(ht.keeps h.before hb.wellFormed hhere hkeeps).ending] at hend'
      cases hend'
  rw [hlocates.1.ending, Except.ok.injEq, Ending.entry.injEq] at hend'
  obtain ⟨rfl, rfl⟩ := hend'
  obtain ⟨sP, hP⟩ := hlocates.2.isDirectory
  have hscratch₂ := h.built_scratch' hb
  have hne : P ++ [last] ≠ T ++ [name] := by
    intro he
    exact hreplaced _ (he ▸ hscratch₂)
  have haway : ¬ T ++ [name] <+: P ++ [last] := by
    intro hp
    rcases List.prefix_concat_iff.mp hp with he | hp
    · exact hne he.symm
    · exact h.not_prefix hP hp
  have hreplaced' : ∀ s, f.disk.node? (P ++ [last]) ≠ some (.directory s) :=
    fun s hs ↦ hreplaced s (hkeeps.directory _ s hs)
  have hscratch₃ : f₃.disk.node? (T ++ [name]) = some (.directory f.disk.next) := by
    rw [h₃.shows, if_neg hne.symm, if_neg (by simp), hscratch₂]
  refine ⟨n, hleft, hlocates.2, hshort, hn_file, hn, hreplaced', haway, h₃,
    hkeeps.set hreplaced' hn_file fun q m hm ↦ ?_, hscratch₃⟩
  rw [h₃.shows]
  split
  · rfl
  · rw [if_neg]
    rintro rfl
    exact h.not_prefix hm (List.prefix_append _ _)

/-- An artifact that was renamed is published. -/
theorem published {path target : Path} {P : Place} {last : Bytes}
    (hfile : ∀ n, f₂.disk.node? (T ++ [name] ++ [output]) = some n → n.isFile)
    (hpath : f₁.Locates path (T ++ [name]) output ∨
      ∃ cause, ∀ g : Files, g.start path = .error cause)
    (htarget : ∀ spot, f.start target = .ok spot → f.Locates target P last ∨ f.Blocked target)
    (hr : (rename path target).runFrom f₂ = (.ok (), f₃)) :
    ∃ n, f₂.disk.node? (T ++ [name] ++ [output]) = some n ∧
      f₂.Locates path (T ++ [name]) output ∧ f.Locates target P last ∧ ¬ nameLimit < last.length ∧
      Published f ((removeTree scratch).runFrom f₃).2 (T ++ [name]) (P ++ [last]) n atHeader := by
  have hhere : f₂.here = f.here := hb.here.trans h.reaches.here
  obtain ⟨n, hleft, hlocates, hshort, hrenamed⟩ := h.renamed hb hfile hpath htarget hr
  have h₃ := hrenamed.reaches
  have hclean := h.cleanup_keeps h₃.wellFormed (h₃.here.trans hhere) hrenamed.stays hrenamed.keeps
  refine ⟨n, hrenamed.stood, hleft, hlocates, hshort, hclean.1,
    hclean.2.1.trans (h₃.here.trans hhere),
    hrenamed.keeps.congr fun q m hm ↦ hclean.2.2 q (h.not_prefix hm), hrenamed.isFile, ?_,
    hrenamed.replaced, ?_, fun q hq ↦ h.below hq, ?_⟩
  · rw [hclean.2.2 _ hrenamed.away, h₃.shows, if_pos rfl]
  · intro q hq hqP
    have hqO : q ≠ T ++ [name] ++ [output] := by
      rintro rfl
      exact hq (List.prefix_append _ _)
    rw [hclean.2.2 q hq, h₃.shows, if_neg hqP, if_neg hqO]
    exact h.built_elsewhere hb hq
  · intro hlink q hq
    have hext : f.disk.Extends f₃.disk := by
      intro q m hm hway
      have hqO : q ≠ T ++ [name] ++ [output] := by
        rintro rfl
        exact h.not_prefix hm (List.prefix_append _ _)
      rw [h₃.shows, if_neg hqO]
      split
      · next he =>
        subst he
        cases m with
        | directory s => exact absurd hm (hrenamed.replaced s)
        | link t => exact absurd hm (hlink t)
        | _ => cases hway
      · exact h.built_extends hb q m hm hway
    obtain ⟨g, hrun, hreaches⟩ :=
      h.cleanup_extends h₃.wellFormed hrenamed.stays hext
    rw [hrun, hreaches.shows, if_pos hq]

end Scratched

end KernelForge.Files

namespace KernelForge.Store

open Files

theorem isPlain_build : ScratchStyle.IsPlain ⟨".build-", ""⟩ := by
  constructor <;> decide

variable {h : Host} {s : Store} {target : Path}

/-- The path in a scratch directory where the artifact `target` is to be left. -/
def outputIn (scratch target : Path) : Path :=
  scratch.join ⟨target.fileName?.getD (utf8 "artifact")⟩

theorem openScratch_cases (hf : h.files.WellFormed) (s : Store) (target : Path) :
    (∃ error f', (s.openScratch target).runFrom h = (.error error, { h with files := f' }) ∧
        h.files.Reaches f' h.files.disk.node?) ∨
      ∃ scratch T name f₁, (s.openScratch target).runFrom h =
        (.ok (scratch, outputIn scratch target), { h with files := f₁ }) ∧
        Scratched h.files f₁ scratch T name := by
  rw [openScratch, Act.runFrom_bind, onFile_run]
  rcases hr : (createScratch ⟨".build-", ""⟩ s.directory createDirectory).runFrom h.files with
    ⟨cause | scratch, f₁⟩
  · obtain ⟨drawn, rfl⟩ := createScratch_error creates_createDirectory hr
    exact Or.inl ⟨_, _, rfl, ⟨hf.disk, hf.here⟩, rfl, fun _ ↦ rfl⟩
  · obtain ⟨T, name, ha, hslash, -, hlocates, hshort, hfree, hreaches⟩ :=
      createScratch_ok hf isPlain_build creates_createDirectory hr
    exact Or.inr ⟨scratch, T, name, f₁, rfl, hf, ha, hslash, hlocates, hshort, hfree, hreaches⟩

/-- The host without the scratch directory. -/
def clean (scratch : Path) (h : Host) : Host :=
  { h with files := ((removeTree scratch).runFrom h.files).2 }

/-- A publication fails as the build fails or as the renaming fails; the scratch directory is
removed in every case. -/
theorem publishFrom_run (scratch output target : Path) (build : Act Host KernelError Unit)
    (h : Host) :
    (∃ error, (build.runFrom h).1 = .error error ∧
        (publishFrom scratch output target build).runFrom h =
          (.error error, clean scratch (build.runFrom h).2)) ∨
      (build.runFrom h).1 = .ok () ∧
        ((∃ cause, ((Files.rename output target).runFrom (build.runFrom h).2.files).1 =
              .error cause ∧
            (publishFrom scratch output target build).runFrom h =
              (.error (.storeWrite target cause), clean scratch (build.runFrom h).2)) ∨
          ∃ f₃ events, (Files.rename output target).runFrom (build.runFrom h).2.files =
              (.ok (), f₃) ∧
            (publishFrom scratch output target build).runFrom h =
              (.ok (), clean scratch { (build.runFrom h).2 with files := f₃, events })) := by
  rw [publishFrom, Act.runFrom_andFinally]
  rcases hb : build.runFrom h with ⟨error | _, h₂⟩
  · rw [Act.runFrom_bind_error hb]
    exact Or.inl ⟨error, rfl, rfl⟩
  · rw [Act.runFrom_bind_ok hb, Act.runFrom_bind, onFile_run]
    refine Or.inr ⟨rfl, ?_⟩
    rcases hr : (Files.rename output target).runFrom h₂.files with ⟨cause | _, f₃⟩
    · have := edit_error hr
      subst this
      exact Or.inl ⟨cause, rfl, rfl⟩
    · exact Or.inr ⟨f₃, _, rfl, rfl⟩

/-- An artifact is published if it is built and then renamed; the scratch directory is removed in
every case. -/
theorem publishFrom_cases (scratch output target : Path) (build : Act Host KernelError Unit)
    (h : Host) :
    (∃ error, (publishFrom scratch output target build).runFrom h =
        (.error error, clean scratch (build.runFrom h).2)) ∨
      ∃ h₂ f₃ events, build.runFrom h = (.ok (), h₂) ∧
        (Files.rename output target).runFrom h₂.files = (.ok (), f₃) ∧
        (publishFrom scratch output target build).runFrom h =
          (.ok (), clean scratch { h₂ with files := f₃, events }) := by
  rcases publishFrom_run scratch output target build h with
    ⟨error, -, hrun⟩ | ⟨hok, ⟨cause, -, hrun⟩ | ⟨f₃, events, hrename, hrun⟩⟩
  · exact Or.inl ⟨error, hrun⟩
  · exact Or.inl ⟨_, hrun⟩
  · exact Or.inr ⟨_, f₃, events, Prod.ext hok rfl, hrename, hrun⟩

end KernelForge.Store
