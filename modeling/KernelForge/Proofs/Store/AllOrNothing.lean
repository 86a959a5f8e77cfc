import KernelForge.Proofs.Store.Publishing
import KernelForge.Proofs.Tool.Confined
import Mathlib

/-!
# All or nothing

A build may do whatever it likes in its scratch directory and may fail after that. Publishing what
it left either fails, and every place shows what it showed, or gives the output its name with all
that is below it, in place of what stood there, and the scratch directory is gone with the rest. The
scratch directory is removed by its path: where the artifact takes the place of a link which that
path follows, it may stay. Writing a prepared source is done wholly or not at all as well. Main
statement: `Store.all_or_nothing`. For the runs at the end, which `cbv` evaluates, the library is
imported whole.
-/

namespace KernelForge.Files

/-- The lookup of `p` follows the link at `place`: without that link it ends otherwise. -/
def Follows (f : Files) (p : Path) (place : Place) : Prop :=
  (∃ t, f.disk.node? place = some (.link t)) ∧
    Files.ending { f with disk := f.disk.erase place } p ≠ f.ending p

/-- What is renamed out of a directory does not take the place of that directory or of one above. -/
theorem Renames.not_above {f f' : Files} {home target : Place} {out : Bytes} {n : Node}
    (h : f.Renames f' (home ++ [out]) target n) : ¬ target <+: home :=
  fun hp ↦ h.above (hp.trans (List.prefix_append _ _))

namespace Scratched

variable {f f₁ f₂ f₃ : Files} {scratch : Path} {T : Place} {name : Bytes}
  (h : Scratched f f₁ scratch T name)

include h

/-- The path of the scratch directory leads to it. -/
theorem place_eq : f₁.place scratch = .ok (T ++ [name]) :=
  (h.locates.extends h.before h.reaches.wellFormed h.reaches.here h.extends).place_eq h.short
    h.shows_scratch (by simp) (Or.inr rfl)

/-! ### After a build in the scratch directory -/

section Inside

variable (hb : f₁.ChangesAt f₂ fun q ↦ T ++ [name] <+: q ∧ q ≠ T ++ [name])

include hb

/-- Elsewhere, every place shows what it showed before the scratch directory was made. -/
theorem elsewhere {q : Place} (hq : ¬ T ++ [name] <+: q) :
    f₂.disk.node? q = f.disk.node? q := by
  rw [hb.stays q fun ht ↦ hq ht.1, h.shows]
  rintro rfl
  exact hq (List.prefix_refl _)

theorem home_stays : f₂.disk.node? (T ++ [name]) = some (.directory f.disk.next) := by
  rw [hb.stays _ fun ht ↦ ht.2 rfl, h.shows_scratch]

theorem old_stays {q : Place} {n : Node} (hn : f.disk.node? q = some n) :
    f₂.disk.node? q = some n := by
  rw [h.elsewhere hb (h.not_prefix hn), hn]

/-- Once the scratch directory is removed, nothing shows that it was there. -/
theorem vanishes : ∃ g, (removeTree scratch).runFrom f₂ = (.ok (), g) ∧
    f.Reaches g f.disk.node? := by
  obtain ⟨g, hrun, hreaches⟩ := h.cleanup_extends hb.wellFormed (h.home_stays hb)
    fun q n hn _ ↦ h.old_stays hb hn
  refine ⟨g, hrun, hreaches.wellFormed, hreaches.here.trans (hb.here.trans h.reaches.here),
    fun q ↦ ?_⟩
  rw [hreaches.shows]
  split
  · next hq => exact (h.below hq).symm
  · next hq => exact h.elsewhere hb hq

/-- A name in the scratch directory is located there after the build, or its path is too long. -/
theorem output_stays {out : Bytes} (hout : Path.slash ∉ out) (hnil : out ≠ [])
    (hdot : out ≠ Path.dot) (hdotDot : out ≠ Path.dotDot) :
    f₂.Locates (scratch.join ⟨out⟩) (T ++ [name]) out ∨
      ∃ cause, f₂.ending (scratch.join ⟨out⟩) = .error cause := by
  rcases (h.output hout hnil hdot hdotDot).2 with hl | ⟨cause, hstart⟩
  · refine Or.inl (hl.extends h.reaches.wellFormed hb.wellFormed hb.here fun q n hn _ ↦ ?_)
    by_cases hq : q = T ++ [name]
    · rw [hq, h.shows_scratch] at hn
      rw [hq, h.home_stays hb, hn]
    · exact h.old_stays hb ((h.shows hq).symm.trans hn)
  · exact Or.inr ⟨cause, by simp [Files.ending, hstart, bind, Except.bind]⟩

/-! ### After the output is renamed -/

section Renamed

variable {out last : Bytes} {P : Place} {n : Node}
  (hr : f₂.Renames f₃ (T ++ [name] ++ [out]) (P ++ [last]) n)

include hr

/-- An output that is given another name in the scratch directory vanishes with it. -/
theorem vanishes_of_inside (hin : T ++ [name] <+: P) :
    ∃ g, (removeTree scratch).runFrom f₃ = (.ok (), g) ∧ f.Reaches g f.disk.node? := by
  refine h.vanishes ⟨hr.reaches.wellFormed, hr.reaches.here.trans hb.here, fun q hq ↦ ?_⟩
  have hstrict : ∀ (R : Place) (x : Bytes), T ++ [name] <+: R → ¬ R ++ [x] <+: q := by
    intro R x hR hx
    refine hq ⟨hR.trans ((List.prefix_append R [x]).trans hx), ?_⟩
    rintro rfl
    exact Place.not_below_self _ _ (hx.trans hR)
  rw [hr.reaches.shows, Disk.moved_outside (hstrict P last hin)
    (hstrict _ out (List.prefix_refl _)), hb.stays q hq]

/-- What stood before is there after the renaming, unless it gave way to the output. -/
theorem renamed_stays {q : Place} {m : Node} (hm : f.disk.node? q = some m)
    (hq : q ≠ P ++ [last]) : f₃.disk.node? q = some m :=
  hr.stays (h.old_stays hb hm)
    (fun hp ↦ h.not_prefix hm ((List.prefix_append _ _).trans hp)) hq

theorem renamed_home : f₃.disk.node? (T ++ [name]) = some (.directory f.disk.next) :=
  hr.stays (h.home_stays hb) (Place.not_below_self _ _)
    fun he ↦ hr.not_above (he ▸ List.prefix_refl _)

/-- Where the path of the scratch directory follows no link at the new place, it needs directories
and links only that are there after the renaming. -/
private theorem carries_renamed (hfollows : ¬ f.Follows scratch (P ++ [last])) :
    ∃ (d : Disk) (left : Nat),
      d.ending linkLimit (.place []) scratch = .ok (.entry T name, left) ∧
      (∀ q m, d.node? q = some m → f.disk.node? q = some m) ∧ d.Carries f₃.disk := by
  obtain ⟨d, left, hway, hd, hlink⟩ : ∃ (d : Disk) (left : Nat),
      d.ending linkLimit (.place []) scratch = .ok (.entry T name, left) ∧
      (∀ q m, d.node? q = some m → f.disk.node? q = some m) ∧
      ∀ t, d.node? (P ++ [last]) ≠ some (.link t) := by
    by_cases hlink : ∃ t, f.disk.node? (P ++ [last]) = some (.link t)
    · -- the path ends the same without the link
      have hend : Files.ending { f with disk := f.disk.erase (P ++ [last]) } scratch =
          f.ending scratch := by
        by_contra hne
        exact hfollows ⟨hlink, hne⟩
      rw [h.locates.ending] at hend
      obtain ⟨left, hway⟩ := (locates_of_isAbsolute h.absolute hend).ending_root h.absolute
      have hshow := Disk.node?_erase f.disk (show P ++ [last] ≠ [] by simp)
      refine ⟨f.disk.erase (P ++ [last]), left, hway, fun q m hm ↦ ?_, fun t ht ↦ ?_⟩
      · rw [hshow] at hm
        split at hm
        · cases hm
        · exact hm
      · rw [hshow, if_pos rfl] at ht
        cases ht
    · obtain ⟨left, hway⟩ := h.locates.ending_root h.absolute
      exact ⟨f.disk, left, hway, fun _ _ hm ↦ hm, fun t ht ↦ hlink ⟨t, ht⟩⟩
  refine ⟨d, left, hway, hd, fun q hq ↦ ?_, fun q t ht ↦ ?_⟩
  · obtain ⟨s, hs⟩ := hq
    by_cases hq : q = P ++ [last]
    · -- a directory takes the place of a directory
      subst hq
      have hdir := hr.replaced _ (h.old_stays hb (hd _ _ hs))
      have hn := hr.arrived
      cases n with
      | directory s' => exact ⟨s', hn⟩
      | _ => cases hdir
    · exact ⟨s, h.renamed_stays hb hr (hd _ _ hs) hq⟩
  · refine h.renamed_stays hb hr (hd _ _ ht) ?_
    rintro rfl
    exact hlink t ht

/-- Where a link at the new place gives way to what is no link, what stood stays, that link
apart. -/
private theorem keeps_renamed (hlink : ∃ t, f.disk.node? (P ++ [last]) = some (.link t))
    (hnew : ∀ t, n ≠ .link t) : f.disk.Keeps f₃.disk := by
  obtain ⟨t, ht⟩ := hlink
  have hsolid : n.isSolid := by
    have := hr.replaced _ (h.old_stays hb ht)
    cases n with
    | directory s => cases this
    | link t' => exact absurd rfl (hnew t')
    | _ => rfl
  have hne : ∀ {q m}, f.disk.node? q = some m → (∀ t, m ≠ .link t) → q ≠ P ++ [last] := by
    rintro q m hm hm' rfl
    rw [ht, Option.some.injEq] at hm
    exact hm' t hm.symm
  refine ⟨fun q s hs ↦ ?_, fun q t' ht' ↦ ?_, fun q hq ↦ ?_, fun q m hm hfile ↦ ?_⟩
  · exact h.renamed_stays hb hr hs (hne hs (by simp))
  · by_cases hq : q = P ++ [last]
    · exact Or.inr ⟨n, hq ▸ hr.arrived, hsolid⟩
    · exact Or.inl (h.renamed_stays hb hr ht' hq)
  · obtain ⟨m, hm, hm'⟩ := hq
    refine ⟨m, h.renamed_stays hb hr hm (hne hm ?_), hm'⟩
    rintro t rfl
    cases hm'
  · refine ⟨m, h.renamed_stays hb hr hm (hne hm ?_), hfile⟩
    rintro t rfl
    cases hfile

/-- Once the output has its name, removing the scratch directory touches nothing else, unless its
path follows a link that gave way to another one; and it is gone, unless its path follows a link
that gave way. -/
theorem renamed_cleaned (hcase : f.Follows scratch (P ++ [last]) → ∀ t, n ≠ .link t) :
    f₃.ChangesAt ((removeTree scratch).runFrom f₃).2 (T ++ [name] <+: ·) ∧
      (¬ f.Follows scratch (P ++ [last]) → ∀ q, T ++ [name] <+: q →
        ((removeTree scratch).runFrom f₃).2.disk.node? q = none) := by
  have hhere : f₃.here = f.here := hr.reaches.here.trans (hb.here.trans h.reaches.here)
  have hhome := h.renamed_home hb hr
  by_cases hfollows : f.Follows scratch (P ++ [last])
  · have hkeeps := h.keeps_renamed hb hr hfollows.1 (hcase hfollows)
    obtain ⟨hwell, hhere', hstays⟩ := h.cleanup_keeps hr.reaches.wellFormed hhere hhome hkeeps
    exact ⟨⟨hwell, hhere', hstays⟩, fun hno ↦ absurd hfollows hno⟩
  · obtain ⟨d, left, hway, hd, hc⟩ := h.carries_renamed hb hr hfollows
    obtain ⟨g, hrun, hreaches⟩ := h.cleanup_carries hr.reaches.wellFormed hhome hway hd hc
    rw [hrun]
    refine ⟨⟨hreaches.wellFormed, hreaches.here, fun q hq ↦ ?_⟩, fun _ q hq ↦ ?_⟩
    · rw [hreaches.shows, if_neg hq]
    · rw [hreaches.shows, if_pos hq]

/-- What stood at the output and below stands at the new place, and no other place outside the
scratch directory has changed. -/
theorem renamed_changes (hout : ¬ T ++ [name] <+: P) :
    (∀ rest, ¬ T ++ [name] <+: P ++ [last] ++ rest ∧
      f₃.disk.node? (P ++ [last] ++ rest) = f₂.disk.node? (T ++ [name] ++ [out] ++ rest)) ∧
    f.ChangesAt f₃ fun q ↦ P ++ [last] <+: q ∨ T ++ [name] <+: q := by
  refine ⟨fun rest ↦ ⟨fun hp ↦ ?_, ?_⟩, hr.reaches.wellFormed,
    hr.reaches.here.trans (hb.here.trans h.reaches.here), fun q hq ↦ ?_⟩
  · rcases List.prefix_or_prefix_of_prefix hp (List.prefix_append (P ++ [last]) rest) with hp | hp
    · rcases List.prefix_concat_iff.mp hp with he | hp
      · exact hr.not_above (he ▸ List.prefix_refl _)
      · exact hout hp
    · exact hr.not_above hp
  · rw [hr.reaches.shows, Disk.moved_append]
  · rw [not_or] at hq
    rw [hr.reaches.shows, Disk.moved_outside hq.1 fun hp ↦
      hq.2 ((List.prefix_append _ _).trans hp), h.elsewhere hb hq.2]

end Renamed

end Inside

end Scratched

end KernelForge.Files

namespace KernelForge.Store

open Files

/-! ### The law -/

/-- A run from `f` either failed, and every place shows what it showed, or it is `done`. -/
def AllOrNothing (f : Files) (done : Files → Prop) : Except KernelError Unit × Host → Prop
  | (.error _, h') => f.Reaches h'.files f.disk.node?
  | (.ok (), h') => done h'.files

/-- From `h`, a build for `target` changes nothing but what is in its scratch directory. -/
def BuildsInside (s : Store) (target : Path) (build : Path → Act Host KernelError Unit)
    (h : Host) : Prop :=
  ∀ scratch output h₁ home, (s.openScratch target).runFrom h = (.ok (scratch, output), h₁) →
    h₁.files.place scratch = .ok home →
    h₁.files.ChangesAt ((build output).runFrom h₁).2.files fun q ↦ home <+: q ∧ q ≠ home

/-- The way of an artifact from its build to its name. -/
structure Passage where
  /-- The path of the scratch directory. -/
  scratch : Path
  /-- The path that the build was handed. -/
  output : Path
  /-- Where the scratch directory was. -/
  home : Place
  /-- The name of the output in it. -/
  out : Bytes
  /-- The directory of the artifact. -/
  parent : Place
  /-- Its name there. -/
  last : Bytes

namespace Passage

/-- Where the build was asked to leave the artifact. -/
def source (r : Passage) : Place := r.home ++ [r.out]

/-- Where the artifact was to go. -/
def place (r : Passage) : Place := r.parent ++ [r.last]

end Passage

/-- What publishing at `target` has done that went well from `h` and leaves `g`: the build went from
`h₁` to `h₂`. -/
structure Published (s : Store) (target : Path) (build : Path → Act Host KernelError Unit)
    (h h₁ h₂ : Host) (r : Passage) (g : Files) : Prop where
  /-- The scratch directory was made. -/
  opened : (s.openScratch target).runFrom h = (.ok (r.scratch, r.output), h₁)
  /-- The path of the scratch directory led to it. -/
  home : h₁.files.place r.scratch = .ok r.home
  /-- Nothing stood there before. -/
  free : ∀ q, r.home <+: q → h.files.disk.node? q = none
  /-- The build went well. -/
  built : (build r.output).runFrom h₁ = (.ok (), h₂)
  /-- The output is a name in the scratch directory. -/
  output : h₂.files.ending r.output = .ok (.entry r.home r.out)
  /-- The build left something there. -/
  left : h₂.files.disk.node? r.source ≠ none
  /-- Where the path of the artifact led when the build was done. -/
  ending : h₂.files.ending target = .ok (.entry r.parent r.last)
  /-- It led there before as well, if it located a name. -/
  located : ∀ P last, h.files.Locates target P last → P = r.parent ∧ last = r.last
  /-- What is published in the scratch directory itself vanishes with it. -/
  inside : r.home <+: r.parent → h.files.Reaches g h.files.disk.node?
  /-- What the build left has its name, with all that is below it. No other place outside the
  scratch directory has changed. -/
  whole : ¬ r.home <+: r.parent →
    (h.files.Follows r.scratch r.place → ∀ t, h₂.files.disk.node? r.source ≠ some (.link t)) →
    (∀ rest, g.disk.node? (r.place ++ rest) = h₂.files.disk.node? (r.source ++ rest)) ∧
    h.files.ChangesAt g fun q ↦ r.place <+: q ∨ r.home <+: q
  /-- The scratch directory is gone with all that it held. -/
  gone : ¬ r.home <+: r.parent → ¬ h.files.Follows r.scratch r.place →
    ∀ q, r.home <+: q → g.disk.node? q = none

/-- A prepared source stands under the name that its path ended in. -/
def Written (h : Host) (path : Path) (source : String) (g : Files) : Prop :=
  ∃ parent last serial, h.files.ending path = .ok (.entry parent last) ∧
    h.files.Reaches g fun q ↦ if q = parent ++ [last] then
      some (.file serial (utf8 source) false) else h.files.disk.node? q

section Law

variable {s : Store} {target : Path} {build : Path → Act Host KernelError Unit} {h : Host}

/-- The output is a name in the scratch directory. -/
private theorem outputIn_eq (scratch target : Path) :
    ∃ out, outputIn scratch target = scratch.join ⟨out⟩ ∧ Path.slash ∉ out ∧ out ≠ [] ∧
      out ≠ Path.dot ∧ out ≠ Path.dotDot := by
  refine ⟨_, rfl, ?_⟩
  cases hname : target.fileName? with
  | none => decide
  | some name => exact Path.isName_of_fileName? hname

/-- An output that was renamed after a build in the scratch directory is published. -/
private theorem published_of_renamed {scratch : Path} {T : Place} {name : Bytes} {f₃ : Files}
    {h₁ h₂ : Host}
    (hopen : (s.openScratch target).runFrom h = (.ok (scratch, outputIn scratch target), h₁))
    (hs : Scratched h.files h₁.files scratch T name)
    (hbuild : (build (outputIn scratch target)).runFrom h₁ = (.ok (), h₂))
    (hb : h₁.files.ChangesAt h₂.files fun q ↦ T ++ [name] <+: q ∧ q ≠ T ++ [name])
    (hrename : (rename (outputIn scratch target) target).runFrom h₂.files = (.ok (), f₃)) :
    ∃ r, s.Published target build h h₁ h₂ r ((removeTree scratch).runFrom f₃).2 := by
  obtain ⟨out, hout, hslash, hnil, hdot, hdotDot⟩ := outputIn_eq scratch target
  have hend : h₂.files.ending (outputIn scratch target) = .ok (.entry (T ++ [name]) out) := by
    rw [hout] at hrename ⊢
    rcases hs.output_stays hb hslash hnil hdot hdotDot with hl | ⟨cause, hcause⟩
    · exact hl.ending
    · obtain ⟨disk, hc, -⟩ := edit_ok hrename
      simp [hcause, bind, Except.bind] at hc
  obtain ⟨n, P, last, hn, hnew, -, hrenamed⟩ := rename_renames hb.wellFormed hend hrename
  -- outside of the scratch directory, nothing is renamed to itself
  have hr : ¬ T ++ [name] <+: P →
      h₂.files.Renames f₃ (T ++ [name] ++ [out]) (P ++ [last]) n := by
    intro haway
    rcases hrenamed with ⟨he, -⟩ | hr
    · have := (List.append_inj' he rfl).1
      exact absurd (this ▸ List.prefix_refl _) haway
    · exact hr
  refine ⟨⟨scratch, outputIn scratch target, T ++ [name], out, P, last⟩, hopen, hs.place_eq,
    fun q hq ↦ hs.below hq, hbuild, hend, ?_, hnew, fun P' last' hl ↦ ?_, fun hin ↦ ?_,
    fun haway hcase ↦ ?_, fun haway hfollows ↦ ?_⟩
  · rw [Passage.source, hn]
    simp
  · have hl' := hl.extends hs.before hb.wellFormed (hb.here.trans hs.reaches.here)
      fun q m hm _ ↦ hs.old_stays hb hm
    rw [hl'.ending, Except.ok.injEq, Ending.entry.injEq] at hnew
    exact hnew
  · rcases hrenamed with ⟨-, rfl⟩ | hr
    · obtain ⟨g, hrun, hreaches⟩ := hs.vanishes hb
      rwa [hrun]
    · obtain ⟨g, hrun, hreaches⟩ := hs.vanishes_of_inside hb hr hin
      rwa [hrun]
  · obtain ⟨harrives, hchanges⟩ := hs.renamed_changes hb (hr haway) haway
    have hclean := (hs.renamed_cleaned hb (hr haway) fun hf t ht ↦ hcase hf t (ht ▸ hn)).1
    refine ⟨fun rest ↦ ?_, hchanges.trans (hclean.mono fun q hq ↦ Or.inr hq)⟩
    exact (hclean.stays _ (harrives rest).1).trans (harrives rest).2
  · exact (hs.renamed_cleaned hb (hr haway) fun hf ↦ absurd hf hfollows).2 hfollows

/-- Publishing what a build left that changes nothing but what is in its scratch directory is done
wholly or not at all, and so is writing a prepared source. -/
theorem all_or_nothing (s : Store) (target : Path) (build : Path → Act Host KernelError Unit)
    (h : Host) (hf : h.files.WellFormed) (hbuild : s.BuildsInside target build h) :
    AllOrNothing h.files (fun g ↦ ∃ h₁ h₂ r, s.Published target build h h₁ h₂ r g)
        ((s.publish target build).runFrom h) ∧
      ∀ paths source, AllOrNothing h.files (Written h paths.source source)
        ((s.writeSource paths source).runFrom h) := by
  constructor
  · rcases openScratch_cases hf s target with
      ⟨error, f', hopen, hsame⟩ | ⟨scratch, T, name, f₁, hopen, hs⟩
    · rw [publish, Act.runFrom_bind_error hopen]
      exact hsame
    have hb := hbuild scratch _ _ _ hopen hs.place_eq
    obtain ⟨g, hclean, hvanished⟩ := hs.vanishes hb
    rw [publish, Act.runFrom_bind_ok hopen]
    rcases publishFrom_run scratch (outputIn scratch target) target
        (build (outputIn scratch target)) { h with files := f₁ } with
      ⟨error, -, hrun⟩ | ⟨hok, ⟨cause, -, hrun⟩ | ⟨f₃, events, hrename, hrun⟩⟩
    · rw [hrun, clean, hclean]
      exact hvanished
    · rw [hrun, clean, hclean]
      exact hvanished
    · rw [hrun]
      obtain ⟨r, hpublished⟩ :=
        published_of_renamed hopen hs (Prod.ext hok rfl) hb hrename
      exact ⟨_, _, r, hpublished⟩
  · intro paths source
    rcases writeSource_ends s paths source hf with
      ⟨error, f', hrun, hsame⟩ | ⟨parent, last, serial, f', hrun, hend, -, -, -, hreaches⟩
    · rw [hrun]
      exact hsame
    · rw [hrun]
      exact ⟨parent, last, serial, hend, hreaches⟩

end Law

/-! ### Destinations with exceptions -/

section Exceptions

variable {s : Store} {target : Path} {h : Host}

/-- The build that works on the file where it is asked to leave the artifact. -/
def building (act : Path → Act Files Cause Unit) (output : Path) : Act Host KernelError Unit :=
  onFile output (act output)

/-- A build that touches its output alone changes nothing but what is in the scratch directory. -/
private theorem buildsInside_building {act : Path → Act Files Cause Unit} (hf : h.files.WellFormed)
    (hact : ∀ {f : Files} {p place last}, f.WellFormed → f.disk.node? (place ++ [last]) = none →
      (f.Locates p place last ∨ ∃ cause, f.start p = .error cause) →
      f.ChangesAt ((act p).runFrom f).2 (· = place ++ [last])) :
    s.BuildsInside target (building act) h := by
  intro scratch output h₁ home hopen hhome
  rcases openScratch_cases hf s target with
    ⟨error, f', hopen', -⟩ | ⟨scratch', T, name, f₁, hopen', hs⟩
  · simp [hopen'] at hopen
  obtain ⟨⟨rfl, rfl⟩, rfl⟩ : (scratch' = scratch ∧ outputIn scratch' target = output) ∧
      { h with files := f₁ } = h₁ := by
    simpa [hopen'] using hopen
  rw [hs.place_eq, Except.ok.injEq] at hhome
  subst hhome
  obtain ⟨out, hout, hslash, hnil, hdot, hdotDot⟩ := outputIn_eq scratch' target
  have hpath : f₁.Locates (scratch'.join ⟨out⟩) (T ++ [name]) out ∨
      ∃ cause, f₁.start (scratch'.join ⟨out⟩) = .error cause := by
    rcases (hs.output hslash hnil hdot hdotDot).2 with hl | ⟨cause, hstart⟩
    · exact Or.inl hl
    · exact Or.inr ⟨cause, hstart f₁⟩
  rw [building, onFile_run, hout]
  refine (hact hs.reaches.wellFormed ?_ hpath).mono fun q hq ↦ ?_
  · rw [hs.shows (by simp), hs.below (List.prefix_append _ _)]
  · rw [hq]
    exact ⟨List.prefix_append _ _, by simp⟩

/-- A build that writes its output builds inside. -/
theorem buildsInside_write (hf : h.files.WellFormed) (content : Bytes) :
    s.BuildsInside target (building (Files.write · content)) h := by
  refine buildsInside_building hf fun {f p place last} hwell hfree hpath ↦ ?_
  refine (write_changes hwell p content).1.mono fun q hq ↦ ?_
  rcases hpath with hl | ⟨cause, hstart⟩
  · exact hl.target_ok (by simp [hfree]) hq
  · simp [Files.target, hstart, bind, Except.bind] at hq

/-- A build that leaves a link builds inside. -/
theorem buildsInside_createLink (hf : h.files.WellFormed) (t : Path) :
    s.BuildsInside target (building (Files.createLink t)) h := by
  refine buildsInside_building hf fun {f p place last} hwell hfree hpath ↦ ?_
  rw [createLink]
  split_ifs
  · exact .refl hwell _
  · exact .refl hwell _
  · exact .refl hwell _
  rcases hr : (make p fun disk ↦ (.link t, disk)).runFrom f with ⟨cause | _, f'⟩
  · rw [edit_error hr]
    exact .refl hwell _
  obtain ⟨place', last', hend, -, hnone, rfl⟩ := make_ok hr
  have hput := hwell.put (n := .link t) (isDirectory_of_ending hend)
    (fun s hs ↦ by rw [hnone] at hs; cases hs) (by simp)
  refine ⟨hput.wellFormed, hput.here, fun q hq ↦ (hput.shows q).trans (if_neg ?_)⟩
  rcases hpath with hl | ⟨cause, hstart⟩
  · rw [hl.ending, Except.ok.injEq, Ending.entry.injEq] at hend
    rwa [← hend.1, ← hend.2]
  · simp [Files.ending, hstart, bind, Except.bind] at hend

/-- A host with an empty directory and a link to it, and with another directory, in which one has
the first scratch name. -/
def linkedHost : Host where
  files := {
    disk := {
      nodes := [([utf8 "l"], .link (.ofString "/r")), ([utf8 "r"], .directory 1),
        ([utf8 "o"], .directory 2), ([utf8 "o", utf8 ".build-000000"], .directory 3)]
      next := 4 }
    here := 0 }

/-- Publishes what `act` leaves on that host. -/
def publishLinked (store target : String) (act : Path → Act Files Cause Unit) :
    Except KernelError Unit × Host :=
  (publish ⟨.ofString store⟩ (.ofString target) (building act)).runFrom linkedHost

private theorem wellFormed_linkedHost : linkedHost.files.WellFormed := by decide +kernel

/-- In the directory itself, the artifact is published. -/
theorem all_or_nothing_unlinked : linkedHost.files.WellFormed ∧
    BuildsInside ⟨.ofString "/r"⟩ (.ofString "/r/k") (building (Files.write · (utf8 "x")))
      linkedHost ∧
    (publishLinked "/r" "/r/k" (Files.write · (utf8 "x"))).1 = .ok () ∧
    ∃ h₁ h₂ r, Published ⟨.ofString "/r"⟩ (.ofString "/r/k")
      (building (Files.write · (utf8 "x"))) linkedHost h₁ h₂ r
      (publishLinked "/r" "/r/k" (Files.write · (utf8 "x"))).2.files := by
  have hbuild : BuildsInside ⟨.ofString "/r"⟩ (.ofString "/r/k")
      (building (Files.write · (utf8 "x"))) linkedHost :=
    buildsInside_write wellFormed_linkedHost _
  have hok : (publishLinked "/r" "/r/k" (Files.write · (utf8 "x"))).1 = .ok () := by cbv
  refine ⟨wellFormed_linkedHost, hbuild, hok, ?_⟩
  have hlaw := (all_or_nothing ⟨.ofString "/r"⟩ (.ofString "/r/k")
    (building (Files.write · (utf8 "x"))) linkedHost wellFormed_linkedHost hbuild).1
  rw [← publishLinked] at hlaw
  generalize publishLinked "/r" "/r/k" (Files.write · (utf8 "x")) = result at hok hlaw ⊢
  obtain ⟨answer, h'⟩ := result
  obtain rfl : answer = .ok () := hok
  exact hlaw

/-- Where the artifact takes the place of the link that leads to the store, the scratch directory is
left; what is published in the scratch directory vanishes with it; and where the artifact is a link
that takes the place of that link, a directory elsewhere is removed in place of the scratch
directory, if it has its name. -/
theorem all_or_nothing_linked : linkedHost.files.WellFormed ∧
    (BuildsInside ⟨.ofString "/l"⟩ (.ofString "/l") (building (Files.write · (utf8 "x")))
        linkedHost ∧
      (publishLinked "/l" "/l" (Files.write · (utf8 "x"))).1 = .ok () ∧
      linkedHost.files.disk.node? [utf8 "r", utf8 ".build-000000"] = none ∧
      (publishLinked "/l" "/l" (Files.write · (utf8 "x"))).2.files.disk.node?
        [utf8 "r", utf8 ".build-000000"] = some (.directory 4)) ∧
    (BuildsInside ⟨.ofString "/r"⟩ (.ofString "/r/.build-000000/k")
        (building (Files.write · (utf8 "x"))) linkedHost ∧
      (publishLinked "/r" "/r/.build-000000/k" (Files.write · (utf8 "x"))).1 = .ok () ∧
      (publishLinked "/r" "/r/.build-000000/k" (Files.write · (utf8 "x"))).2.files.disk.node?
        [utf8 "r", utf8 ".build-000000", utf8 "k"] = none) ∧
    (BuildsInside ⟨.ofString "/l"⟩ (.ofString "/l")
        (building (Files.createLink (.ofString "/o"))) linkedHost ∧
      (publishLinked "/l" "/l" (Files.createLink (.ofString "/o"))).1 = .ok () ∧
      linkedHost.files.disk.node? [utf8 "o", utf8 ".build-000000"] = some (.directory 3) ∧
      (publishLinked "/l" "/l" (Files.createLink (.ofString "/o"))).2.files.disk.node?
        [utf8 "o", utf8 ".build-000000"] = none) := by
  have hf := wellFormed_linkedHost
  exact ⟨hf, ⟨buildsInside_write hf _, by cbv, by cbv, by cbv⟩,
    ⟨buildsInside_write hf _, by cbv, by cbv⟩,
    ⟨buildsInside_createLink hf _, by cbv, by cbv, by cbv⟩⟩

end Exceptions

end KernelForge.Store
