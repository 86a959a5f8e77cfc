import KernelForge.Proofs.Disk.Alike
import KernelForge.Proofs.Store.Publishing

/-!
# Two publications

Two builds that start from one scratch directory and answer the same, and where they succeed leave
the same file at the output, are published alike: what the publications answer is the same, and so
is what they leave, but for headers. Main statement: `publishFrom_alike`.
-/

namespace KernelForge

open Files

variable {f f₁ f₂ f₂' f₃ f₃' : Files} {scratch path target : Path} {T P : Place}
  {name output last : Bytes} {atHeader : Place → Prop}

namespace Files.Scratched

section Built

variable (h : Scratched f f₁ scratch T name) (hb : Built f₁ f₂ (T ++ [name] ++ [output]) atHeader)
  (hb' : Built f₁ f₂' (T ++ [name] ++ [output]) atHeader)

include h hb hb'

/-- What is left of two artifacts that were not published differs in a header at most. -/
theorem failed_shown {q : Place} (hq : ¬ atHeader q) :
    ((removeTree scratch).runFrom f₂').2.disk.shown? q =
      ((removeTree scratch).runFrom f₂).2.disk.shown? q := by
  obtain ⟨g, hrun, -, -, -, hstays⟩ := h.failed hb
  obtain ⟨g', hrun', -, -, -, hstays'⟩ := h.failed hb'
  rw [hrun, hrun']
  refine Disk.shown?_congr ?_
  rw [(hstays' q).resolve_right fun hh ↦ hq hh.1, (hstays q).resolve_right fun hh ↦ hq hh.1]

variable (haway : ∀ q, atHeader q → ¬ T ++ [name] ++ [output] <+: q)
  (hfile : ∀ n, f₂.disk.node? (T ++ [name] ++ [output]) = some n → n.isFile)
  (hfile' : ∀ n, f₂'.disk.node? (T ++ [name] ++ [output]) = some n → n.isFile)
  (hsame : f₂'.disk.shown? (T ++ [name] ++ [output]) = f₂.disk.shown? (T ++ [name] ++ [output]))

omit h hb hb' in
private theorem header_solid (hb : Built f₁ f₂ (T ++ [name] ++ [output]) atHeader)
    (haway : ∀ q, atHeader q → ¬ T ++ [name] ++ [output] <+: q) {q : Place} (hq : atHeader q)
    {n : Node} (hn : f₂.disk.node? q = some n) : n.isSolid := by
  rcases hb.header q hq (haway q hq) with he | ⟨m, hm, hmfile⟩
  · rcases hb.free q hq with hnone | ⟨m, hm, hsolid⟩
    · rw [he, hnone] at hn
      cases hn
    · rw [he, hm, Option.some.injEq] at hn
      exact hn ▸ hsolid
  · rw [hm, Option.some.injEq] at hn
    exact hn ▸ Node.isSolid_of_isFile hmfile

include haway hfile hfile' hsame

omit h in
/-- Where both builds leave the same file at the output, they leave trees that differ in a header at
most. -/
theorem built_alike : Alike atHeader f₂ f₂' where
  wellFormed := hb.wellFormed
  wellFormed' := hb'.wellFormed
  here := hb'.here.trans hb.here.symm
  elsewhere q hq := by
    by_cases hO : T ++ [name] ++ [output] <+: q
    · obtain ⟨rest, rfl⟩ := hO
      by_cases hrest : rest = []
      · rwa [hrest, List.append_nil]
      · -- nothing stands below a file
        have hbelow : ∀ {g : Files}, g.WellFormed →
            (∀ n, g.disk.node? (T ++ [name] ++ [output]) = some n → n.isFile) →
              g.disk.node? (T ++ [name] ++ [output] ++ rest) = none :=
          fun hg hgfile ↦ hg.disk.node?_below (fun s hs ↦ by cases hgfile _ hs) rest hrest
        refine Disk.shown?_congr ?_
        rw [hbelow hb.wellFormed hfile, hbelow hb'.wellFormed hfile']
    · exact Disk.shown?_congr ((hb'.stays q hO hq).trans (hb.stays q hO hq).symm)
  solid _ hq _ hn := header_solid hb haway hq hn
  solid' _ hq _ hn := header_solid hb' haway hq hn

variable
  (hpath : f₁.Locates path (T ++ [name]) output ∨ ∃ cause, ∀ g : Files, g.start path = .error cause)
  (htarget : ∀ spot, f.start target = .ok spot → f.Locates target P last ∨ f.Blocked target)

include hpath htarget

/-- Renaming what both builds left ends alike. -/
theorem rename_alike (hP : ¬ atHeader (P ++ [last])) :
    ((rename path target).runFrom f₂').1 = ((rename path target).runFrom f₂).1 := by
  have hhere : ∀ {g : Files}, Built f₁ g (T ++ [name] ++ [output]) atHeader → g.here = f.here :=
    fun hg ↦ hg.here.trans h.reaches.here
  have hsource : (∃ cause, ∀ g : Files, g.start path = .error cause) ∨
      f₂.Locates path (T ++ [name]) output ∧ f₂'.Locates path (T ++ [name]) output := by
    rcases hpath with hpath | herror
    · exact Or.inr ⟨hpath.extends h.reaches.wellFormed hb.wellFormed hb.here (h.scratch_extends hb),
        hpath.extends h.reaches.wellFormed hb'.wellFormed hb'.here (h.scratch_extends hb')⟩
    · exact Or.inl herror
  have htarget' : (∃ cause, ∀ g : Files, g.start target = .error cause) ∨
      (f₂.Locates target P last ∧ f₂'.Locates target P last) ∨
        f₂.Blocked target ∧ f₂'.Blocked target := by
    cases hstart : f.start target with
    | error cause => exact Or.inl ⟨cause, start_eq_error hstart⟩
    | ok spot =>
      rcases htarget spot hstart with hl | hbl
      · exact Or.inr (Or.inl ⟨hl.extends h.before hb.wellFormed (hhere hb) (h.built_extends hb),
          hl.extends h.before hb'.wellFormed (hhere hb') (h.built_extends hb')⟩)
      · exact Or.inr (Or.inr ⟨hbl.keeps h.before hb.wellFormed (hhere hb) (h.built_keeps hb),
          hbl.keeps h.before hb'.wellFormed (hhere hb') (h.built_keeps hb')⟩)
  refine (built_alike hb hb' haway hfile hfile' hsame).rename_answer_eq ?_ ?_ ?_ ?_
  · rcases hsource with ⟨cause, herror⟩ | ⟨hl, hl'⟩
    · simp [Files.ending, herror, bind, Except.bind]
    · rw [hl.ending, hl'.ending]
  · rcases htarget' with ⟨cause, herror⟩ | ⟨hl, hl'⟩ | ⟨hbl, hbl'⟩
    · simp [Files.ending, herror, bind, Except.bind]
    · rw [hl.ending, hl'.ending]
    · rw [hbl.ending, hbl'.ending]
  · intro place' last' hend
    rcases hsource with ⟨cause, herror⟩ | ⟨hl, -⟩
    · simp [Files.ending, herror, bind, Except.bind] at hend
    · rw [hl.ending, Except.ok.injEq, Ending.entry.injEq] at hend
      obtain ⟨rfl, rfl⟩ := hend
      exact ⟨fun hq ↦ haway _ hq (List.prefix_refl _), hfile⟩
  · intro place' last' hend
    rcases htarget' with ⟨cause, herror⟩ | ⟨hl, -⟩ | ⟨hbl, -⟩
    · simp [Files.ending, herror, bind, Except.bind] at hend
    · rw [hl.ending, Except.ok.injEq, Ending.entry.injEq] at hend
      obtain ⟨rfl, rfl⟩ := hend
      exact hP
    · rw [hbl.ending] at hend
      cases hend

/-- Two artifacts that are published leave trees that differ in a header at most. -/
theorem published_alike (hr : (rename path target).runFrom f₂ = (.ok (), f₃))
    (hr' : (rename path target).runFrom f₂' = (.ok (), f₃')) :
    Alike atHeader ((removeTree scratch).runFrom f₃).2 ((removeTree scratch).runFrom f₃').2 := by
  obtain ⟨n, -, -, -, hn⟩ := h.renamed hb hfile hpath htarget hr
  obtain ⟨n', -, -, -, hn'⟩ := h.renamed hb' hfile' hpath htarget hr'
  have hnn : n'.unnumbered = n.unnumbered := by
    rw [Disk.shown?, Disk.shown?, hn.stood, hn'.stood] at hsame
    exact Option.some.inj hsame
  have halike := (built_alike hb hb' haway hfile hfile' hsame).renamed hn.isFile hn'.isFile hnn
    hn.reaches hn'.reaches
  have hhere := hn.reaches.here.trans (hb.here.trans h.reaches.here)
  have hhere' := hn'.reaches.here.trans (hb'.here.trans h.reaches.here)
  obtain ⟨hway, hempty⟩ := h.cleanup_ways hn.reaches.wellFormed hhere hn.stays hn.keeps
  obtain ⟨hway', hempty'⟩ := h.cleanup_ways hn'.reaches.wellFormed hhere' hn'.stays hn'.keeps
  obtain ⟨s, hs⟩ := h.locates.isDirectory
  exact halike.removeTree hn.stays h.short ⟨s, hn.keeps.directory T s hs⟩ hway hway' hempty hempty'

end Built

end Files.Scratched

namespace Store

/-- Two builds that answer the same from one scratch directory, and where they succeed leave the
same file at the output, are published alike. -/
theorem publishFrom_alike {h : Host} (hs : Scratched f h.files scratch T name)
    {build build' : Act Host KernelError Unit}
    (hb : Built h.files (build.runFrom h).2.files (T ++ [name] ++ [output]) atHeader)
    (hb' : Built h.files (build'.runFrom h).2.files (T ++ [name] ++ [output]) atHeader)
    (haway : ∀ q, atHeader q → ¬ T ++ [name] ++ [output] <+: q)
    (hanswer : (build'.runFrom h).1 = (build.runFrom h).1)
    (hleft : (build.runFrom h).1 = .ok () →
      (∀ n, (build.runFrom h).2.files.disk.node? (T ++ [name] ++ [output]) = some n → n.isFile) ∧
      (∀ n, (build'.runFrom h).2.files.disk.node? (T ++ [name] ++ [output]) = some n → n.isFile) ∧
      (build'.runFrom h).2.files.disk.shown? (T ++ [name] ++ [output]) =
        (build.runFrom h).2.files.disk.shown? (T ++ [name] ++ [output]))
    (hpath : h.files.Locates path (T ++ [name]) output ∨
      ∃ cause, ∀ g : Files, g.start path = .error cause)
    (htarget : ∀ spot, f.start target = .ok spot → f.Locates target P last ∨ f.Blocked target)
    (hP : ¬ atHeader (P ++ [last])) :
    ((publishFrom scratch path target build').runFrom h).1 =
        ((publishFrom scratch path target build).runFrom h).1 ∧
      ∀ q, ¬ atHeader q →
        ((publishFrom scratch path target build').runFrom h).2.files.disk.shown? q =
          ((publishFrom scratch path target build).runFrom h).2.files.disk.shown? q := by
  rcases publishFrom_run scratch path target build h with
    ⟨error, herror, hrun⟩ | ⟨hok, hrest⟩
  · -- neither build succeeds
    rcases publishFrom_run scratch path target build' h with ⟨error', herror', hrun'⟩ | ⟨hok', -⟩
    · rw [hanswer, herror, Except.error.injEq] at herror'
      rw [hrun, hrun', herror']
      exact ⟨rfl, fun q hq ↦ hs.failed_shown hb hb' hq⟩
    · rw [hanswer, herror] at hok'
      cases hok'
  rcases publishFrom_run scratch path target build' h with ⟨error', herror', -⟩ | ⟨-, hrest'⟩
  · rw [hanswer, hok] at herror'
    cases herror'
  obtain ⟨hfile, hfile', hsame⟩ := hleft hok
  have hrename := hs.rename_alike hb hb' haway hfile hfile' hsame hpath htarget hP
  rcases hrest with ⟨cause, hcause, hrun⟩ | ⟨f₃, events, hren, hrun⟩
  · rcases hrest' with ⟨cause', hcause', hrun'⟩ | ⟨f₃', events', hren', -⟩
    · rw [hrename, hcause, Except.error.injEq] at hcause'
      rw [hrun, hrun', hcause']
      exact ⟨rfl, fun q hq ↦ hs.failed_shown hb hb' hq⟩
    · rw [hren', hcause] at hrename
      cases hrename
  · rcases hrest' with ⟨cause', hcause', -⟩ | ⟨f₃', events', hren', hrun'⟩
    · rw [hcause', hren] at hrename
      cases hrename
    · rw [hrun, hrun']
      exact ⟨rfl, (hs.published_alike hb hb' haway hfile hfile' hsame hpath htarget hren
        hren').elsewhere⟩

end Store

end KernelForge
