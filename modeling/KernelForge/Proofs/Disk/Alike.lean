import KernelForge.Proofs.Disk.Operations

/-!
# Trees that differ in a file

Two trees are alike but for some places if nothing but files stand at these places, and every other
place shows the same in both, whatever the serial number of a regular file. A name that is located
in the one is located in the other, so that renaming a file ends alike in both, and they stay alike.
Main statements: `Alike.rename_answer_eq`, `Alike.renamed` and `Alike.removeTree`.
-/

namespace KernelForge

/-! ### Serial numbers of regular files -/

namespace Node

/-- A node without the serial number of a regular file. -/
def unnumbered : Node → Node
  | file _ content runnable => file 0 content runnable
  | machine _ name => machine 0 name
  | n => n

variable {n n' : Node}

theorem unnumbered_eq_self (h : n.isSolid = false) : n.unnumbered = n := by
  cases n <;> first | rfl | cases h

/-- Directories and links are known without serial numbers of files. -/
theorem eq_of_unnumbered (h : n'.unnumbered = n.unnumbered) (hway : n.isSolid = false) :
    n' = n := by
  rw [unnumbered_eq_self hway] at h
  cases n <;> cases n' <;> simp_all [unnumbered, isSolid]

theorem isDirectory_eq_of_unnumbered (h : n'.unnumbered = n.unnumbered) :
    n'.isDirectory = n.isDirectory := by
  cases n <;> cases n' <;> simp_all [unnumbered, isDirectory]

theorem isDirectory_of_isFile (h : n.isFile) : n.isDirectory = false := by
  cases n <;> simp_all [isFile, isDirectory]

end Node

/-- What a place shows, without the serial number of a regular file. -/
def Disk.shown? (d : Disk) (q : Place) : Option Node := (d.node? q).map Node.unnumbered

/-- What a place shows without serial numbers is seen from what it shows. -/
theorem Disk.shown?_congr {d d' : Disk} {q : Place} (h : d'.node? q = d.node? q) :
    d'.shown? q = d.shown? q := by
  rw [shown?, shown?, h]

/-- Where one place shows something, so does the other. -/
theorem Disk.shown?_eq_iff {d d' : Disk} {q : Place} : d'.shown? q = d.shown? q ↔
    d'.node? q = none ∧ d.node? q = none ∨
      ∃ n n', d'.node? q = some n' ∧ d.node? q = some n ∧ n'.unnumbered = n.unnumbered := by
  rw [shown?, shown?]
  cases d'.node? q <;> cases d.node? q <;> simp

theorem Disk.any_isDirectory_eq {d d' : Disk} {q : Place} (h : d'.shown? q = d.shown? q) :
    (d'.node? q).any Node.isDirectory = (d.node? q).any Node.isDirectory := by
  rcases shown?_eq_iff.mp h with ⟨hn', hn⟩ | ⟨n, n', hn', hn, hsame⟩
  · rw [hn, hn']
  · rw [hn, hn', Option.any_some, Option.any_some, Node.isDirectory_eq_of_unnumbered hsame]

namespace Files

/-- Away from the places that are `apart`, two trees show the same; at these, nothing but files
stand. -/
structure Alike (apart : Place → Prop) (f f' : Files) : Prop where
  /-- The first tree can arise. -/
  wellFormed : f.WellFormed
  /-- The second tree can arise. -/
  wellFormed' : f'.WellFormed
  /-- The current directory is the same. -/
  here : f'.here = f.here
  /-- Elsewhere, both show the same. -/
  elsewhere : ∀ q, ¬ apart q → f'.disk.shown? q = f.disk.shown? q
  /-- Only files are apart in the first tree. -/
  solid : ∀ q, apart q → ∀ n, f.disk.node? q = some n → n.isSolid
  /-- Only files are apart in the second tree. -/
  solid' : ∀ q, apart q → ∀ n, f'.disk.node? q = some n → n.isSolid

theorem Locates.not_blocked {f : Files} {p : Path} {place : Place} {last : Bytes}
    (h : f.Locates p place last) : ¬ f.Blocked p := by
  intro hb
  have := hb.ending
  rw [h.ending] at this
  cases this

namespace Alike

variable {apart : Place → Prop} {f f' g g' : Files} {p old new : Path} {place : Place}
  {last : Bytes}

theorem symm (h : Alike apart f f') : Alike apart f' f :=
  ⟨h.wellFormed', h.wellFormed, h.here.symm, fun q hq ↦ (h.elsewhere q hq).symm, h.solid', h.solid⟩

/-- Directories and links are the same. -/
theorem «extends» (h : Alike apart f f') : f.disk.Extends f'.disk := by
  intro q n hn hway
  have hq : ¬ apart q := by
    intro hq
    rw [h.solid q hq n hn] at hway
    cases hway
  rcases Disk.shown?_eq_iff.mp (h.elsewhere q hq) with ⟨-, hnone⟩ | ⟨m, n', hn', hm, hsame⟩
  · rw [hn] at hnone
    cases hnone
  · obtain rfl := Option.some.inj (hm.symm.trans hn)
    rw [hn', Node.eq_of_unnumbered hsame hway]

/-- A name is located where it is located in the other tree. -/
theorem locates (h : Alike apart f f') (hl : f.Locates p place last) : f'.Locates p place last :=
  hl.extends h.wellFormed h.wellFormed' h.here h.extends

/-- A directory stands where it stands in the other tree. -/
theorem directory (h : Alike apart f f') {serial : Nat}
    (hn : f.disk.node? place = some (.directory serial)) :
    f'.disk.node? place = some (.directory serial) := h.extends _ _ hn rfl

theorem not_apart (h : Alike apart f f') {serial : Nat}
    (hn : f.disk.node? place = some (.directory serial)) : ¬ apart place := by
  intro hq
  cases h.solid _ hq _ hn

/-! ### Renaming a file -/

/-- Where both paths end alike, and neither end is apart, renaming a file ends alike. -/
theorem rename_answer_eq (h : Alike apart f f') (hold : f'.ending old = f.ending old)
    (hnew : f'.ending new = f.ending new)
    (hsource : ∀ place last, f.ending old = .ok (.entry place last) → ¬ apart (place ++ [last]) ∧
      ∀ n, f.disk.node? (place ++ [last]) = some n → n.isFile)
    (htarget : ∀ place last, f.ending new = .ok (.entry place last) → ¬ apart (place ++ [last])) :
    ((rename old new).runFrom f').1 = ((rename old new).runFrom f).1 := by
  rcases hend : f.ending old with cause | e
  · simp [rename, edit, hold, hend, bind, Except.bind]
  rcases hend' : f.ending new with cause | e'
  · simp [rename, edit, hold, hnew, hend, hend', bind, Except.bind]
  cases e with
  | here => cases e' <;> simp [rename, edit, hold, hnew, hend, hend', bind, Except.bind]
  | up => cases e' <;> simp [rename, edit, hold, hnew, hend, hend', bind, Except.bind]
  | entry place last =>
    cases e' with
    | here => simp [rename, edit, hold, hnew, hend, hend', bind, Except.bind]
    | up => simp [rename, edit, hold, hnew, hend, hend', bind, Except.bind]
    | entry place' last' =>
      obtain ⟨hapart, hfile⟩ := hsource place last hend
      rcases Disk.shown?_eq_iff.mp (h.elsewhere _ hapart) with ⟨hn', hn⟩ | ⟨n, n', hn', hn, hsame⟩
      · simp [rename, edit, hold, hnew, hend, hend', hn, hn', bind, Except.bind]
      · have hdir : n.isDirectory = false := Node.isDirectory_of_isFile (hfile n hn)
        rw [rename_answer hend hend' hn hdir, rename_answer (hold.trans hend) (hnew.trans hend') hn'
          ((Node.isDirectory_eq_of_unnumbered hsame).trans hdir),
          Disk.any_isDirectory_eq (h.elsewhere _ (htarget place' last' hend'))]

/-- Two trees stay alike when their views are changed alike. -/
theorem congr (h : Alike apart f f') {view view' : Place → Option Node} (hg : f.Reaches g view)
    (hg' : f'.Reaches g' view')
    (hview : ∀ q, ¬ apart q → (view' q).map Node.unnumbered = (view q).map Node.unnumbered)
    (hsolid : ∀ q, apart q → ∀ n, view q = some n ∨ view' q = some n → n.isSolid) :
    Alike apart g g' where
  wellFormed := hg.wellFormed
  wellFormed' := hg'.wellFormed
  here := hg'.here.trans (h.here.trans hg.here.symm)
  elsewhere q hq := by rw [Disk.shown?, Disk.shown?, hg.shows, hg'.shows, hview q hq]
  solid q hq n hn := hsolid q hq n (.inl ((hg.shows q).symm.trans hn))
  solid' q hq n hn := hsolid q hq n (.inr ((hg'.shows q).symm.trans hn))

/-- Trees in which the same file was given the same name stay alike. -/
theorem renamed (h : Alike apart f f') {source target : Place} {n n' : Node} (hfile : n.isFile)
    (hfile' : n'.isFile) (hsame : n'.unnumbered = n.unnumbered)
    (hg : f.Reaches g fun q ↦
      if q = target then some n else if q = source then none else f.disk.node? q)
    (hg' : f'.Reaches g' fun q ↦
      if q = target then some n' else if q = source then none else f'.disk.node? q) :
    Alike apart g g' := by
  refine h.congr hg hg' (fun q hq ↦ ?_) fun q hq m hm ↦ ?_
  · split
    · simp [hsame]
    · split
      · rfl
      · exact h.elsewhere q hq
  · split at hm
    · rcases hm with hm | hm
      · exact Option.some.inj hm ▸ Node.isSolid_of_isFile hfile
      · exact Option.some.inj hm ▸ Node.isSolid_of_isFile hfile'
    · split at hm
      · simp at hm
      · exact hm.elim (h.solid q hq m) (h.solid' q hq m)

/-! ### Removing a directory -/

section RemoveTree

variable {serial : Nat} (h : Alike apart f f')
  (hn : f.disk.node? (place ++ [last]) = some (.directory serial))

include h hn

/-- Trees in which the same directory was emptied stay alike. -/
theorem emptied (hg : f.Reaches g fun q ↦ if q = place ++ [last] then some (.directory serial)
      else if place ++ [last] <+: q then none else f.disk.node? q)
    (hg' : f'.Reaches g' fun q ↦ if q = place ++ [last] then some (.directory serial)
      else if place ++ [last] <+: q then none else f'.disk.node? q) : Alike apart g g' := by
  refine h.congr hg hg' (fun q hq ↦ ?_) fun q hq m hm ↦ ?_
  · split
    · rfl
    · split
      · rfl
      · exact h.elsewhere q hq
  · have hne : q ≠ place ++ [last] := by
      rintro rfl
      exact h.not_apart hn hq
    rw [if_neg hne, if_neg hne] at hm
    split at hm
    · simp at hm
    · exact hm.elim (h.solid q hq m) (h.solid' q hq m)

/-- Trees from which the same directory was removed stay alike. The path must lead to it or into a
file in each of them, also once it is emptied. -/
theorem removeTree (hshort : ¬ nameLimit < last.length) (hdir : f.disk.IsDirectory place)
    (hp : f.Locates p place last ∨ f.Blocked p) (hp' : f'.Locates p place last ∨ f'.Blocked p)
    (hempty : (f.emptyAt (place ++ [last]) serial).Locates p place last ∨
      (f.emptyAt (place ++ [last]) serial).Blocked p)
    (hempty' : (f'.emptyAt (place ++ [last]) serial).Locates p place last ∨
      (f'.emptyAt (place ++ [last]) serial).Blocked p) :
    Alike apart ((Files.removeTree p).runFrom f).2 ((Files.removeTree p).runFrom f').2 := by
  have hn' := h.directory hn
  have hdir' : f'.disk.IsDirectory place := by
    obtain ⟨s, hs⟩ := hdir
    exact ⟨s, h.directory hs⟩
  have halike := h.emptied hn (h.wellFormed.emptyAt hdir hn) (h.wellFormed'.emptyAt hdir' hn')
  -- what is located in the one tree is located in the other, so the same case holds for both
  rcases removeTree_cases h.wellFormed hp hshort hn hdir hempty with
    ⟨hl, hel, hg⟩ | ⟨hl, heb, hg⟩ | ⟨hb, hsame⟩
  · rcases removeTree_cases h.wellFormed' hp' hshort hn' hdir' hempty' with
      ⟨-, -, hg'⟩ | ⟨-, heb', -⟩ | ⟨hb', -⟩
    · refine h.congr hg hg' (fun q hq ↦ ?_) fun q hq m hm ↦ ?_
      · split
        · rfl
        · exact h.elsewhere q hq
      · split at hm
        · simp at hm
        · exact hm.elim (h.solid q hq m) (h.solid' q hq m)
    · exact absurd heb' (halike.locates hel).not_blocked
    · exact absurd hb' (h.locates hl).not_blocked
  · rcases removeTree_cases h.wellFormed' hp' hshort hn' hdir' hempty' with
      ⟨-, hel', -⟩ | ⟨-, -, hg'⟩ | ⟨hb', -⟩
    · exact absurd heb (halike.symm.locates hel').not_blocked
    · exact h.emptied hn hg hg'
    · exact absurd hb' (h.locates hl).not_blocked
  · rcases removeTree_cases h.wellFormed' hp' hshort hn' hdir' hempty' with
      ⟨hl', -, -⟩ | ⟨hl', -, -⟩ | ⟨-, hsame'⟩
    · exact absurd hb (h.symm.locates hl').not_blocked
    · exact absurd hb (h.symm.locates hl').not_blocked
    · rwa [hsame, hsame']

end RemoveTree

end Alike

end Files

end KernelForge
