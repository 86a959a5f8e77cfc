import KernelForge.Disk.Files
import Mathlib.Data.List.Induction
import Mathlib.Data.List.Nodup

/-!
# Trees that can arise

In a tree of files every name stands in a directory, and no two directories have one serial number.
Main statements: every change that the file operations make keeps this (`WellFormed.put`,
`WellFormed.erase`, `WellFormed.eraseTree`, `WellFormed.move`), what a tree shows after a part of it
is moved (`node?_move`), and how a tree is checked (`wellFormed_iff`).
-/

namespace KernelForge

/-- Everything stands in a directory; directories are known by their serial numbers. -/
structure Disk.WellFormed (d : Disk) : Prop where
  /-- No place is listed twice. -/
  nodup : (d.nodes.map Prod.fst).Nodup
  /-- The root is not listed. -/
  root : [] ∉ d.nodes.map Prod.fst
  /-- What is not the root stands in a directory. -/
  parent : ∀ q n, q ≠ [] → d.node? q = some n → ∃ s, d.node? q.dropLast = some (.directory s)
  /-- No two directories have one serial number. -/
  serial : ∀ p q s, d.node? p = some (.directory s) → d.node? q = some (.directory s) → p = q
  /-- The serial numbers of directories are not fresh. -/
  used : ∀ q s, d.node? q = some (.directory s) → s < d.next

/-- The tree can arise, and the current directory has or had a serial number in it. -/
structure Files.WellFormed (f : Files) : Prop where
  /-- The tree can arise. -/
  disk : f.disk.WellFormed
  /-- The serial number of the current directory is not fresh. -/
  here : f.here < f.disk.next

/-- No place is below itself. -/
theorem Place.not_below_self (place : Place) (name : Bytes) : ¬ place ++ [name] <+: place := by
  intro h
  have hlength := h.length_le
  rw [List.length_append, List.length_singleton] at hlength
  omega

/-- No place but the root is the directory that it stands in, or above it. -/
theorem Place.not_below_parent {place : Place} (hplace : place ≠ []) :
    ¬ place <+: place.dropLast := by
  obtain ⟨parent, name, rfl⟩ := (List.eq_nil_or_concat' place).resolve_left hplace
  rw [List.dropLast_concat]
  exact Place.not_below_self parent name

namespace Disk

variable {d : Disk} {p q place : Place}

@[simp] theorem node?_nil (d : Disk) : d.node? [] = some (.directory rootSerial) := rfl

/-- A place where nothing stands is not listed, and the other way round, the root apart. -/
theorem node?_eq_none_iff (hq : q ≠ []) : d.node? q = none ↔ q ∉ d.nodes.map Prod.fst := by
  rw [node?, if_neg hq, List.lookup_eq_none_iff]
  constructor
  · intro h hm
    obtain ⟨e, he, rfl⟩ := List.mem_map.mp hm
    simpa using h e he
  · intro h e he
    have : q ≠ e.1 := fun hqe ↦ h (hqe ▸ List.mem_map_of_mem he)
    simpa using this

/-- What is listed is what stands there, where no place is listed twice. -/
theorem node?_eq_some_iff (hd : (d.nodes.map Prod.fst).Nodup) (hq : q ≠ []) {n : Node} :
    d.node? q = some n ↔ (q, n) ∈ d.nodes := by
  rw [node?, if_neg hq, List.lookup_eq_some_iff]
  constructor
  · rintro ⟨before, after, hnodes, -⟩
    simp [hnodes]
  · intro h
    obtain ⟨before, after, hnodes⟩ := List.append_of_mem h
    refine ⟨before, after, hnodes, fun e he ↦ ?_⟩
    rw [hnodes, List.map_append, List.map_cons, List.nodup_append] at hd
    simpa [bne_iff_ne] using (hd.2.2 _ (List.mem_map_of_mem he) q (by simp)).symm

/-- Only serial numbers that are taken change what the next one is. -/
@[simp] theorem node?_fresh (d : Disk) (q : Place) : d.fresh.2.node? q = d.node? q := rfl

/-- What a tree shows once everything at `old` and below stands at `new` instead. -/
def moved (d : Disk) (old new q : Place) : Option Node :=
  if new <+: q then d.node? (old ++ q.drop new.length)
  else if old <+: q then none else d.node? q

section Moved

variable {old new : Place}

@[simp] theorem moved_append (d : Disk) (old new rest : Place) :
    d.moved old new (new ++ rest) = d.node? (old ++ rest) := by
  simp [moved]

theorem moved_outside (hn : ¬ new <+: q) (ho : ¬ old <+: q) :
    d.moved old new q = d.node? q := by
  rw [moved, if_neg hn, if_neg ho]

/-- Nothing shows at the old place any more. -/
theorem not_prefix_of_moved {n : Node} (hn : ¬ new <+: q) (h : d.moved old new q = some n) :
    ¬ old <+: q := by
  intro ho
  rw [moved, if_neg hn, if_pos ho] at h
  cases h

end Moved

namespace WellFormed

/-- Nothing stands below what is no directory. -/
theorem node?_below (hd : d.WellFormed) (hp : ∀ s, d.node? p ≠ some (.directory s))
    (rest : List Bytes) (hrest : rest ≠ []) : d.node? (p ++ rest) = none := by
  induction rest using List.reverseRecOn with
  | nil => exact absurd rfl hrest
  | append_singleton rest name ih =>
    cases h : d.node? (p ++ (rest ++ [name])) with
    | none => rfl
    | some n =>
      obtain ⟨s, hs⟩ := hd.parent _ n (by simp) h
      rw [← List.append_assoc, List.dropLast_concat] at hs
      by_cases hr : rest = []
      · rw [hr, List.append_nil] at hs
        exact absurd hs (hp s)
      · rw [ih hr] at hs
        cases hs

/-- Nothing stands at or below a place where nothing stands. -/
theorem node?_beneath (hd : d.WellFormed) (hp : d.node? p = none) (h : p <+: q) :
    d.node? q = none := by
  obtain ⟨rest, rfl⟩ := h
  by_cases hr : rest = []
  · rwa [hr, List.append_nil]
  · exact hd.node?_below (by simp [hp]) rest hr

/-- Below what is no directory there is nothing to move. -/
theorem moved_eq (hd : d.WellFormed) {old new : Place} {n : Node} (hnode : d.node? old = some n)
    (hfile : ∀ s, n ≠ .directory s) (hapart : ¬ new <+: old)
    (hfree : ∀ rest, rest ≠ [] → d.node? (new ++ rest) = none) (q : Place) :
    d.moved old new q = if q = new then some n else if q = old then none else d.node? q := by
  have hold : ∀ s, d.node? old ≠ some (.directory s) := by
    intro s hs
    rw [hnode, Option.some.injEq] at hs
    exact hfile s hs
  by_cases hqn : new <+: q
  · obtain ⟨rest, rfl⟩ := hqn
    rw [moved_append]
    by_cases hrest : rest = []
    · simp [hrest, hnode]
    · have hne : new ++ rest ≠ old := fun he ↦ hapart ⟨rest, he⟩
      rw [hd.node?_below hold rest hrest, if_neg (by simpa using hrest), if_neg hne,
        hfree rest hrest]
  · have hne : q ≠ new := by
      rintro rfl
      exact hqn (List.prefix_refl _)
    rw [moved, if_neg hqn, if_neg hne]
    by_cases hqo : old <+: q
    · obtain ⟨rest, rfl⟩ := hqo
      by_cases hrest : rest = []
      · simp [hrest]
      · simp [hrest, hd.node?_below hold rest hrest]
    · rw [if_neg hqo, if_neg]
      rintro rfl
      exact hqo (List.prefix_refl _)

/-- The parent of a directory is a directory. -/
theorem dropLast (hd : d.WellFormed) {s : Nat} (h : d.node? p = some (.directory s)) :
    ∃ s', d.node? p.dropLast = some (.directory s') := by
  by_cases hp : p = []
  · exact ⟨s, by simpa [hp] using h⟩
  · exact hd.parent p _ hp h

/-- Taking a serial number keeps a tree well-formed. -/
theorem fresh (hd : d.WellFormed) : d.fresh.2.WellFormed where
  nodup := hd.nodup
  root := hd.root
  parent := hd.parent
  serial := hd.serial
  used q s h := Nat.lt_succ_of_lt (hd.used q s h)

private theorem keys_put (d : Disk) (place : Place) (node : Node) :
    (d.put place node).nodes.map Prod.fst =
      place :: (d.nodes.map Prod.fst).filter (· ≠ place) := by
  simp only [put, erase, List.map_cons, List.filter_map]
  rfl

/-- A node may be set below a directory, in place of what stood there; in place of a directory only
one of its own serial number, or of one that no other directory has. -/
theorem put (hd : d.WellFormed) (hplace : place ≠ [])
    (hparent : ∃ s, d.node? place.dropLast = some (.directory s)) {node : Node}
    (hkeep : ∀ s, d.node? place = some (.directory s) → ∃ s', node = .directory s')
    (hserial : ∀ s, node = .directory s →
      s < d.next ∧ ∀ q, d.node? q = some (.directory s) → q = place) :
    (d.put place node).WellFormed where
  nodup := by
    rw [keys_put, List.nodup_cons]
    exact ⟨by simp, hd.nodup.filter _⟩
  root := by
    rw [keys_put, List.mem_cons, not_or]
    exact ⟨Ne.symm hplace, fun h ↦ hd.root (List.mem_filter.mp h).1⟩
  parent q n hq h := by
    have hne : place.dropLast ≠ place := by
      intro he
      have hup := Place.not_below_parent hplace
      rw [he] at hup
      exact hup (List.prefix_refl _)
    rw [node?_put d hplace] at h
    by_cases hqp : q = place
    · obtain ⟨s, hs⟩ := hparent
      exact ⟨s, by rw [hqp, node?_put d hplace, if_neg hne, hs]⟩
    · rw [if_neg hqp] at h
      obtain ⟨s, hs⟩ := hd.parent q n hq h
      by_cases hparentPlace : q.dropLast = place
      · obtain ⟨s', rfl⟩ := hkeep s (hparentPlace ▸ hs)
        exact ⟨s', by rw [node?_put d hplace, if_pos hparentPlace]⟩
      · exact ⟨s, by rw [node?_put d hplace, if_neg hparentPlace, hs]⟩
  serial p q s hp hq := by
    rw [node?_put d hplace] at hp hq
    by_cases hpp : p = place <;> by_cases hqp : q = place
    · rw [hpp, hqp]
    · rw [if_pos hpp, Option.some.injEq] at hp
      rw [if_neg hqp] at hq
      rw [hpp, (hserial s hp).2 q hq]
    · rw [if_pos hqp, Option.some.injEq] at hq
      rw [if_neg hpp] at hp
      rw [hqp, (hserial s hq).2 p hp]
    · rw [if_neg hpp] at hp
      rw [if_neg hqp] at hq
      exact hd.serial p q s hp hq
  used q s h := by
    rw [node?_put d hplace] at h
    by_cases hqp : q = place
    · rw [if_pos hqp, Option.some.injEq] at h
      exact (hserial s h).1
    · rw [if_neg hqp] at h
      exact hd.used q s h

/-- A file may be set below a directory, where no directory stood. -/
theorem putFile (hd : d.WellFormed) (hplace : place ≠ [])
    (hparent : ∃ s, d.node? place.dropLast = some (.directory s)) {node : Node}
    (hold : ∀ s, d.node? place ≠ some (.directory s)) (hnew : ∀ s, node ≠ .directory s) :
    (d.put place node).WellFormed :=
  hd.put hplace hparent (fun s h ↦ absurd h (hold s)) fun s h ↦ absurd h (hnew s)

private theorem keep (hd : d.WellFormed) (keep : Place → Bool) {nodes : List (Place × Node)}
    {removed : List (Nat × Nat)} (hnodes : nodes = d.nodes.filter fun e ↦ keep e.1)
    (hnode : ∀ q, q ≠ [] →
      Disk.node? { d with nodes := nodes, removed := removed } q =
        if keep q then d.node? q else none)
    (hup : ∀ q n, q ≠ [] → d.node? q = some n → keep q → q.dropLast ≠ [] → keep q.dropLast) :
    Disk.WellFormed { d with nodes := nodes, removed := removed } where
  nodup := by
    subst hnodes
    exact (hd.nodup.sublist (List.filter_sublist.map Prod.fst))
  root := by
    subst hnodes
    intro h
    exact hd.root ((List.filter_sublist.map Prod.fst).subset h)
  parent q n hq h := by
    rw [hnode q hq] at h
    by_cases hk : keep q
    · rw [if_pos hk] at h
      obtain ⟨s, hs⟩ := hd.parent q n hq h
      by_cases hr : q.dropLast = []
      · exact ⟨rootSerial, by rw [hr]; rfl⟩
      · exact ⟨s, by rw [hnode _ hr, if_pos (hup q n hq h hk hr), hs]⟩
    · rw [if_neg hk] at h
      cases h
  serial p q s hp hq := by
    have hshown : ∀ r, Disk.node? { d with nodes := nodes, removed := removed } r =
        some (.directory s) → d.node? r = some (.directory s) := by
      intro r hr
      by_cases hnil : r = []
      · subst hnil
        exact hr
      · rw [hnode r hnil] at hr
        split at hr
        · exact hr
        · cases hr
    exact hd.serial p q s (hshown p hp) (hshown q hq)
  used q s h := by
    by_cases hnil : q = []
    · subst hnil
      exact hd.used [] s h
    · rw [hnode q hnil] at h
      split at h
      · exact hd.used q s h
      · cases h

/-- What is no directory may be removed. -/
theorem erase (hd : d.WellFormed) (hplace : place ≠ [])
    (hold : ∀ s, d.node? place ≠ some (.directory s)) : (d.erase place).WellFormed := by
  refine hd.keep (fun q ↦ decide (q ≠ place)) rfl ?_ ?_
  · intro q _
    have := node?_erase d hplace q
    simp only [Disk.erase] at this
    rw [this]
    by_cases hq : q = place <;> simp [hq]
  · intro q n hq h _ _
    obtain ⟨s, hs⟩ := hd.parent q n hq h
    have : q.dropLast ≠ place := fun he ↦ hold s (he ▸ hs)
    simpa using this

/-- A part of the tree may be removed. -/
theorem eraseTree (hd : d.WellFormed) (hplace : place ≠ []) : (d.eraseTree place).WellFormed := by
  refine hd.keep (fun q ↦ decide (¬ place <+: q)) rfl ?_ ?_
  · intro q _
    have := node?_eraseTree d hplace q
    simp only [Disk.eraseTree] at this
    rw [this]
    by_cases hq : place <+: q <;> simp [hq]
  · intro q n _ _ hk _
    have hk : ¬ place <+: q := by simpa using hk
    have : ¬ place <+: q.dropLast := fun h ↦ hk (h.trans (List.dropLast_prefix q))
    simpa using this

/-! ### Moving a part of the tree -/

/-- Where an entry goes when everything at `old` and below goes to `new`. -/
private def relocate (old new p : Place) : Place :=
  if old <+: p then new ++ p.drop old.length else p

private theorem relocate_append (old new rest : Place) :
    relocate old new (old ++ rest) = new ++ rest := by
  simp [relocate]

private theorem relocate_outside {old new p : Place} (h : ¬ old <+: p) :
    relocate old new p = p := if_neg h

/-- What shows after the move stood somewhere, and went where its place goes. -/
private theorem exists_relocate {old new : Place} {n : Node} (h : d.moved old new q = some n) :
    ∃ p, d.node? p = some n ∧ relocate old new p = q := by
  by_cases hqn : new <+: q
  · obtain ⟨rest, rfl⟩ := hqn
    rw [moved_append] at h
    exact ⟨old ++ rest, h, relocate_append ..⟩
  · have hqo : ¬ old <+: q := not_prefix_of_moved hqn h
    rw [moved_outside hqn hqo] at h
    exact ⟨q, h, relocate_outside hqo⟩

private theorem keys_move (d : Disk) (old new : Place) :
    (d.move old new).nodes.map Prod.fst = (d.nodes.map Prod.fst).map (relocate old new) := by
  simp only [Disk.move, List.map_map]
  rfl

private theorem mem_move {old new : Place} {n : Node} : (q, n) ∈ (d.move old new).nodes ↔
    ∃ p, (p, n) ∈ d.nodes ∧ relocate old new p = q := by
  simp only [Disk.move, List.mem_map, Prod.ext_iff, Prod.exists, relocate]
  constructor
  · rintro ⟨p, m, hp, hq, rfl⟩
    exact ⟨p, hp, hq⟩
  · rintro ⟨p, hp, hq⟩
    exact ⟨p, n, hp, hq, rfl⟩

section Move

variable (hd : d.WellFormed) {old new : Place} (hold : old ≠ []) (hne : new ≠ [])
  (hnew : d.node? new = none)

include hd hne hnew

/-- Nothing is listed at a free place or below. -/
private theorem not_listed (h : new <+: q) : q ∉ d.nodes.map Prod.fst := by
  have hq : q ≠ [] := by
    rintro rfl
    exact hne (List.prefix_nil.mp h)
  exact (node?_eq_none_iff hq).mp (hd.node?_beneath hnew h)

private theorem nodup_move : ((d.move old new).nodes.map Prod.fst).Nodup := by
  rw [keys_move]
  refine List.Nodup.map_on ?_ hd.nodup
  intro p hp q hq h
  by_cases hpo : old <+: p <;> by_cases hqo : old <+: q
  · obtain ⟨r, rfl⟩ := hpo
    obtain ⟨r', rfl⟩ := hqo
    rw [relocate_append, relocate_append] at h
    rw [List.append_cancel_left h]
  · obtain ⟨r, rfl⟩ := hpo
    rw [relocate_append, relocate_outside hqo] at h
    exact absurd hq (hd.not_listed hne hnew ⟨r, h⟩)
  · obtain ⟨r, rfl⟩ := hqo
    rw [relocate_append, relocate_outside hpo] at h
    exact absurd hp (hd.not_listed hne hnew ⟨r, h.symm⟩)
  · rwa [relocate_outside hpo, relocate_outside hqo] at h

include hold

/-- After a part of the tree is moved, it shows at its new place, nothing at the old one, and every
other place what it showed before. -/
theorem node?_move (q : Place) : (d.move old new).node? q = d.moved old new q := by
  have hnodup : ((d.move old new).nodes.map Prod.fst).Nodup := hd.nodup_move hne hnew
  by_cases hq : q = []
  · subst hq
    simp [moved, hold, hne]
  refine Option.ext fun n ↦ (node?_eq_some_iff hnodup hq).trans (mem_move.trans ?_)
  rw [moved]
  split
  · next h =>
    obtain ⟨rest, rfl⟩ := h
    rw [List.drop_left, node?_eq_some_iff hd.nodup (by simp [hold])]
    constructor
    · rintro ⟨p, hp, hpq⟩
      by_cases hpo : old <+: p
      · obtain ⟨r, rfl⟩ := hpo
        rw [relocate_append] at hpq
        rwa [← List.append_cancel_left hpq]
      · rw [relocate_outside hpo] at hpq
        exact absurd (List.mem_map_of_mem hp) (hd.not_listed hne hnew ⟨rest, hpq.symm⟩)
    · exact fun hp ↦ ⟨_, hp, relocate_append ..⟩
  · next hqn =>
    have houtside : ∀ p, relocate old new p = q → ¬ old <+: p ∧ p = q := by
      intro p hpq
      by_cases hpo : old <+: p
      · obtain ⟨r, rfl⟩ := hpo
        rw [relocate_append] at hpq
        exact absurd ⟨r, hpq⟩ hqn
      · exact ⟨hpo, (relocate_outside hpo).symm.trans hpq⟩
    split
    · next hqo =>
      refine ⟨?_, fun h ↦ by cases h⟩
      rintro ⟨p, -, hpq⟩
      obtain ⟨hpo, rfl⟩ := houtside p hpq
      exact absurd hqo hpo
    · next hqo =>
      rw [node?_eq_some_iff hd.nodup hq]
      constructor
      · rintro ⟨p, hp, hpq⟩
        exact (houtside p hpq).2 ▸ hp
      · exact fun hp ↦ ⟨q, hp, relocate_outside hqo⟩

/-- A part of the tree may be moved to a free place in a directory outside of it. -/
theorem move (hapart : ¬ old <+: new)
    (hparent : ∃ s, d.node? new.dropLast = some (.directory s)) :
    (d.move old new).WellFormed := by
  have hshow : ∀ q, (d.move old new).node? q = d.moved old new q := hd.node?_move hold hne hnew
  refine ⟨hd.nodup_move hne hnew, ?_, ?_, ?_, ?_⟩
  · rw [keys_move, List.mem_map]
    rintro ⟨p, hp, hpq⟩
    by_cases hpo : old <+: p
    · obtain ⟨r, rfl⟩ := hpo
      rw [relocate_append] at hpq
      exact hne (List.append_eq_nil_iff.mp hpq).1
    · rw [relocate_outside hpo] at hpq
      exact hd.root (hpq ▸ hp)
  · intro q n hq h
    rw [hshow] at h ⊢
    by_cases hqn : new <+: q
    · obtain ⟨rest, rfl⟩ := hqn
      by_cases hrest : rest = []
      · obtain ⟨s, hs⟩ := hparent
        refine ⟨s, ?_⟩
        rw [hrest, List.append_nil, moved_outside (Place.not_below_parent hne), hs]
        exact fun ho ↦ hapart (ho.trans (List.dropLast_prefix new))
      · rw [moved_append] at h
        obtain ⟨s, hs⟩ := hd.parent _ n (by simp [hold]) h
        rw [List.dropLast_append_of_ne_nil hrest] at hs ⊢
        exact ⟨s, by rw [moved_append, hs]⟩
    · have hqo : ¬ old <+: q := not_prefix_of_moved hqn h
      rw [moved_outside hqn hqo] at h
      obtain ⟨s, hs⟩ := hd.parent q n hq h
      refine ⟨s, ?_⟩
      rw [moved_outside, hs]
      · exact fun hn ↦ hqn (hn.trans (List.dropLast_prefix q))
      · exact fun ho ↦ hqo (ho.trans (List.dropLast_prefix q))
  · intro p q s hp hq
    rw [hshow] at hp hq
    obtain ⟨p', hp', rfl⟩ := exists_relocate hp
    obtain ⟨q', hq', rfl⟩ := exists_relocate hq
    rw [hd.serial p' q' s hp' hq']
  · intro q s h
    rw [hshow] at h
    obtain ⟨p, hp, -⟩ := exists_relocate h
    exact hd.used p s hp

end Move

end WellFormed

end Disk

/-! ### Checking a tree -/

/-- The serial number of a directory. -/
def Node.serial? : Node → Option Nat
  | directory s => some s
  | _ => none

theorem Node.serial?_eq_some_iff {n : Node} {s : Nat} : n.serial? = some s ↔ n = .directory s := by
  cases n <;> simp [serial?]

namespace Disk

variable {d : Disk} {q : Place}

/-- Everything that stands in a tree, the root included. -/
def listed (d : Disk) : List (Place × Node) := ([], .directory rootSerial) :: d.nodes

private theorem mem_listed_iff (hd : (d.nodes.map Prod.fst).Nodup)
    (hroot : [] ∉ d.nodes.map Prod.fst) {n : Node} : (q, n) ∈ d.listed ↔ d.node? q = some n := by
  by_cases hq : q = []
  · subst hq
    have hno : ([], n) ∉ d.nodes := fun h ↦ hroot (List.mem_map_of_mem h)
    simp [listed, hno, eq_comm]
  · rw [node?_eq_some_iff hd hq, listed, List.mem_cons]
    simp [hq]

/-- Whether a tree can arise can be seen from what it lists. -/
theorem wellFormed_iff (d : Disk) : d.WellFormed ↔ (d.nodes.map Prod.fst).Nodup ∧
    [] ∉ d.nodes.map Prod.fst ∧
    (∀ e ∈ d.nodes, (d.node? e.1.dropLast).any fun n ↦ n.serial?.isSome) ∧
    (∀ e ∈ d.listed, ∀ e' ∈ d.listed, e.2.serial?.isSome → e.2 = e'.2 → e.1 = e'.1) ∧
    ∀ e ∈ d.listed, e.2.serial?.all (· < d.next) := by
  constructor
  · intro hd
    have hmem : ∀ {q n}, (q, n) ∈ d.listed → d.node? q = some n :=
      (mem_listed_iff hd.nodup hd.root).mp
    refine ⟨hd.nodup, hd.root, ?_, ?_, ?_⟩
    · rintro ⟨q, n⟩ he
      have hq : q ≠ [] := fun hq ↦ hd.root (hq ▸ List.mem_map_of_mem he)
      obtain ⟨s, hs⟩ := hd.parent q n hq (hmem (List.mem_cons_of_mem _ he))
      simp [hs, Node.serial?]
    · rintro ⟨q, n⟩ he ⟨q', n'⟩ he' hdir rfl
      obtain ⟨s, hs⟩ := Option.isSome_iff_exists.mp hdir
      rw [Node.serial?_eq_some_iff] at hs
      subst hs
      exact hd.serial q q' s (hmem he) (hmem he')
    · rintro ⟨q, n⟩ he
      cases hs : n.serial? with
      | none => rfl
      | some s =>
        rw [Node.serial?_eq_some_iff] at hs
        subst hs
        simpa using hd.used q s (hmem he)
  · rintro ⟨hnodup, hroot, hparent, hserial, hused⟩
    have hmem : ∀ {q n}, d.node? q = some n → (q, n) ∈ d.listed := (mem_listed_iff hnodup hroot).mpr
    refine ⟨hnodup, hroot, fun q n hq hn ↦ ?_, fun p q s hp hq ↦ ?_, fun q s hq ↦ ?_⟩
    · have := hparent _ ((node?_eq_some_iff hnodup hq).mp hn)
      obtain ⟨m, hm, hdir⟩ := (Option.any_eq_true _ _).mp this
      obtain ⟨s, hs⟩ := Option.isSome_iff_exists.mp hdir
      exact ⟨s, by rw [hm, Node.serial?_eq_some_iff.mp hs]⟩
    · exact hserial _ (hmem hp) _ (hmem hq) rfl rfl
    · simpa [Node.serial?] using hused _ (hmem hq)

instance (d : Disk) : Decidable d.WellFormed := decidable_of_iff' _ d.wellFormed_iff

end Disk

instance (f : Files) : Decidable f.WellFormed :=
  decidable_of_iff (f.disk.WellFormed ∧ f.here < f.disk.next)
    ⟨fun h ↦ ⟨h.1, h.2⟩, fun h ↦ ⟨h.disk, h.here⟩⟩

end KernelForge
