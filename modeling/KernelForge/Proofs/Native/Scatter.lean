import KernelForge.Native.Call
import Mathlib.Algebra.Group.Nat.Defs
import Mathlib.Tactic.ByContra

/-!
# Filling the slots of an argument block

The words of a call are scattered into the slots that their positions name. Main statements: a call
has a block exactly if the positions of its words cover the slots (`argumentBlock_eq_ok_iff`), and
where the positions with their words are those of a list of words in some order, the block is that
list (`argumentBlock_of_perm`).
-/

namespace KernelForge.NativeCall

/-- The index that a position names. -/
def slot (placed : Int64 × UInt64) : Nat := placed.1.toInt.toNat

/-- A position names a free slot of a block. -/
def IsFree (block : List (Option UInt64)) (placed : Int64 × UInt64) : Prop :=
  0 ≤ placed.1.toInt ∧ block[slot placed]? = some none

/-- Words for different free slots are all taken. Each stands in its slot then, and the other slots
are as before. -/
theorem fillSlots_eq_ok (block : List (Option UInt64)) (placed : List (Int64 × UInt64))
    (hfree : ∀ x ∈ placed, IsFree block x) (hslots : (placed.map slot).Nodup) :
    ∃ filled, fillSlots block placed = .ok filled ∧ filled.length = block.length ∧
      (∀ x ∈ placed, filled[slot x]? = some (some x.2)) ∧
      ∀ i, i ∉ placed.map slot → filled[i]? = block[i]? := by
  induction placed generalizing block with
  | nil => exact ⟨block, rfl, rfl, by simp, by simp⟩
  | cons x rest ih =>
    rw [List.map_cons, List.nodup_cons] at hslots
    obtain ⟨hx, hrest⟩ := hslots
    have hfirst : freeSlot? block x.1 = some (slot x) := if_pos (hfree x (by simp))
    have hlt : slot x < block.length := (List.getElem?_eq_some_iff.mp (hfree x (by simp)).2).1
    -- the slots of the rest are not the one just filled, so they are still free
    have hstill : ∀ y ∈ rest, IsFree (block.set (slot x) (some x.2)) y := by
      intro y hy
      have hne : slot x ≠ slot y := fun h ↦ hx (h ▸ List.mem_map_of_mem hy)
      refine ⟨(hfree y (by simp [hy])).1, ?_⟩
      rw [List.getElem?_set_ne hne]
      exact (hfree y (by simp [hy])).2
    obtain ⟨filled, hfilled, hlength, hwords, hothers⟩ :=
      ih (block.set (slot x) (some x.2)) hstill hrest
    refine ⟨filled, ?_, by simpa using hlength, ?_, ?_⟩
    · obtain ⟨position, word⟩ := x
      simp only [fillSlots, hfirst]
      exact hfilled
    · intro y hy
      rcases List.mem_cons.mp hy with rfl | hy
      · rw [hothers _ hx]
        simp [hlt]
      · exact hwords y hy
    · intro i hi
      rw [List.map_cons, List.mem_cons, not_or] at hi
      rw [hothers i hi.2, List.getElem?_set_ne (Ne.symm hi.1)]

/-- Words that are all taken go to different slots, which were free. -/
theorem isFree_of_fillSlots {block filled : List (Option UInt64)} {placed : List (Int64 × UInt64)}
    (h : fillSlots block placed = .ok filled) :
    (∀ x ∈ placed, IsFree block x) ∧ (placed.map slot).Nodup := by
  induction placed generalizing block with
  | nil => simp
  | cons x rest ih =>
    obtain ⟨position, word⟩ := x
    by_cases hx : IsFree block (position, word)
    · have hfirst : freeSlot? block position = some (slot (position, word)) := if_pos hx
      simp only [fillSlots, hfirst] at h
      obtain ⟨hrest, hslots⟩ := ih h
      -- the slot just filled is free for none of the rest
      have hother : ∀ y ∈ rest, slot (position, word) ≠ slot y := by
        intro y hy he
        obtain ⟨-, hfree⟩ := hrest y hy
        have hlt := (List.getElem?_eq_some_iff.mp hfree).1
        rw [← he, List.length_set] at hlt
        simp [← he, hlt] at hfree
      refine ⟨fun y hy ↦ ?_, ?_⟩
      · rcases List.mem_cons.mp hy with rfl | hy
        · exact hx
        · obtain ⟨hpos, hfree⟩ := hrest y hy
          rw [List.getElem?_set_ne (hother y hy)] at hfree
          exact ⟨hpos, hfree⟩
      · rw [List.map_cons, List.nodup_cons]
        refine ⟨fun hmem ↦ ?_, hslots⟩
        obtain ⟨y, hy, he⟩ := List.mem_map.mp hmem
        exact hother y hy he.symm
    · have hfirst : freeSlot? block position = none := if_neg hx
      simp [fillSlots, hfirst] at h

/-- A block without a free slot is read off. -/
theorem slotWords_map_some (slots start : Nat) (words : List UInt64) :
    slotWords slots start (words.map some) = .ok words := by
  induction words generalizing start with
  | nil => rfl
  | cons word rest ih => simp [slotWords, ih, Except.map]

/-- A block is read off if every slot has a word. -/
theorem slotWords_eq_ok_iff {slots start : Nat} {block : List (Option UInt64)}
    {words : List UInt64} : slotWords slots start block = .ok words ↔ block = words.map some := by
  constructor
  · intro h
    induction block generalizing start words with
    | nil =>
      simp only [slotWords, Except.ok.injEq] at h
      subst h
      rfl
    | cons s rest ih =>
      cases s with
      | none => simp [slotWords] at h
      | some word =>
        rw [slotWords] at h
        cases hrest : slotWords slots (start + 1) rest with
        | error error => simp [hrest, Except.map] at h
        | ok words' =>
          simp only [hrest, Except.map, Except.ok.injEq] at h
          subst h
          rw [ih hrest, List.map_cons]
  · rintro rfl
    exact slotWords_map_some _ _ _

/-- The positions of placed words are those of a list with `n` elements, each of them once. -/
def Covers (n : Nat) (placed : List (Int64 × UInt64)) : Prop :=
  (placed.map (·.1.toInt)).Perm ((List.range n).map Int.ofNat)

/-- Words cover the slots of a block if no position is negative and every slot is named once. -/
theorem covers_iff {n : Nat} {placed : List (Int64 × UInt64)} :
    Covers n placed ↔
      (∀ x ∈ placed, 0 ≤ x.1.toInt) ∧ (placed.map slot).Perm (List.range n) := by
  constructor
  · intro h
    constructor
    · intro x hx
      obtain ⟨i, -, hi⟩ := List.mem_map.mp (h.mem_iff.mp (List.mem_map_of_mem hx))
      exact hi ▸ Int.natCast_nonneg i
    · have hmap := h.map Int.toNat
      rw [List.map_map, List.map_map] at hmap
      exact hmap.trans (.of_eq (List.map_id _))
  · rintro ⟨hpositive, hslots⟩
    have hsame : placed.map (·.1.toInt) = (placed.map slot).map Int.ofNat := by
      rw [List.map_map]
      exact List.map_congr_left fun x hx ↦ (Int.toNat_of_nonneg (hpositive x hx)).symm
    rw [Covers, hsame]
    exact hslots.map _

variable {c : NativeCall} {addresses words : List UInt64}

/-- A call has an argument block exactly if the positions of its words are those of the slots, each
of them once; every word stands in the slot of its position then. -/
theorem argumentBlock_eq_ok_iff : c.argumentBlock addresses = .ok words ↔
    words.length = c.arity ∧ Covers c.arity (c.placedWords addresses) ∧
      ∀ x ∈ c.placedWords addresses, words[slot x]? = some x.2 := by
  rw [argumentBlock]
  constructor
  · intro h
    cases hfill : fillSlots (List.replicate c.arity none) (c.placedWords addresses) with
    | error error => simp [hfill] at h
    | ok block =>
      rw [hfill] at h
      obtain rfl := slotWords_eq_ok_iff.mp h
      obtain ⟨hfree, hslots⟩ := isFree_of_fillSlots hfill
      obtain ⟨filled, hfilled, hlength, hwords, hothers⟩ := fillSlots_eq_ok _ _ hfree hslots
      rw [hfill, Except.ok.injEq] at hfilled
      subst hfilled
      rw [List.length_map, List.length_replicate] at hlength
      refine ⟨hlength, covers_iff.mpr ⟨fun x hx ↦ (hfree x hx).1, ?_⟩, fun x hx ↦ ?_⟩
      · rw [List.perm_ext_iff_of_nodup hslots List.nodup_range]
        intro i
        rw [List.mem_range]
        constructor
        · intro hi
          obtain ⟨x, hx, rfl⟩ := List.mem_map.mp hi
          have hlt := (List.getElem?_eq_some_iff.mp (hfree x hx).2).1
          rwa [List.length_replicate] at hlt
        · intro hi
          -- a slot that nothing went to is still free, and the block was read off
          by_contra hmem
          have hempty := hothers i hmem
          simp [hi, hlength] at hempty
      · simpa using hwords x hx
  · rintro ⟨hlength, hcovers, hwords⟩
    obtain ⟨hpositive, hslots⟩ := covers_iff.mp hcovers
    have hfree : ∀ x ∈ c.placedWords addresses, IsFree (List.replicate c.arity none) x := by
      intro x hx
      have hlt := List.mem_range.mp (hslots.mem_iff.mp (List.mem_map_of_mem hx))
      exact ⟨hpositive x hx, by simp [hlt]⟩
    obtain ⟨filled, hfilled, hlength', hfill, -⟩ :=
      fillSlots_eq_ok _ _ hfree (hslots.nodup_iff.mpr List.nodup_range)
    rw [hfilled]
    refine slotWords_eq_ok_iff.mpr (List.ext_getElem? fun i ↦ ?_)
    by_cases hi : i < c.arity
    · obtain ⟨x, hx, rfl⟩ := List.mem_map.mp (hslots.mem_iff.mpr (List.mem_range.mpr hi))
      rw [hfill x hx, List.getElem?_map, hwords x hx]
      rfl
    · rw [List.length_replicate] at hlength'
      rw [List.getElem?_eq_none (by omega), List.getElem?_eq_none (by simp; omega)]

/-- The words of a list, each with its position. -/
def numbered (words : List UInt64) : List (Int64 × UInt64) :=
  words.zipIdx.map fun (word, i) ↦ (Int64.ofNat i, word)

private theorem mem_numbered {words : List UInt64} {x : Int64 × UInt64} (hx : x ∈ numbered words) :
    ∃ i, words[i]? = some x.2 ∧ x.1 = Int64.ofNat i := by
  obtain ⟨⟨word, i⟩, hmem, rfl⟩ := List.mem_map.mp hx
  exact ⟨i, List.mem_zipIdx_iff_getElem?.mp hmem, rfl⟩

/-- Where the positions with their words are those of a list of words in some order, the block is
that list. -/
theorem argumentBlock_of_perm (hperm : (c.placedWords addresses).Perm (numbered words))
    (harity : c.arity = words.length) (hlength : words.length ≤ 2 ^ 63) :
    c.argumentBlock addresses = .ok words := by
  have hposition : ∀ i < words.length, (Int64.ofNat i).toInt = i :=
    fun i hi ↦ Int64.toInt_ofNat_of_lt (Nat.lt_of_lt_of_le hi hlength)
  refine argumentBlock_eq_ok_iff.mpr ⟨harity.symm, ?_, fun x hx ↦ ?_⟩
  · rw [Covers, harity]
    refine (hperm.map _).trans (.of_eq (List.ext_getElem (by simp [numbered]) fun i hi _ ↦ ?_))
    simp only [numbered, List.length_map, List.length_zipIdx] at hi
    simp [numbered, hposition i hi]
  · obtain ⟨i, hi, hx⟩ := mem_numbered (hperm.mem_iff.mp hx)
    have hlt := (List.getElem?_eq_some_iff.mp hi).1
    rw [slot, hx, hposition i hlt, Int.toNat_natCast, hi]

end KernelForge.NativeCall
