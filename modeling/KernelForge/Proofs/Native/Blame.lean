import KernelForge.Proofs.Native.Decoding
import Mathlib.Data.Int.Order.Basic
import Mathlib.Data.List.Induction
import Mathlib.Data.List.Nodup
import Mathlib.Data.Nat.Find

/-!
# Which position an argument block is refused for

The words of a call are scattered in order, and the first position that is no slot, or the slot of
an earlier word, is told. Where all words find a slot of their own, the first slot that is left
empty is told. Main statement: `argumentBlock_blames`, which says of every call when it has an
argument block, what is in it, and which position is told otherwise.
-/

namespace KernelForge.NativeCall

/-- The positions are different slots of a block with `n` slots. -/
structure Fits (n : Nat) (positions : List Int64) : Prop where
  /-- Every position is a slot. -/
  slots : ∀ p ∈ positions, 0 ≤ p.toInt ∧ p.toInt < n
  /-- No two are the same. -/
  nodup : positions.Nodup

/-- Behind the positions `before`, a position is negative, past the end of the `n` slots, or one of
theirs. -/
def Misfits (n : Nat) (before : List Int64) (position : Int64) : Prop :=
  position.toInt < 0 ∨ n ≤ position.toInt ∨ position ∈ before

/-- The position to be told where positions do not cover `n` slots. -/
inductive Blamed (n : Nat) (positions : List Int64) : Int64 → Prop where
  /-- The first one that does not fit behind those before it. -/
  | misfit {before after : List Int64} {position : Int64}
      (split : positions = before ++ position :: after) (fits : Fits n before)
      (misfits : Misfits n before position) : Blamed n positions position
  /-- The first slot that is missing, where all fit. -/
  | missing {i : Nat} (fits : Fits n positions) (lt : i < n)
      (missing : (i : Int) ∉ positions.map Int64.toInt)
      (least : ∀ j < i, (j : Int) ∈ positions.map Int64.toInt) :
      Blamed n positions (Int64.ofNat i)

variable {n : Nat} {placed : List (Int64 × UInt64)}

/-- The slot of a position that is not negative. -/
private theorem slot_eq_iff {x : Int64 × UInt64} (hx : 0 ≤ x.1.toInt) {i : Nat} :
    slot x = i ↔ x.1.toInt = i := by
  rw [slot]
  omega

/-- Different slots are all taken; a slot is left empty if it is none of them. -/
theorem fillSlots_of_fits (h : Fits n (placed.map Prod.fst)) :
    ∃ filled, fillSlots (List.replicate n none) placed = .ok filled ∧ filled.length = n ∧
      ∀ i < n, filled[i]? = some none ↔ (i : Int) ∉ (placed.map Prod.fst).map Int64.toInt := by
  have hslots : ∀ x ∈ placed, 0 ≤ x.1.toInt ∧ x.1.toInt < n :=
    fun x hx ↦ h.slots _ (List.mem_map_of_mem hx)
  have hfree : ∀ x ∈ placed, IsFree (List.replicate n none) x := by
    intro x hx
    have hlt : slot x < n := by
      have := hslots x hx
      rw [slot]
      omega
    exact ⟨(hslots x hx).1, by simp [hlt]⟩
  have hnodup : (placed.map slot).Nodup := by
    have hsame : placed.map slot = (placed.map Prod.fst).map fun p ↦ p.toInt.toNat := by
      rw [List.map_map]
      rfl
    rw [hsame]
    refine h.nodup.map_on fun p hp q hq he ↦ Int64.toInt_inj.mp ?_
    have := h.slots p hp
    have := h.slots q hq
    omega
  obtain ⟨filled, hfilled, hlength, hwords, hothers⟩ := fillSlots_eq_ok _ _ hfree hnodup
  rw [List.length_replicate] at hlength
  refine ⟨filled, hfilled, hlength, fun i hi ↦ ?_⟩
  have hmem : (i : Int) ∈ (placed.map Prod.fst).map Int64.toInt ↔ i ∈ placed.map slot := by
    simp only [List.map_map, List.mem_map]
    exact exists_congr fun x ↦ and_congr_right fun hx ↦ (slot_eq_iff (hslots x hx).1).symm
  rw [hmem]
  constructor
  · intro hnone hin
    obtain ⟨x, hx, rfl⟩ := List.mem_map.mp hin
    rw [hwords x hx] at hnone
    cases hnone
  · intro hout
    rw [hothers i hout]
    simp [hi]

/-- Behind different slots that are taken, a position finds none exactly if it does not fit. -/
theorem freeSlot?_eq_none_iff (h : Fits n (placed.map Prod.fst)) {filled : List (Option UInt64)}
    (hfilled : fillSlots (List.replicate n none) placed = .ok filled) (position : Int64) :
    freeSlot? filled position = none ↔ Misfits n (placed.map Prod.fst) position := by
  obtain ⟨filled', hfilled', hlength, hempty⟩ := fillSlots_of_fits h
  rw [hfilled, Except.ok.injEq] at hfilled'
  subst hfilled'
  by_cases hrange : 0 ≤ position.toInt ∧ position.toInt < n
  · have hmem : position ∈ placed.map Prod.fst ↔
        (position.toInt.toNat : Int) ∈ (placed.map Prod.fst).map Int64.toInt := by
      rw [Int.toNat_of_nonneg hrange.1]
      exact (List.mem_map_of_injective fun _ _ ↦ Int64.toInt_inj.mp).symm
    have hslot := hempty position.toInt.toNat (by omega)
    have hbelow : ¬ position.toInt < 0 := by omega
    have habove : ¬ (n : Int) ≤ position.toInt := by omega
    simp only [freeSlot?, Misfits, hrange.1, hbelow, habove, true_and, false_or, hmem, hslot]
    split
    · next hfree => simpa using hfree
    · next hfree => simpa using hfree
  · have hmisfits : Misfits n (placed.map Prod.fst) position := by
      rw [Misfits]
      omega
    simp only [hmisfits, iff_true, freeSlot?]
    rw [if_neg]
    rintro ⟨hnonneg, hfree⟩
    have hlt := (List.getElem?_eq_some_iff.mp hfree).1
    omega

/-- A free slot is a slot of the block. -/
theorem freeSlot?_lt {block : List (Option UInt64)} {position : Int64} {i : Nat}
    (h : freeSlot? block position = some i) : i < block.length := by
  unfold freeSlot? at h
  split at h
  · next hfree =>
    rw [Option.some.injEq] at h
    subst h
    exact (List.getElem?_eq_some_iff.mp hfree.2).1
  · cases h

theorem fillSlots_append (block : List (Option UInt64)) (placed more : List (Int64 × UInt64)) :
    fillSlots block (placed ++ more) =
      match fillSlots block placed with
      | .ok filled => fillSlots filled more
      | .error error => .error error := by
  induction placed generalizing block with
  | nil => rfl
  | cons x rest ih =>
    obtain ⟨position, word⟩ := x
    rw [List.cons_append, fillSlots, fillSlots]
    cases freeSlot? block position with
    | none => rfl
    | some i => exact ih _

/-- The first word that finds no free slot stops the filling. -/
theorem fillSlots_misfit {before after : List (Int64 × UInt64)} {x : Int64 × UInt64}
    (hfits : Fits n (before.map Prod.fst)) (hx : Misfits n (before.map Prod.fst) x.1) :
    fillSlots (List.replicate n none) (before ++ x :: after) = .error (.layout x.1 n) := by
  obtain ⟨filled, hfilled, hlength, -⟩ := fillSlots_of_fits hfits
  obtain ⟨position, word⟩ := x
  rw [fillSlots_append, hfilled]
  simp only [fillSlots, (freeSlot?_eq_none_iff hfits hfilled position).mpr hx, hlength]

/-- Words that do not all fit have a first one that does not. -/
theorem exists_misfit {positions : List Int64} (h : ¬ Fits n positions) :
    ∃ before position after, positions = before ++ position :: after ∧ Fits n before ∧
      Misfits n before position := by
  induction positions using List.reverseRecOn with
  | nil => exact absurd ⟨by simp, List.nodup_nil⟩ h
  | append_singleton before position ih =>
    by_cases hbefore : Fits n before
    · refine ⟨before, position, [], rfl, hbefore, ?_⟩
      by_contra hfits
      simp only [Misfits, not_or, not_lt, not_le] at hfits
      obtain ⟨hnonneg, hlt, hnew⟩ := hfits
      refine h ⟨fun p hp ↦ ?_, ?_⟩
      · rcases List.mem_append.mp hp with hp | hp
        · exact hbefore.slots p hp
        · rw [List.mem_singleton.mp hp]
          exact ⟨hnonneg, hlt⟩
      · exact List.nodup_append.mpr ⟨hbefore.nodup, List.nodup_singleton _,
          fun p hp q hq he ↦ hnew (List.mem_singleton.mp hq ▸ he ▸ hp)⟩
    · obtain ⟨first, p, between, hsplit, hfits, hmisfits⟩ := ih hbefore
      exact ⟨first, p, between ++ [position], by simp [hsplit], hfits, hmisfits⟩

/-- The first empty slot of a block is told. -/
theorem slotWords_missing {slots start i : Nat} {block : List (Option UInt64)}
    (hi : block[i]? = some none) (hleast : ∀ j < i, block[j]? ≠ some none) :
    slotWords slots start block = .error (.layout (Int64.ofNat (start + i)) slots) := by
  induction block generalizing start i with
  | nil => cases hi
  | cons s rest ih =>
    cases i with
    | zero =>
      obtain rfl : s = none := by simpa using hi
      rfl
    | succ i =>
      obtain ⟨word, rfl⟩ : ∃ word, s = some word := by
        rw [← Option.isSome_iff_exists, Option.isSome_iff_ne_none]
        rintro rfl
        exact hleast 0 (by omega) rfl
      have hrest : slotWords slots (start + 1) rest =
          .error (.layout (Int64.ofNat (start + 1 + i)) slots) :=
        ih hi fun j hj ↦ hleast (j + 1) (by omega)
      rw [slotWords, hrest, show start + 1 + i = start + (i + 1) by omega]
      rfl

variable {c : NativeCall} {addresses : List UInt64}

/-- The position that is to blame is told. -/
theorem argumentBlock_of_blamed {position : Int64}
    (h : Blamed c.arity ((c.placedWords addresses).map Prod.fst) position) :
    c.argumentBlock addresses = .error (.layout position c.arity) := by
  rw [argumentBlock]
  cases h with
  | @misfit before after position split fits misfits =>
    obtain ⟨first, rest, hplaced, rfl, hrest⟩ := List.map_eq_append_iff.mp split
    obtain ⟨x, more, rfl, rfl, rfl⟩ := List.map_eq_cons_iff.mp hrest
    rw [hplaced, fillSlots_misfit fits misfits]
  | @missing i fits lt missing least =>
    obtain ⟨filled, hfilled, -, hempty⟩ := fillSlots_of_fits fits
    rw [hfilled]
    simp only
    rw [slotWords_missing ((hempty i lt).mpr missing) fun j hj hnone ↦
      (hempty j (by omega)).mp hnone (least j hj), Nat.zero_add]

/-- Where words do not cover the slots, some position is to blame. -/
theorem exists_blamed (h : ¬ Covers n placed) : ∃ position,
    Blamed n (placed.map Prod.fst) position := by
  by_cases hfits : Fits n (placed.map Prod.fst)
  · -- different slots that are not all the slots leave one out
    have hmissing : ∃ i, i < n ∧ (i : Int) ∉ (placed.map Prod.fst).map Int64.toInt := by
      by_contra hall
      push Not at hall
      refine h ?_
      rw [Covers, ← Function.comp_def Int64.toInt, ← List.map_map]
      have hnodup : ((placed.map Prod.fst).map Int64.toInt).Nodup :=
        hfits.nodup.map fun _ _ ↦ Int64.toInt_inj.mp
      have hrange : ((List.range n).map Int.ofNat).Nodup :=
        List.nodup_range.map fun _ _ ↦ Int.ofNat.inj
      rw [List.perm_ext_iff_of_nodup hnodup hrange]
      intro z
      constructor
      · intro hz
        obtain ⟨p, hp, rfl⟩ := List.mem_map.mp hz
        have hslot := hfits.slots p hp
        exact List.mem_map.mpr ⟨p.toInt.toNat, List.mem_range.mpr (by omega),
          Int.toNat_of_nonneg hslot.1⟩
      · intro hz
        obtain ⟨i, hi, rfl⟩ := List.mem_map.mp hz
        exact hall i (List.mem_range.mp hi)
    obtain ⟨hlt, hfree⟩ := Nat.find_spec hmissing
    refine ⟨_, .missing hfits hlt hfree fun j hj ↦ ?_⟩
    by_contra hj'
    exact Nat.find_min hmissing hj ⟨by omega, hj'⟩
  · obtain ⟨before, position, after, hsplit, hbefore, hmisfits⟩ := exists_misfit hfits
    exact ⟨position, .misfit hsplit hbefore hmisfits⟩

/-- A block is refused with a position that is to blame. -/
theorem argumentBlock_error {error : DeviceError} (h : c.argumentBlock addresses = .error error) :
    ∃ position, Blamed c.arity ((c.placedWords addresses).map Prod.fst) position ∧
      error = .layout position c.arity := by
  obtain ⟨position, hblamed⟩ := exists_blamed (ArgumentGroups.argumentBlock_eq_error_iff.mp ⟨_, h⟩)
  rw [argumentBlock_of_blamed hblamed, Except.error.injEq] at h
  exact ⟨position, hblamed, h.symm⟩

variable (c addresses)

/-- A call has an argument block exactly if the positions of its words, each list as far as it has
a partner, are those of the slots, each of them once; every word stands in the slot of its position
then. Otherwise the position that is to blame is told with the number of slots: the first one, in
the order of the words, that is negative, too large or taken by an earlier word, and if there is
none, the first slot that is missing. A slot is filled only if it is one of the block. -/
theorem argumentBlock_blames :
    ((∃ words, c.argumentBlock addresses = .ok words) ↔
        Covers c.arity (c.placedWords addresses)) ∧
      (∀ words, c.argumentBlock addresses = .ok words → words.length = c.arity ∧
        ∀ (k : Nat) x, (c.placedWords addresses)[k]? = some x →
          words[x.1.toInt.toNat]? = some x.2) ∧
      (∀ error, c.argumentBlock addresses = .error error ↔ ∃ position,
        Blamed c.arity ((c.placedWords addresses).map Prod.fst) position ∧
          error = .layout position c.arity) ∧
      ∀ block position i, freeSlot? block position = some i → i < block.length := by
  refine ⟨?_, fun words hwords ↦ ?_, fun error ↦ ⟨argumentBlock_error, ?_⟩,
    fun _ _ _ ↦ freeSlot?_lt⟩
  · cases hblock : c.argumentBlock addresses with
    | ok words => simp [(argumentBlock_eq_ok_iff.mp hblock).2.1]
    | error error => simp [ArgumentGroups.argumentBlock_eq_error_iff.mp ⟨error, hblock⟩]
  · obtain ⟨hlength, -, hfilled⟩ := argumentBlock_eq_ok_iff.mp hwords
    exact ⟨hlength, fun k x hx ↦ hfilled x (List.mem_of_getElem? hx)⟩
  · rintro ⟨position, hblamed, rfl⟩
    exact argumentBlock_of_blamed hblamed

/-- A slot that is taken twice is told before one that is missing. -/
example : argumentBlock ⟨⟨[]⟩, "k", [], [], [], [], [1, 2], [0, 0]⟩ [] = .error (.layout 0 2) := by
  cbv

end KernelForge.NativeCall
