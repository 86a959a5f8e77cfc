import KernelForge.Proofs.Argument.Reassembly
import KernelForge.Proofs.Native.Convention

/-!
# Two readings of a group record

A group record, from wherever it comes, is read in two ways: its argument block has a word for every
value, and sorting its values by position gives an argument list. Where the record has a block, both
readings have one element for every value, and a slot of the block has the word of the argument that
stands there in the list. Main statement: `argumentBlock_reassemble`.
-/

namespace KernelForge.ArgumentGroups

open NativeCall (Covers)

variable (g : ArgumentGroups) (library : Path) (symbol : String) {addresses : List UInt64}

/-- The word `word` of an argument block stands for the argument `a` of the group record at
`position`: a tensor stands for its address. -/
structure Encodes (g : ArgumentGroups) (addresses : List UInt64) (position : Int64) (a : Argument)
    (word : UInt64) : Prop where
  /-- A kernel takes the argument. -/
  taken : a.isTaken
  /-- The word is that of the argument, at the address that the tensor there was given. -/
  word : ∃ address, word = a.word address ∧ ∀ t, a = .tensor t → ∃ j : Nat,
    g.tensorPositions[j]? = some position ∧ g.tensors[j]? = some t ∧ addresses[j]? = some address

private theorem map_fst_zip_take {α β : Type} (xs : List α) (ys : List β) :
    (xs.zip ys).map Prod.fst = xs.take ys.length := by
  induction xs generalizing ys with
  | nil => simp
  | cons x rest ih =>
    cases ys with
    | nil => rfl
    | cons y ys => simp [ih]

/-- Where every tensor has an address, the values have the positions of the words. -/
theorem positions_placed (h : addresses.length = g.tensors.length) :
    g.placed.map Prod.fst = ((g.call library symbol).placedWords addresses).map Prod.fst := by
  simp only [placed, NativeCall.placedWords, call, fixedWords, List.map_append, map_fst_zip_take,
    List.length_map, h]

/-- Every value of a group record has a word, at its position. -/
theorem exists_word (h : addresses.length = g.tensors.length) {x : Int64 × Argument}
    (hx : x ∈ g.placed) : ∃ word, (x.1, word) ∈ (g.call library symbol).placedWords addresses ∧
      g.Encodes addresses x.1 x.2 word := by
  obtain ⟨position, a⟩ := x
  simp only [placed, List.mem_append, or_assoc] at hx
  simp only [NativeCall.placedWords, call, List.mem_append, or_assoc]
  rcases hx with hx | hx | hx
  · obtain ⟨j, hj⟩ := List.mem_iff_getElem?.mp hx
    obtain ⟨hposition, ha⟩ := List.getElem?_zip_eq_some.mp hj
    rw [List.getElem?_map, Option.map_eq_some_iff] at ha
    obtain ⟨t, ht, rfl⟩ := ha
    have hlt := (List.getElem?_eq_some_iff.mp ht).1
    obtain ⟨address, haddress⟩ : ∃ address, addresses[j]? = some address :=
      ⟨_, List.getElem?_eq_getElem (h ▸ hlt)⟩
    refine ⟨_, Or.inl (List.mem_of_getElem? (List.getElem?_zip_eq_some.mpr
      ⟨hposition, haddress⟩)), rfl, _, rfl, ?_⟩
    intro t' ht'
    cases ht'
    exact ⟨j, hposition, ht, haddress⟩
  · rw [List.zip_map_right] at hx ⊢
    obtain ⟨⟨position', v⟩, hmem, hv⟩ := List.mem_map.mp hx
    cases hv
    exact ⟨v.bits, Or.inr (Or.inl (List.mem_map.mpr ⟨_, hmem, rfl⟩)), rfl, 0, rfl, by simp⟩
  · rw [List.zip_map_right] at hx
    obtain ⟨⟨position', n⟩, hmem, hn⟩ := List.mem_map.mp hx
    cases hn
    refine ⟨n.word.toUInt64, Or.inr (Or.inr ?_), ?_, 0, ?_, ?_⟩
    · rw [fixedWords, List.map_map, List.zip_map_right]
      exact List.mem_map.mpr ⟨_, hmem, rfl⟩
    · cases n <;> rfl
    · cases n with
      | bool b => cases b <;> rfl
      | int n => rfl
    · cases n <;> simp [FixedScalar.argument]

/-- Where the positions are those of a list with `n` elements, sorting by position puts them in that
order. -/
theorem map_mergeSort_covers {α : Type} {placed : List (Int64 × α)} {n : Nat}
    (h : (placed.map (·.1.toInt)).Perm ((List.range n).map Int.ofNat)) :
    ((placed.mergeSort fun x y ↦ x.1 ≤ y.1).map (·.1.toInt)) = (List.range n).map Int.ofNat := by
  have hsorted := ((List.mergeSort_perm placed fun x y ↦ x.1 ≤ y.1).map (·.1.toInt)).trans h
  have hrange : ((List.range n).map Int.ofNat).Pairwise (· ≤ ·) := by
    rw [List.pairwise_map]
    exact List.pairwise_le_range.imp Int.ofNat_le.mpr
  have hrise : ((placed.mergeSort fun x y ↦ x.1 ≤ y.1).map (·.1.toInt)).Pairwise (· ≤ ·) := by
    rw [List.pairwise_map]
    exact (pairwise_mergeSort_placed placed).imp Int64.le_iff_toInt_le.mp
  exact List.Perm.eq_of_pairwise (fun _ _ _ _ ↦ Int.le_antisymm) hrise hrange hsorted

/-- Sorting by position and scattering into slots put a value in the same place: that of its
position. -/
theorem getElem?_mergeSort_covers {α : Type} {placed : List (Int64 × α)} {n : Nat}
    (h : (placed.map (·.1.toInt)).Perm ((List.range n).map Int.ofNat)) {x : Int64 × α}
    (hx : x ∈ placed) :
    (placed.mergeSort fun x y ↦ x.1 ≤ y.1)[x.1.toInt.toNat]? = some x := by
  obtain ⟨i, hi, rfl⟩ := List.getElem_of_mem
    ((List.mergeSort_perm placed fun x y ↦ x.1 ≤ y.1).mem_iff.mpr hx)
  have hrange : i < ((List.range n).map Int.ofNat).length := by
    rwa [← map_mergeSort_covers h, List.length_map]
  have hposition := congrArg (·[i]?) (map_mergeSort_covers h)
  simp only [List.getElem?_map, List.getElem?_eq_getElem hi, Option.map_some] at hposition
  rw [← List.getElem?_map, List.getElem?_eq_getElem hrange] at hposition
  simp only [List.getElem_map, List.getElem_range, Option.some.injEq] at hposition
  rw [hposition, Int.ofNat_eq_natCast, Int.toNat_natCast, List.getElem?_eq_getElem hi]

/-- A block is refused exactly if the words do not cover its slots. -/
theorem argumentBlock_eq_error_iff {c : NativeCall} :
    (∃ error, c.argumentBlock addresses = .error error) ↔
      ¬ Covers c.arity (c.placedWords addresses) := by
  constructor
  · rintro ⟨error, herror⟩ hcovers
    have hblock : c.argumentBlock addresses =
        .ok (((c.placedWords addresses).mergeSort fun x y ↦ x.1 ≤ y.1).map Prod.snd) := by
      refine NativeCall.argumentBlock_eq_ok_iff.mpr ⟨?_, hcovers, fun x hx ↦ ?_⟩
      · simpa using hcovers.length_eq
      · rw [NativeCall.slot, List.getElem?_map, getElem?_mergeSort_covers hcovers hx,
          Option.map_some]
    rw [hblock] at herror
    cases herror
  · intro hcovers
    cases hresult : c.argumentBlock addresses with
    | error error => exact ⟨error, rfl⟩
    | ok block => exact absurd (NativeCall.argumentBlock_eq_ok_iff.mp hresult).2.1 hcovers

/-- Where the positions are those of a list, it is reassembled, each value at its position. -/
theorem reassemble_covers {n : Nat}
    (h : (g.placed.map (·.1.toInt)).Perm ((List.range n).map Int.ofNat)) :
    g.reassemble.length = n ∧
      ∀ i < n, ∃ x ∈ g.placed, g.reassemble[i]? = some x.2 ∧ x.1.toInt = i := by
  refine ⟨by simpa [reassemble] using h.length_eq, fun i hi ↦ ?_⟩
  obtain ⟨x, hx, hposition⟩ := List.mem_map.mp
    (h.mem_iff.mpr (List.mem_map_of_mem (List.mem_range.mpr hi)))
  refine ⟨x, hx, ?_, hposition⟩
  have hplace := getElem?_mergeSort_covers h hx
  rw [hposition, Int.ofNat_eq_natCast, Int.toNat_natCast] at hplace
  rw [reassemble, List.getElem?_map, hplace, Option.map_some]

/-- The two readings of a group record agree, when every tensor has an address. Where the record has
an argument block, both readings have an element for every value, and each slot has the word of the
argument that stands there. Where every value has a position, a block is refused exactly if the
positions are not those of the slots, each of them once. -/
theorem argumentBlock_reassemble (haddresses : addresses.length = g.tensors.length) :
    (∀ block, (g.call library symbol).argumentBlock addresses = .ok block →
      block.length = (g.call library symbol).arity ∧
      g.reassemble.length = (g.call library symbol).arity ∧
      ∀ i < (g.call library symbol).arity, ∃ (position : Int64) (a : Argument) (word : UInt64),
        position.toInt = i ∧
        g.reassemble[i]? = some a ∧ block[i]? = some word ∧
        g.Encodes addresses position a word) ∧
    (g.tensorPositions.length = g.tensors.length → g.floatPositions.length = g.floats.length →
      g.fixedPositions.length = g.fixed.length →
      ((∃ error, (g.call library symbol).argumentBlock addresses = .error error) ↔
        ¬ ((g.tensorPositions ++ g.floatPositions ++ g.fixedPositions).map Int64.toInt).Perm
          ((List.range (g.call library symbol).arity).map Int.ofNat))) := by
  have hpositions := positions_placed g library symbol haddresses
  constructor
  · intro block hblock
    obtain ⟨hlength, hcovers, hwords⟩ := NativeCall.argumentBlock_eq_ok_iff.mp hblock
    have hplaced : (g.placed.map (·.1.toInt)).Perm
        ((List.range (g.call library symbol).arity).map Int.ofNat) := by
      rw [Covers, ← Function.comp_def Int64.toInt, ← List.map_map, ← hpositions] at hcovers
      rwa [← Function.comp_def Int64.toInt, ← List.map_map]
    obtain ⟨hsize, hreassemble⟩ := reassemble_covers g hplaced
    refine ⟨hlength, hsize, fun i hi ↦ ?_⟩
    obtain ⟨x, hx, hargument, hposition⟩ := hreassemble i hi
    obtain ⟨word, hword, hencodes⟩ := exists_word g library symbol haddresses hx
    refine ⟨x.1, x.2, word, hposition, hargument, ?_, hencodes⟩
    have hslot := hwords _ hword
    rwa [NativeCall.slot, hposition, Int.toNat_natCast] at hslot
  · intro htensors hfloats hfixed
    -- with a position for every value no list is cut off
    have hall : ((g.call library symbol).placedWords addresses).map Prod.fst =
        g.tensorPositions ++ g.floatPositions ++ g.fixedPositions := by
      rw [← hpositions]
      simp only [placed, List.map_append, map_fst_zip_take, List.length_map, ← htensors, ← hfloats,
        ← hfixed, List.take_length]
    rw [← hall, List.map_map]
    exact argumentBlock_eq_error_iff

/-- One tensor twice, a negative zero and a truth value, with a position too many. -/
def crossedGroups : ArgumentGroups where
  tensors := [⟨3, .float16, [2, 2]⟩, ⟨3, .float16, [2, 2]⟩]
  tensorPositions := [2, 0, 7]
  floats := [⟨0x8000000000000000⟩]
  floatPositions := [1]
  fixed := [.bool true]
  fixedPositions := [3]

/-- The addresses of its tensors. -/
def crossedAddresses : List UInt64 := [0x2000, 0x1000]

/-- The groups with a position that two values have. -/
def doubledGroups : ArgumentGroups :=
  { crossedGroups with tensorPositions := [2, 0], floatPositions := [2] }

/-- The position without a value is cut off in both readings, and the block has the words of the
argument list; two values at one position are refused. -/
theorem argumentBlock_reassemble_crossed :
    crossedAddresses.length = crossedGroups.tensors.length ∧
      (crossedGroups.call (.ofString "k.so") "k").argumentBlock crossedAddresses =
        .ok [0x1000, 0x8000000000000000, 0x2000, 1] ∧
      crossedGroups.reassemble.length = 4 ∧
      crossedAddresses.length = doubledGroups.tensors.length ∧
      doubledGroups.tensorPositions.length = doubledGroups.tensors.length ∧
      doubledGroups.floatPositions.length = doubledGroups.floats.length ∧
      doubledGroups.fixedPositions.length = doubledGroups.fixed.length ∧
      ¬ ((doubledGroups.tensorPositions ++ doubledGroups.floatPositions ++
        doubledGroups.fixedPositions).map Int64.toInt).Perm ((List.range 4).map Int.ofNat) := by
  have hblock : (crossedGroups.call (.ofString "k.so") "k").argumentBlock crossedAddresses =
      .ok [0x1000, 0x8000000000000000, 0x2000, 1] := by decide
  have hrefused : (doubledGroups.call (.ofString "k.so") "k").argumentBlock crossedAddresses =
      .error (.layout 2 4) := by decide
  have hcrossed : crossedAddresses.length = crossedGroups.tensors.length := rfl
  have hdoubled : crossedAddresses.length = doubledGroups.tensors.length := rfl
  obtain ⟨hagree, -⟩ := argumentBlock_reassemble crossedGroups (.ofString "k.so") "k" hcrossed
  obtain ⟨-, hrefuses⟩ := argumentBlock_reassemble doubledGroups (.ofString "k.so") "k" hdoubled
  exact ⟨hcrossed, hblock, (hagree _ hblock).2.1, hdoubled, rfl, rfl, rfl,
    (hrefuses rfl rfl rfl).mp ⟨_, hrefused⟩⟩

end KernelForge.ArgumentGroups
