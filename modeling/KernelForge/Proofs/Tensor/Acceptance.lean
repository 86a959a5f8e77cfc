import KernelForge.Proofs.Tensor.Sizes
import Mathlib.Algebra.Order.Ring.Nat
import Mathlib.Data.List.TakeWhile

/-!
# Which sizes are accepted

A size is multiplied out from the left and refused at the first product that leaves the 64 bits, so
that a zero hides what is behind it and nothing before it. A size that is accepted may still be
larger than any memory block. Main statements: a size is accepted exactly where the number of bytes
fits, or where the dimensions before the first zero do, and then it is exact
(`size_check_exact`), and what it comes to when a tensor is filled (`filling_ends`).
-/

namespace KernelForge.Tensor

/-! ### Products of dimensions -/

theorem volume_eq_zero_iff {shape : List UInt64} : volume shape = 0 ↔ 0 ∈ shape := by
  rw [volume, List.prod_eq_zero_iff, List.mem_map]
  constructor
  · rintro ⟨d, hd, hzero⟩
    rwa [UInt64.toNat_inj.mp (hzero.trans UInt64.toNat_zero.symm)] at hd
  · exact fun h ↦ ⟨0, h, rfl⟩

/-- Without a zero, the product over the leading dimensions is at most the whole product. -/
theorem volume_take_le {shape : List UInt64} (h : 0 ∉ shape) (k : Nat) :
    volume (shape.take k) ≤ volume shape := by
  have hsplit : volume shape = volume (shape.take k) * volume (shape.drop k) := by
    rw [volume, volume, volume, ← List.prod_append, ← List.map_append, List.take_append_drop]
  have hpos : 0 < volume (shape.drop k) := by
    rw [Nat.pos_iff_ne_zero, Ne, volume_eq_zero_iff]
    exact fun hzero ↦ h (List.mem_of_mem_drop hzero)
  rw [hsplit]
  exact Nat.le_mul_of_pos_right _ hpos

/-- The dimensions before the first zero. -/
def beforeZero (shape : List UInt64) : List UInt64 := shape.takeWhile (· ≠ 0)

theorem zero_not_mem_beforeZero (shape : List UInt64) : 0 ∉ beforeZero shape := by
  intro h
  simpa using List.mem_takeWhile_imp h

theorem beforeZero_eq_self {shape : List UInt64} (h : 0 ∉ shape) : beforeZero shape = shape := by
  rw [beforeZero, List.takeWhile_eq_self_iff]
  intro d hd
  simpa using fun hzero : d = 0 ↦ h (hzero ▸ hd)

/-- All products over leading dimensions fit where the one over the dimensions before the first zero
does: those that take in the zero are zero. -/
theorem forall_volume_take_lt_iff {shape : List UInt64} :
    (∀ k, volume (shape.take k) < UInt64.size) ↔ volume (beforeZero shape) < UInt64.size := by
  have hprefix : beforeZero shape <+: shape := List.takeWhile_prefix _
  constructor
  · intro h
    rw [List.prefix_iff_eq_take.mp hprefix]
    exact h _
  · intro h k
    by_cases hzero : 0 ∈ shape.take k
    · rw [volume_eq_zero_iff.mpr hzero]
      decide
    · -- what has no zero ends before the first one
      have htake : shape.take k = (beforeZero shape).take k := by
        rw [← beforeZero_eq_self hzero, beforeZero, beforeZero, List.take_takeWhile]
      rw [htake]
      exact Nat.lt_of_le_of_lt (volume_take_le (zero_not_mem_beforeZero shape) k) h

/-! ### The check -/

/-- A size in elements of `width` bytes is accepted if its number of bytes fits 64 bits or, where a
dimension is zero, if the product of those before the first zero does. -/
def Accepted (width : Nat) (shape : List UInt64) : Prop :=
  0 ∉ shape ∧ volume shape * width < UInt64.size ∨
    0 ∈ shape ∧ volume (beforeZero shape) < UInt64.size

instance (width : Nat) (shape : List UInt64) : Decidable (Accepted width shape) :=
  inferInstanceAs (Decidable (_ ∨ _))

/-- What multiplying out needs is that the products over the dimensions up to the first zero and the
number of bytes fit. -/
theorem accepted_iff {width : Nat} (hwidth : 0 < width) {shape : List UInt64} :
    Accepted width shape ↔
      volume (beforeZero shape) < UInt64.size ∧ volume shape * width < UInt64.size := by
  by_cases hzero : 0 ∈ shape
  · have hbytes : volume shape * width < UInt64.size := by
      rw [volume_eq_zero_iff.mpr hzero, Nat.zero_mul]
      decide
    simp [Accepted, hzero, hbytes]
  · have hle : volume shape ≤ volume shape * width := Nat.le_mul_of_pos_right _ hwidth
    simp only [Accepted, hzero, not_false_eq_true, true_and, false_and, or_false,
      beforeZero_eq_self hzero]
    exact ⟨fun h ↦ ⟨Nat.lt_of_le_of_lt hle h, h⟩, And.right⟩

/-- Without a zero, the order of the dimensions does not matter. -/
theorem accepted_perm {width : Nat} {shape shape' : List UInt64} (hzero : 0 ∉ shape)
    (h : shape.Perm shape') : Accepted width shape ↔ Accepted width shape' := by
  have hvolume : volume shape = volume shape' := (h.map _).prod_eq
  have hzero' : 0 ∉ shape' := fun hmem ↦ hzero (h.mem_iff.mpr hmem)
  simp [Accepted, hzero, hzero', hvolume]

/-- The number of elements is found where a size in single bytes is accepted. -/
theorem elementCount?_eq (shape : List UInt64) :
    elementCount? shape = if Accepted 1 shape then some (volume shape) else none := by
  have hiff : Accepted 1 shape ↔ ∀ k, volume (shape.take k) < UInt64.size := by
    rw [accepted_iff Nat.one_pos, Nat.mul_one, forall_volume_take_lt_iff, and_iff_left_iff_imp,
      ← forall_volume_take_lt_iff]
    intro h
    have hall := h shape.length
    rwa [List.take_length] at hall
  split
  · next h => exact elementCount?_eq_some.mpr ⟨rfl, hiff.mp h⟩
  · next h =>
    rw [Option.eq_none_iff_forall_ne_some]
    exact fun n hn ↦ h (hiff.mpr (elementCount?_eq_some.mp hn).2)

/-- The number of bytes is found where the size is accepted. -/
theorem byteCount?_eq (dtype : DType) (shape : List UInt64) :
    byteCount? dtype shape =
      if Accepted dtype.width shape then some (volume shape * dtype.width) else none := by
  rw [byteCount?, elementCount?_eq]
  by_cases h : Accepted dtype.width shape
  · have hone : Accepted 1 shape := by
      obtain ⟨hzero, hbytes⟩ | hzero := h
      · exact Or.inl ⟨hzero, Nat.lt_of_le_of_lt
          (Nat.mul_le_mul_left _ dtype.width_pos) hbytes⟩
      · exact Or.inr hzero
    rw [if_pos hone, if_pos h, Option.bind_some, checkedMul,
      if_pos ((accepted_iff dtype.width_pos).mp h).2]
  · rw [if_neg h]
    split
    · next hone =>
      rw [Option.bind_some, checkedMul, if_neg]
      intro hbytes
      exact h ((accepted_iff dtype.width_pos).mpr
        ⟨((accepted_iff Nat.one_pos).mp hone).1, hbytes⟩)
    · rfl

/-- The number of bytes of a tensor; where it is not found, the size is refused. -/
def byteLength (dtype : DType) (shape : List UInt64) : Except DeviceError Nat :=
  match byteCount? dtype shape with
  | some n => .ok n
  | none => .error (.tensorSize shape dtype)

/-- A memory block has as many bytes as the tensor, if it has less than 2⁶³. -/
theorem blockSize_eq (dtype : DType) (shape : List UInt64) :
    blockSize dtype shape = (byteLength dtype shape).bind fun n ↦
      if n < 2 ^ 63 then .ok n else .error (.beyondMemory n) := by
  rw [blockSize, byteLength]
  cases byteCount? dtype shape <;> rfl

theorem byteLength_eq (dtype : DType) (shape : List UInt64) :
    byteLength dtype shape =
      if Accepted dtype.width shape then .ok (volume shape * dtype.width)
      else .error (.tensorSize shape dtype) := by
  rw [byteLength, byteCount?_eq]
  by_cases h : Accepted dtype.width shape <;> simp [h]

/-! ### Filling a tensor -/

section Elements

variable {ρ : Type} {dtype : DType} {f : Nat → ρ → Double × ρ} {start count : Nat} {r : ρ}

/-- Elements with an encoding are all written. -/
theorem elements_ok (h : ∀ x, dtype.encode? x ≠ none) :
    ∃ content r', (elements dtype f start count).runFrom r = (.ok content, r') := by
  induction count generalizing start r with
  | zero => exact ⟨[], r, rfl⟩
  | succ count ih =>
    obtain ⟨first, hfirst⟩ := Option.ne_none_iff_exists'.mp (h (f start r).1)
    obtain ⟨rest, r', hrest⟩ : ∃ rest r',
        (elements dtype f (start + 1) count).runFrom (f start r).2 = (.ok rest, r') := ih
    refine ⟨first ++ rest, r', ?_⟩
    simp only [elements, Act.runFrom_bind, Act.runFrom_ofRun, Act.runFrom_ofExcept, element, hfirst,
      hrest, Act.runFrom_pure]

/-- Of elements without an encoding, the first one already fails. -/
theorem elements_error (h : ∀ x, dtype.encode? x = none) (hcount : count ≠ 0) :
    (elements dtype f start count).runFrom r =
      (.error (.unsupported dtype "host element fill"), (f start r).2) := by
  obtain ⟨count, rfl⟩ := Nat.exists_eq_succ_of_ne_zero hcount
  simp [elements, Act.runFrom_bind, element, h]

end Elements

namespace Recipe

/-- Whether the storage is sized by the shape and then filled. -/
def IsFilled : Recipe → Prop
  | @patterns _ _ _ => False
  | _ => True

/-- Whether the elements can be written: zeros need no encoding, and neither does what has no
elements. -/
def IsWritable : Recipe → Prop
  | zeros _ _ | @patterns _ _ _ => True
  | full dtype shape _ | generate dtype shape _ _ =>
    dtype ∉ [.float8e4m3, .float8e5m2] ∨ volume shape = 0

/-- The number of bytes that are asked for. -/
def bytes (recipe : Recipe) : Nat := volume recipe.shape * recipe.dtype.width

end Recipe

/-- A new storage holds what it was made with. -/
theorem bytes_allocate (h : Heap) (dtype : DType) (shape : List UInt64) (content : Bytes) :
    bytes ⟨h.storages.length, dtype, shape⟩ (h.allocate content).2 = content := by
  have hnew : (h.allocate content).2.bytes? h.storages.length = some content := by
    rw [Heap.bytes?_allocate]
    exact if_pos rfl
  rw [bytes, Heap.bytes, hnew, Option.getD_some]

/-- How it ends to fill a tensor on a heap. -/
inductive Fills (recipe : Recipe) (h : Heap) : Except DeviceError Tensor × Heap → Prop where
  /-- The size is not accepted. -/
  | refused (size : ¬ Accepted recipe.dtype.width recipe.shape) :
    Fills recipe h (.error (.tensorSize recipe.shape recipe.dtype), h)
  /-- The size is accepted, and no memory block is so large. -/
  | unallocated (size : Accepted recipe.dtype.width recipe.shape) (large : 2 ^ 63 ≤ recipe.bytes) :
    Fills recipe h (.error (.beyondMemory recipe.bytes), h)
  /-- There is an element that cannot be written. -/
  | unwritten (size : Accepted recipe.dtype.width recipe.shape) (small : recipe.bytes < 2 ^ 63)
      (fill : ¬ recipe.IsWritable) :
    Fills recipe h (.error (.unsupported recipe.dtype "host element fill"), h)
  /-- A tensor is made. -/
  | made (content : Bytes) (size : Accepted recipe.dtype.width recipe.shape)
      (small : recipe.bytes < 2 ^ 63) (fill : recipe.IsWritable)
      (length : content.length = recipe.bytes) :
    Fills recipe h (.ok ⟨h.storages.length, recipe.dtype, recipe.shape⟩, (h.allocate content).2)

/-- What a memory block can be had for. -/
private theorem blockSize_cases (dtype : DType) (shape : List UInt64) :
    (¬ Accepted dtype.width shape ∧ blockSize dtype shape = .error (.tensorSize shape dtype)) ∨
      Accepted dtype.width shape ∧
        (2 ^ 63 ≤ volume shape * dtype.width ∧
            blockSize dtype shape = .error (.beyondMemory (volume shape * dtype.width)) ∨
          volume shape * dtype.width < 2 ^ 63 ∧
            blockSize dtype shape = .ok (volume shape * dtype.width)) := by
  rw [blockSize_eq, byteLength_eq]
  by_cases h : Accepted dtype.width shape
  · rw [if_pos h]
    by_cases hsmall : volume shape * dtype.width < 2 ^ 63
    · exact Or.inr ⟨h, Or.inr ⟨hsmall, if_pos hsmall⟩⟩
    · exact Or.inr ⟨h, Or.inl ⟨Nat.le_of_not_lt hsmall, if_neg hsmall⟩⟩
  · rw [if_neg h]
    exact Or.inl ⟨h, rfl⟩

private theorem zeros_fills (dtype : DType) (shape : List UInt64) (h : Heap) :
    Fills (.zeros dtype shape) h ((zeros dtype shape).runFrom h) := by
  rw [zeros, Act.runFrom_bind, Act.runFrom_ofExcept]
  rcases blockSize_cases dtype shape with ⟨hsize, hblock⟩ | ⟨hsize, ⟨hlarge, hblock⟩ |
    ⟨hsmall, hblock⟩⟩
  · rw [hblock]
    exact .refused hsize
  · rw [hblock]
    exact .unallocated hsize hlarge
  · rw [hblock]
    exact .made _ hsize hsmall trivial List.length_replicate

private theorem generate_fills (recipe : Recipe) (hwritable : recipe.IsWritable ↔
      recipe.dtype ∉ [.float8e4m3, .float8e5m2] ∨ volume recipe.shape = 0) {ρ : Type}
    (f : Nat → ρ → Double × ρ) (r : ρ) (h : Heap) :
    Fills recipe h ((Act.within (·, r) (fun s _ ↦ s.1)
      (generate recipe.dtype recipe.shape f)).runFrom h) := by
  rw [Act.run_within, generate, Act.runFrom_bind, Act.runFrom_ofExcept]
  rcases blockSize_cases recipe.dtype recipe.shape with ⟨hsize, hblock⟩ | ⟨hsize, ⟨hlarge, hblock⟩ |
    ⟨hsmall, hblock⟩⟩
  · rw [hblock]
    exact .refused hsize
  · rw [hblock]
    exact .unallocated hsize hlarge
  rw [hblock]
  simp only [Act.runFrom_bind, Act.run_within, Nat.mul_div_cancel _ recipe.dtype.width_pos]
  by_cases hplain : recipe.dtype ∈ [DType.float8e4m3, DType.float8e5m2]
  · have hnone (x : Double) : recipe.dtype.encode? x = none :=
      DType.encode?_eq_none_iff.mpr (by simpa using hplain)
    by_cases hvolume : volume recipe.shape = 0
    · rw [hvolume]
      exact .made [] hsize hsmall (hwritable.mpr (Or.inr hvolume))
        (by rw [Recipe.bytes, hvolume, Nat.zero_mul, List.length_nil])
    · rw [elements_error hnone hvolume]
      exact .unwritten hsize hsmall fun hfill ↦
        (hwritable.mp hfill).elim (fun hplain' ↦ hplain' hplain) hvolume
  · have hsome (x : Double) : recipe.dtype.encode? x ≠ none := fun hnone ↦
      hplain (by simpa using DType.encode?_eq_none_iff.mp hnone)
    obtain ⟨content, r', hcontent⟩ : ∃ content r',
        (elements recipe.dtype f 0 (volume recipe.shape)).runFrom r = (.ok content, r') :=
      elements_ok hsome
    rw [hcontent]
    exact .made content hsize hsmall (hwritable.mpr (Or.inl hplain)) (length_elements hcontent)

/-- A tensor is filled in one of the four ways. -/
theorem Recipe.make_fills {recipe : Recipe} (hfilled : recipe.IsFilled) (h : Heap) :
    Fills recipe h (recipe.make.runFrom h) := by
  cases recipe with
  | zeros dtype shape => exact zeros_fills dtype shape h
  | full dtype shape x =>
    exact generate_fills (.full dtype shape x) Iff.rfl (fun _ r ↦ (x, r)) () h
  | generate dtype shape f r =>
    exact generate_fills (.generate dtype shape f r) Iff.rfl f r h
  | patterns data shape => exact hfilled.elim

/-- The check of a size is exact. It gives the number of bytes where that fits 64 bits or, with a
zero among the dimensions, where the product before the first zero does; any other size is refused.
So no tensor is ever filled whose storage has another size than its shape asks for, and the order of
the dimensions matters to shapes with a zero alone. Given elements are taken where the same
multiplication gives their number; first the size is refused, then the number. -/
theorem size_check_exact :
    (∀ dtype shape, byteLength dtype shape =
      if Accepted dtype.width shape then .ok (volume shape * dtype.width)
      else .error (.tensorSize shape dtype)) ∧
    (∀ recipe : Recipe, recipe.IsFilled → ∀ h : Heap,
      (∀ error, byteLength recipe.dtype recipe.shape = .error error →
        recipe.make.runFrom h = (.error error, h)) ∧
      ∀ t h', recipe.make.runFrom h = (.ok t, h') →
        t.dtype = recipe.dtype ∧ t.shape = recipe.shape ∧
          (t.bytes h').length = volume recipe.shape * recipe.dtype.width) ∧
    (∀ (dtype : DType) (shape shape' : List UInt64), 0 ∉ shape → shape.Perm shape' →
      (byteLength dtype shape).isOk = (byteLength dtype shape').isOk) ∧
    ∀ (dtype : DType) (data : List (Pattern dtype)) (shape : List UInt64) (h : Heap),
      (ofPatterns data shape).runFrom h =
        if Accepted 1 shape then
          if data.length = volume shape then
            (.ok ⟨h.storages.length, dtype, shape⟩, (h.allocate (data.flatMap Pattern.toBytes)).2)
          else (.error (.elementCount (volume shape) data.length), h)
        else (.error (.tensorSize shape dtype), h) := by
  refine ⟨byteLength_eq, fun recipe hfilled h ↦ ?_, fun dtype shape shape' hzero hperm ↦ ?_,
    fun dtype data shape h ↦ ?_⟩
  · have hfills := Recipe.make_fills hfilled h
    generalize recipe.make.runFrom h = ended at hfills
    rw [byteLength_eq]
    cases hfills with
    | refused hsize => simp [hsize, eq_comm]
    | unallocated hsize hlarge => simp [hsize]
    | unwritten hsize hsmall hfill => simp [hsize]
    | made content hsize hsmall hfill hlength =>
      refine ⟨fun error herror ↦ by simp [hsize] at herror, ?_⟩
      rintro t h' hmade
      cases hmade
      exact ⟨rfl, rfl, by rw [bytes_allocate, hlength, Recipe.bytes]⟩
  · rw [byteLength_eq, byteLength_eq]
    by_cases h : Accepted dtype.width shape
    · rw [if_pos h, if_pos ((accepted_perm hzero hperm).mp h)]
      rfl
    · rw [if_neg h, if_neg fun h' ↦ h ((accepted_perm hzero hperm).mpr h')]
      rfl
  · rw [ofPatterns, elementCount?_eq]
    by_cases h : Accepted 1 shape
    · simp only [if_pos h]
      split <;> rfl
    · simp only [if_neg h]
      rfl

/-- A zero in front hides two factors that are too large together, and one behind them does not;
five times 2⁶¹ is accepted either way round, and a tensor of two halves is filled. -/
theorem size_check_exact_orders :
    (0 ∉ ([5, 0x2000000000000000] : List UInt64) ∧
      ([5, 0x2000000000000000] : List UInt64).Perm [0x2000000000000000, 5] ∧
      (byteLength .uint8 [5, 0x2000000000000000]).isOk =
        (byteLength .uint8 [0x2000000000000000, 5]).isOk) ∧
    byteLength .uint8 [5, 0x2000000000000000] = .ok (5 * 2 ^ 61) ∧
    byteLength .float64 [0, 0x8000000000000000, 2] = .ok 0 ∧
    byteLength .float64 [0x8000000000000000, 2, 0] =
      .error (.tensorSize [0x8000000000000000, 2, 0] .float64) ∧
    (Recipe.full .float16 [2] ⟨0⟩).IsFilled ∧
    ∀ t h', (Recipe.full .float16 [2] ⟨0⟩).make.runFrom {} = (.ok t, h') →
      (t.bytes h').length = 4 := by
  obtain ⟨hbytes, hfilled, hperm, -⟩ := size_check_exact
  have hzero : 0 ∉ ([5, 0x2000000000000000] : List UInt64) := by decide
  have hswap : ([5, 0x2000000000000000] : List UInt64).Perm [0x2000000000000000, 5] :=
    List.Perm.swap _ _ _
  exact ⟨⟨hzero, hswap, hperm .uint8 _ _ hzero hswap⟩, (hbytes _ _).trans (by decide),
    (hbytes _ _).trans (by decide), (hbytes _ _).trans (by decide), trivial,
    fun t h' hmade ↦ ((hfilled (.full .float16 [2] ⟨0⟩) trivial {}).2 t h' hmade).2.2⟩

/-- Filling a tensor comes to a block that no memory can hold exactly where the size is accepted and
has 2⁶³ bytes or more. Otherwise it ends in a tensor, or the size is refused, or the elements
cannot be written. -/
theorem filling_ends {recipe : Recipe} (hfilled : recipe.IsFilled) (h : Heap) :
    (∀ n, (recipe.make.runFrom h).1 = .error (.beyondMemory n) ↔
      byteLength recipe.dtype recipe.shape = .ok n ∧ 2 ^ 63 ≤ n) ∧
    ((∀ n, byteLength recipe.dtype recipe.shape = .ok n → n < 2 ^ 63) →
      (∃ t, (recipe.make.runFrom h).1 = .ok t) ∨
      (recipe.make.runFrom h).1 = .error (.tensorSize recipe.shape recipe.dtype) ∨
      (recipe.make.runFrom h).1 = .error (.unsupported recipe.dtype "host element fill")) := by
  have hfills := Recipe.make_fills hfilled h
  generalize recipe.make.runFrom h = ended at hfills
  -- no block is too large where the bytes are fewer
  have hfits {n : Nat} (hsize : Accepted recipe.dtype.width recipe.shape)
      (hsmall : recipe.bytes < 2 ^ 63) :
      ¬ (byteLength recipe.dtype recipe.shape = .ok n ∧ 2 ^ 63 ≤ n) := by
    rintro ⟨hn, hlarge⟩
    rw [byteLength_eq, if_pos hsize] at hn
    cases hn
    exact Nat.not_le.mpr hsmall hlarge
  cases hfills with
  | refused hsize =>
    refine ⟨fun n ↦ ?_, fun _ ↦ Or.inr (Or.inl rfl)⟩
    simp [byteLength_eq, hsize]
  | unallocated hsize hlarge =>
    have hlength : byteLength recipe.dtype recipe.shape = .ok recipe.bytes := by
      rw [byteLength_eq, if_pos hsize, Recipe.bytes]
    refine ⟨fun n ↦ ⟨?_, ?_⟩, fun hall ↦ absurd hlarge (Nat.not_le.mpr (hall _ hlength))⟩
    · rintro hn
      cases hn
      exact ⟨hlength, hlarge⟩
    · rintro ⟨hn, -⟩
      rw [hlength] at hn
      cases hn
      rfl
  | unwritten hsize hsmall hfill =>
    exact ⟨fun n ↦ iff_of_false (by simp) (hfits hsize hsmall), fun _ ↦ Or.inr (Or.inr rfl)⟩
  | made content hsize hsmall hfill hlength =>
    exact ⟨fun n ↦ iff_of_false (by simp) (hfits hsize hsmall), fun _ ↦ Or.inl ⟨_, rfl⟩⟩

/-- A recipe for 2⁶³ bytes, element by element. -/
def largeRecipe : Recipe :=
  .generate .float64 [0x1000000000000000] (fun i r ↦ (⟨UInt64.ofNat i⟩, r)) ()

/-- A recipe for two elements of a reduced type. -/
def reducedRecipe : Recipe := .full .float8e4m3 [2] ⟨0⟩

/-- No block is had for the large recipe. Two reduced elements are few enough, and the recipe for
them ends otherwise. -/
theorem filling_ends_large :
    largeRecipe.IsFilled ∧ (largeRecipe.make.runFrom {}).1 = .error (.beyondMemory (2 ^ 63)) ∧
    reducedRecipe.IsFilled ∧
    (∀ n, byteLength reducedRecipe.dtype reducedRecipe.shape = .ok n → n < 2 ^ 63) ∧
    ((∃ t, (reducedRecipe.make.runFrom {}).1 = .ok t) ∨
      (reducedRecipe.make.runFrom {}).1 = .error (.tensorSize [2] .float8e4m3) ∨
      (reducedRecipe.make.runFrom {}).1 =
        .error (.unsupported .float8e4m3 "host element fill")) := by
  have hlarge : largeRecipe.IsFilled := trivial
  have hreduced : reducedRecipe.IsFilled := trivial
  have hsmall : ∀ n, byteLength reducedRecipe.dtype reducedRecipe.shape = .ok n → n < 2 ^ 63 := by
    intro n hn
    have htwo : byteLength reducedRecipe.dtype reducedRecipe.shape = .ok 2 := by decide
    rw [htwo] at hn
    cases hn
    decide
  exact ⟨hlarge, ((filling_ends hlarge {}).1 _).mpr ⟨by decide, by decide⟩, hreduced, hsmall,
    (filling_ends hreduced {}).2 hsmall⟩

/-- Half of 2⁶⁴ bytes are accepted, and there is no such memory block. -/
theorem filling_ends_unallocatable :
    byteLength .uint8 [0x8000000000000000] = .ok (2 ^ 63) ∧ ¬ 2 ^ 63 ≤ 2 ^ 63 - 1 ∧
      ((Recipe.zeros .uint8 [0x8000000000000000]).make.runFrom {}).1 =
        .error (.beyondMemory (2 ^ 63)) := by
  decide

end KernelForge.Tensor
