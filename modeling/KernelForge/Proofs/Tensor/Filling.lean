import KernelForge.Proofs.Binary.Truncation
import KernelForge.Proofs.Tensor.Copies

/-!
# Filling tensors with numbers

A tensor is filled by asking for one number after the other and storing each as an element. Main
statements: every number is asked for once and in order, and its element is what an integer type
stores for it (`generate_run`, `Pattern.integer_patternOf`); so an integer tensor holds the integer
parts, kept in the range of its type, and a tensor of a reduced type is made only where it has no
elements (`numbers_stored`).
-/

namespace KernelForge

/-! ### Integers as elements -/

namespace DType

/-- The least integer of an integer type. -/
def lowest (t : DType) : ℤ := if t.isSigned then -2 ^ (8 * t.width - 1) else 0

/-- The greatest integer of an integer type. -/
def highest (t : DType) : ℤ :=
  if t.isSigned then 2 ^ (8 * t.width - 1) - 1 else 2 ^ (8 * t.width) - 1

/-- The integer that an integer type stores for a pattern: the integer part of its number, towards
zero and kept in the range of the type, and zero for what is no number. -/
def stored (t : DType) (x : Double) : ℤ :=
  match x.number? with
  | none => 0
  | some v => saturate t.lowest t.highest v

/-- Shifting the significand finds what is stored. -/
theorem stored_eq_clamp (t : DType) (x : Double) :
    t.stored x = x.value.clamp t.lowest t.highest := (x.clamp_value t.lowest t.highest).symm

/-- The element that a pattern is stored as, of a type that stores numbers. -/
def patternOf (t : DType) (x : Double) : Pattern t := Pattern.ofBytes t ((t.encode? x).getD [])

section Integer

variable {t : DType}

theorem range?_eq (ht : t.isInteger) : t.range? = some (t.lowest, t.highest) := by
  cases t <;> first | rfl | exact absurd ht (by decide)

theorem lowest_le_highest (t : DType) : t.lowest ≤ t.highest := by
  cases t <;> decide

theorem stored_mem (t : DType) (x : Double) : t.lowest ≤ t.stored x ∧ t.stored x ≤ t.highest := by
  rw [stored]
  cases x.number? with
  | none => cases t <;> decide
  | some v => exact saturate_mem t.lowest_le_highest v

/-- A greater number is stored as no smaller integer. -/
theorem stored_mono {x y : Double} {v w : WithBot (WithTop ℚ)} (hx : x.number? = some v)
    (hy : y.number? = some w) (h : v ≤ w) : t.stored x ≤ t.stored y := by
  rw [stored, stored, hx, hy]
  exact saturate_mono t.lowest_le_highest h

/-- An integer in the range of the type is stored as it is. -/
theorem stored_intCast {x : Double} {n : ℤ}
    (hx : x.number? = some (((n : ℚ) : WithTop ℚ) : WithBot (WithTop ℚ))) (hlow : t.lowest ≤ n)
    (hhigh : n ≤ t.highest) : t.stored x = n := by
  rw [stored, hx]
  exact saturate_intCast hlow hhigh

/-- The bytes of a stored number are those of its element. -/
theorem encode?_eq_patternOf {x : Double} (h : t.encode? x ≠ none) :
    t.encode? x = some (t.patternOf x).toBytes := by
  obtain ⟨bytes, hbytes⟩ := Option.ne_none_iff_exists'.mp h
  rw [patternOf, hbytes, Option.getD_some, Pattern.toBytes_ofBytes (length_encode? hbytes)]

theorem encode?_ne_none (ht : t ∉ [float8e4m3, float8e5m2]) (x : Double) : t.encode? x ≠ none :=
  fun hnone ↦ ht (by simpa using encode?_eq_none_iff.mp hnone)

theorem encode?_eq_none (ht : t ∈ [float8e4m3, float8e5m2]) (x : Double) : t.encode? x = none :=
  encode?_eq_none_iff.mpr (by simpa using ht)

end Integer

end DType

namespace Pattern

variable {t : DType}

/-- The integer that an element of an integer type is. -/
def integer (p : Pattern t) : ℤ := if t.isSigned then p.toInt else p.toNat

/-- The element for an integer. -/
def ofInteger (t : DType) (n : ℤ) : Pattern t := BitVec.ofInt _ n

/-- An integer in the range of its type comes back from its element. -/
theorem integer_ofInteger {n : ℤ} (hlow : t.lowest ≤ n) (hhigh : n ≤ t.highest) :
    (ofInteger t n).integer = n := by
  have hwidth : 8 * t.width = 8 * t.width - 1 + 1 := by
    have := t.width_pos
    omega
  have hpow : (2 : ℤ) ^ (8 * t.width) = 2 * 2 ^ (8 * t.width - 1) := by
    rw [← pow_succ', ← hwidth]
  rw [DType.lowest] at hlow
  rw [DType.highest] at hhigh
  rw [integer, ofInteger]
  by_cases ht : t.isSigned
  · rw [if_pos ht] at hlow hhigh ⊢
    rw [BitVec.toInt_ofInt, Int.bmod_eq_of_le] <;> push_cast <;> omega
  · rw [if_neg ht] at hlow hhigh ⊢
    have hlt : n < ((2 ^ (8 * t.width) : ℕ) : ℤ) := by
      push_cast
      omega
    rw [BitVec.toNat_ofInt, Int.emod_eq_of_lt hlow hlt, Int.toNat_of_nonneg hlow]

/-- An integer type encodes a number as the element for the integer that it stores. -/
theorem encode?_eq_ofInteger (ht : t.isInteger) (x : Double) :
    t.encode? x = some (ofInteger t (t.stored x)).toBytes := by
  have hencode : t.encode? x = t.range?.map fun range ↦ Bytes.littleEndian t.width
      (x.value.clamp range.1 range.2 % ((1 <<< (8 * t.width) : ℕ) : ℤ)).toNat := by
    cases t <;> first | rfl | exact absurd ht (by decide)
  rw [hencode, DType.range?_eq ht, Option.map_some, ← DType.stored_eq_clamp, toBytes, ofInteger,
    BitVec.toNat_ofInt, Nat.one_shiftLeft]

theorem integer_patternOf (ht : t.isInteger) (x : Double) :
    (t.patternOf x).integer = t.stored x := by
  rw [DType.patternOf, encode?_eq_ofInteger ht, Option.getD_some, ofBytes_toBytes,
    integer_ofInteger (t.stored_mem x).1 (t.stored_mem x).2]

end Pattern

namespace Tensor

/-! ### One number for every element -/

section Asking

variable {ρ : Type} (f : Nat → ρ → Double × ρ)

/-- The state after `f` was asked once for each of `count` elements, from `start` on and in
order. -/
def asked (start : Nat) (r : ρ) (count : Nat) : ρ :=
  (List.range' start count).foldl (fun r i ↦ (f i r).2) r

/-- What `f` answers for an element when it was asked for all that stand before it, from `start`
on. -/
def answered (start : Nat) (r : ρ) (i : Nat) : Double := (f (start + i) (asked f start r i)).1

/-- The elements that are stored of a type that stores numbers. -/
def filled (dtype : DType) (start : Nat) (r : ρ) (count : Nat) : List (Pattern dtype) :=
  (List.range count).map fun i ↦ dtype.patternOf (answered f start r i)

theorem asked_succ (start : Nat) (r : ρ) (count : Nat) :
    asked f start r (count + 1) = asked f (start + 1) (f start r).2 count := by
  rw [asked, List.range'_succ, List.foldl_cons, asked]

theorem filled_succ (dtype : DType) (start : Nat) (r : ρ) (count : Nat) :
    filled f dtype start r (count + 1) =
      dtype.patternOf (f start r).1 :: filled f dtype (start + 1) (f start r).2 count := by
  rw [filled, List.range_succ_eq_map, List.map_cons, List.map_map, filled]
  congr 1
  apply List.map_congr_left
  intro i _
  -- the element after the first is asked for in the state that the first has left
  show dtype.patternOf (answered f start r (i + 1)) = _
  rw [answered, asked_succ, answered, Nat.add_right_comm, Nat.add_assoc]

variable {f} {dtype : DType}

/-- Every number is asked for once and in order, and the bytes are those of the elements. -/
theorem elements_run {start count : Nat} {r : ρ}
    (h : dtype ∉ [.float8e4m3, .float8e5m2] ∨ count = 0) :
    (elements dtype f start count).runFrom r =
      (.ok ((filled f dtype start r count).flatMap Pattern.toBytes), asked f start r count) := by
  induction count generalizing start r with
  | zero => rfl
  | succ count ih =>
    have hplain := h.resolve_right (Nat.succ_ne_zero count)
    have hfirst : element dtype (f start r).1 = .ok (dtype.patternOf (f start r).1).toBytes := by
      rw [element, DType.encode?_eq_patternOf (DType.encode?_ne_none hplain _)]
    simp only [elements, Act.runFrom_bind, Act.runFrom_ofRun, Act.runFrom_ofExcept, hfirst,
      ih (Or.inl hplain), Act.runFrom_pure]
    rw [filled_succ, asked_succ, List.flatMap_cons]

end Asking

section Filling

variable {dtype : DType} {shape : List UInt64} {n : Nat}

/-- A size below 2⁶³ has its block. -/
theorem blockSize_of_byteLength (hsize : byteLength dtype shape = .ok n) (hsmall : n < 2 ^ 63) :
    blockSize dtype shape = .ok n := by
  rw [blockSize_eq, hsize]
  exact if_pos hsmall

theorem eq_volume_of_byteLength (hsize : byteLength dtype shape = .ok n) :
    n = volume shape * dtype.width := by
  rw [byteLength_eq] at hsize
  split at hsize
  · exact (Except.ok.inj hsize).symm
  · cases hsize

variable {ρ : Type} {f : Nat → ρ → Double × ρ} {h : Heap} {r : ρ}

/-- A tensor of numbers is made on a new storage, of the elements that are stored for them. -/
theorem generate_run (hsize : byteLength dtype shape = .ok n) (hsmall : n < 2 ^ 63)
    (hplain : dtype ∉ [.float8e4m3, .float8e5m2] ∨ volume shape = 0) :
    (generate dtype shape f).runFrom (h, r) = (.ok ⟨h.storages.length, dtype, shape⟩,
      (h.allocate ((filled f dtype 0 r (volume shape)).flatMap Pattern.toBytes)).2,
      asked f 0 r (volume shape)) := by
  have hcount : n / dtype.width = volume shape := by
    rw [eq_volume_of_byteLength hsize, Nat.mul_div_cancel _ dtype.width_pos]
  rw [generate, Act.runFrom_bind, Act.runFrom_ofExcept, blockSize_of_byteLength hsize hsmall]
  simp only [hcount, Act.runFrom_bind, Act.run_within, elements_run hplain]
  rfl

/-- Of a reduced type the first element is asked for and not stored. -/
theorem generate_unsupported (hsize : byteLength dtype shape = .ok n) (hsmall : n < 2 ^ 63)
    (hreduced : dtype ∈ [.float8e4m3, .float8e5m2]) (hvolume : volume shape ≠ 0) :
    (generate dtype shape f).runFrom (h, r) =
      (.error (.unsupported dtype "host element fill"), h, (f 0 r).2) := by
  have hcount : n / dtype.width = volume shape := by
    rw [eq_volume_of_byteLength hsize, Nat.mul_div_cancel _ dtype.width_pos]
  rw [generate, Act.runFrom_bind, Act.runFrom_ofExcept, blockSize_of_byteLength hsize hsmall]
  simp only [hcount, Act.runFrom_bind, Act.run_within,
    elements_error (DType.encode?_eq_none hreduced) hvolume]

/-- Of 2⁶³ bytes and more there is no block. -/
theorem generate_beyondMemory (hsize : byteLength dtype shape = .ok n) (hlarge : 2 ^ 63 ≤ n) :
    (generate dtype shape f).runFrom (h, r) = (.error (.beyondMemory n), h, r) := by
  have hblock : blockSize dtype shape = .error (.beyondMemory n) := by
    rw [blockSize_eq, hsize]
    exact if_neg (Nat.not_lt.mpr hlarge)
  rw [generate, Act.runFrom_bind, Act.runFrom_ofExcept, hblock]

/-- A size that is refused has no block. -/
theorem blockSize_of_refused {error : DeviceError} (hsize : byteLength dtype shape = .error error) :
    blockSize dtype shape = .error error := by
  rw [blockSize_eq, hsize]
  rfl

theorem zeros_refused {error : DeviceError} (hsize : byteLength dtype shape = .error error)
    (h : Heap) : (zeros dtype shape).runFrom h = (.error error, h) := by
  rw [zeros, Act.runFrom_bind, Act.runFrom_ofExcept, blockSize_of_refused hsize]

theorem ofFn_refused {error : DeviceError} (hsize : byteLength dtype shape = .error error)
    (g : Nat → Double) (h : Heap) : (ofFn dtype shape g).runFrom h = (.error error, h) := by
  rw [ofFn, Act.run_within, generate, Act.runFrom_bind, Act.runFrom_ofExcept,
    blockSize_of_refused hsize]

/-- Zeros need no element to be stored. -/
theorem zeros_run (hsize : byteLength dtype shape = .ok n) (hsmall : n < 2 ^ 63) (h : Heap) :
    (zeros dtype shape).runFrom h =
      (.ok ⟨h.storages.length, dtype, shape⟩, (h.allocate (List.replicate n 0)).2) := by
  rw [zeros, Act.runFrom_bind, Act.runFrom_ofExcept, blockSize_of_byteLength hsize hsmall]
  rfl

/-- A tensor of one number for each place holds the elements for them. -/
theorem ofFn_run (hsize : byteLength dtype shape = .ok n) (hsmall : n < 2 ^ 63)
    (hplain : dtype ∉ [.float8e4m3, .float8e5m2] ∨ volume shape = 0) (g : Nat → Double) (h : Heap) :
    (ofFn dtype shape g).runFrom h = (.ok ⟨h.storages.length, dtype, shape⟩,
      (h.allocate (((List.range (volume shape)).map fun i ↦ dtype.patternOf (g i)).flatMap
        Pattern.toBytes)).2) := by
  rw [ofFn, Act.run_within, generate_run hsize hsmall hplain]
  simp only [filled, answered, Nat.zero_add]

theorem ofFn_unsupported (hsize : byteLength dtype shape = .ok n) (hsmall : n < 2 ^ 63)
    (hreduced : dtype ∈ [.float8e4m3, .float8e5m2]) (hvolume : volume shape ≠ 0) (g : Nat → Double)
    (h : Heap) : (ofFn dtype shape g).runFrom h =
      (.error (.unsupported dtype "host element fill"), h) := by
  rw [ofFn, Act.run_within, generate_unsupported hsize hsmall hreduced hvolume]

/-- The elements of a new tensor are read back as they were stored. -/
theorem patterns_allocate (h : Heap) (shape : List UInt64) (data : List (Pattern dtype)) :
    (patterns ⟨h.storages.length, dtype, shape⟩ dtype).runFrom
        (h.allocate (data.flatMap Pattern.toBytes)).2 =
      (.ok data, (h.allocate (data.flatMap Pattern.toBytes)).2) := by
  rw [patterns, if_pos rfl, Act.runFrom_reads, bytes_allocate, Pattern.patterns_flatMap_toBytes]

end Filling

/-- Filling a tensor of an accepted size with numbers. Below 2⁶³ bytes, a type of integers is asked
a number for every element, once and in order, and stores the integer part of each, towards zero and
kept in the range of the type; what is no number is stored as zero, and the infinities as the ends
of the range. So integers in the range come back as they are, and a greater number never as a
smaller integer. Of the reduced types a tensor is made then exactly where it has no elements. From
2⁶³ bytes on no tensor is made, and nothing is asked for. -/
theorem numbers_stored {dtype : DType} {shape : List UInt64} {n : Nat}
    (hsize : byteLength dtype shape = .ok n) :
    (n < 2 ^ 63 → dtype.isInteger → ∀ {ρ : Type} (f : Nat → ρ → Double × ρ) (r : ρ) (h : Heap),
      ∃ t h' data,
        (generate dtype shape f).runFrom (h, r) = (.ok t, h', asked f 0 r (volume shape)) ∧
        t.dtype = dtype ∧ t.shape = shape ∧ t.numel.toNat = volume shape ∧
        (t.patterns dtype).runFrom h' = (.ok data, h') ∧
        data.map Pattern.integer =
          (List.range (volume shape)).map fun i ↦ dtype.stored (answered f 0 r i)) ∧
    (∀ (x : Double) (m : ℤ),
      x.number? = some (((m : ℚ) : WithTop ℚ) : WithBot (WithTop ℚ)) →
      dtype.lowest ≤ m → m ≤ dtype.highest → dtype.stored x = m) ∧
    (∀ (x y : Double) (v w : WithBot (WithTop ℚ)),
      x.number? = some v → y.number? = some w → v ≤ w → dtype.stored x ≤ dtype.stored y) ∧
    (n < 2 ^ 63 → dtype ∈ [.float8e4m3, .float8e5m2] →
      (∀ {ρ : Type} (f : Nat → ρ → Double × ρ) (r : ρ) (h : Heap),
        (0 < volume shape → (generate dtype shape f).runFrom (h, r) =
          (.error (.unsupported dtype "host element fill"), h, (f 0 r).2)) ∧
        (volume shape = 0 → ∃ t h', (generate dtype shape f).runFrom (h, r) = (.ok t, h', r) ∧
          t.dtype = dtype ∧ t.shape = shape ∧ t.bytes h' = [])) ∧
      ∀ (x : Double) (h : Heap),
        (0 < volume shape → (full dtype shape x).runFrom h =
          (.error (.unsupported dtype "host element fill"), h)) ∧
        (volume shape = 0 → ∃ t h', (full dtype shape x).runFrom h = (.ok t, h') ∧
          t.dtype = dtype ∧ t.shape = shape ∧ t.bytes h' = [])) ∧
    (2 ^ 63 ≤ n → ∀ {ρ : Type} (f : Nat → ρ → Double × ρ) (r : ρ) (h : Heap),
      (generate dtype shape f).runFrom (h, r) = (.error (.beyondMemory n), h, r)) := by
  refine ⟨fun hsmall ht ρ f r h ↦ ?_, fun x m ↦ DType.stored_intCast,
    fun x y v w ↦ DType.stored_mono, fun hsmall hreduced ↦ ⟨fun f r h ↦ ⟨fun hvolume ↦
      generate_unsupported hsize hsmall hreduced hvolume.ne', fun hvolume ↦ ?_⟩, fun x h ↦
      ⟨fun hvolume ↦ ofFn_unsupported hsize hsmall hreduced hvolume.ne' _ h, fun hvolume ↦ ?_⟩⟩,
    fun hlarge ρ f r h ↦ generate_beyondMemory hsize hlarge⟩
  · have hplain : dtype ∉ [.float8e4m3, .float8e5m2] := by
      cases dtype <;> first | decide | exact absurd ht (by decide)
    have hfits := (blockSize_eq_ok (blockSize_of_byteLength hsize hsmall)).2
    refine ⟨_, _, _, generate_run hsize hsmall (Or.inl hplain), rfl, rfl,
      Fits.toNat_numel (t := ⟨h.storages.length, dtype, shape⟩) hfits,
      patterns_allocate h shape _, ?_⟩
    rw [filled, List.map_map]
    exact List.map_congr_left fun i _ ↦ Pattern.integer_patternOf ht _
  · have hrun := generate_run (f := f) (h := h) (r := r) hsize hsmall (Or.inr hvolume)
    rw [hvolume] at hrun
    exact ⟨_, _, hrun, rfl, rfl, bytes_allocate ..⟩
  · have hrun := ofFn_run hsize hsmall (Or.inr hvolume) (fun _ ↦ x) h
    rw [hvolume] at hrun
    exact ⟨_, _, hrun, rfl, rfl, bytes_allocate ..⟩

/-- One and a half, a NaN, minus infinity, three hundred, minus two and a half, and a half, to one
who notes for which element each is asked. -/
def roughNumbers (i : Nat) (asked : List Nat) : Double × List Nat :=
  ([⟨0x3ff8000000000000⟩, ⟨0x7ff8000000000001⟩, ⟨0xfff0000000000000⟩, ⟨0x4072c00000000000⟩,
    ⟨0xc004000000000000⟩, ⟨0x3fe0000000000000⟩].getD i ⟨0⟩, asked ++ [i])

/-- The rough numbers are stored as signed bytes, and not as elements of eight bits with an exponent
unless there are none; minus five is stored as it is, and infinity as nothing less. -/
theorem numbers_stored_rough :
    (byteLength .int8 [2, 3] = .ok 6 ∧ ∃ t h' data,
      (generate .int8 [2, 3] roughNumbers).runFrom ({}, []) = (.ok t, h', [0, 1, 2, 3, 4, 5]) ∧
      (t.patterns .int8).runFrom h' = (.ok data, h') ∧
      data.map Pattern.integer = [1, 0, -128, 127, -2, 0]) ∧
    (byteLength .float8e5m2 [0, 3] = .ok 0 ∧ ∃ t h',
      (generate .float8e5m2 [0, 3] roughNumbers).runFrom ({}, []) = (.ok t, h', []) ∧
      t.bytes h' = []) ∧
    (byteLength .float64 [0x1000000000000000] = .ok (2 ^ 63) ∧
      (generate .float64 [0x1000000000000000] roughNumbers).runFrom ({}, []) =
        (.error (.beyondMemory (2 ^ 63)), {}, [])) ∧
    (byteLength .float8e4m3 [2] = .ok 2 ∧ (full .float8e4m3 [2] ⟨0⟩).runFrom {} =
      (.error (.unsupported .float8e4m3 "host element fill"), {})) ∧
    DType.int16.stored ⟨0xc014000000000000⟩ = -5 ∧
    DType.uint64.stored ⟨0xc014000000000000⟩ ≤ DType.uint64.stored ⟨0x7ff0000000000000⟩ := by
  have hbytes : byteLength .int8 [2, 3] = .ok 6 := by decide
  have hnone : byteLength .float8e5m2 [0, 3] = .ok 0 := by decide
  have hlarge : byteLength .float64 [0x1000000000000000] = .ok (2 ^ 63) := by decide
  have htwo : byteLength .float8e4m3 [2] = .ok 2 := by decide
  have hminus : (⟨0xc014000000000000⟩ : Double).number? =
      some ((((-5 : ℤ) : ℚ) : WithTop ℚ) : WithBot (WithTop ℚ)) := by
    have hnegative : (⟨0xc014000000000000⟩ : Double).isNegative := by decide
    have hexponent : (⟨0xc014000000000000⟩ : Double).exponentField = 1025 := by decide
    have hfraction : (⟨0xc014000000000000⟩ : Double).fractionField = 2 ^ 50 := by decide
    rw [Double.number?, Double.rational, if_pos (by decide), hnegative, hexponent, hfraction]
    norm_num
  have hinfinite : (⟨0x7ff0000000000000⟩ : Double).number? = some ⊤ := by
    rw [Double.number?, if_neg (by decide), if_pos (by decide), if_neg (by decide)]
  have hone : byteLength .int16 [] = .ok 2 := by decide
  have hnumber : byteLength .uint64 [] = .ok 8 := by decide
  obtain ⟨t, h', data, hrun, -, -, -, hread, hdata⟩ :=
    (numbers_stored hbytes).1 (by decide) (by decide) roughNumbers [] {}
  obtain ⟨-, -, -, hempty, -⟩ := numbers_stored hnone
  obtain ⟨t₀, h₀, hrun₀, -, -, hcontent⟩ :=
    ((hempty (by decide) (by decide)).1 roughNumbers [] {}).2 (by decide)
  obtain ⟨-, -, -, -, hunallocated⟩ := numbers_stored hlarge
  obtain ⟨-, -, -, hreduced, -⟩ := numbers_stored htwo
  obtain ⟨-, hexact, -⟩ := numbers_stored hone
  obtain ⟨-, -, hmono, -⟩ := numbers_stored hnumber
  refine ⟨⟨hbytes, t, h', data, hrun, hread, hdata.trans ?_⟩, ⟨hnone, t₀, h₀, hrun₀, hcontent⟩,
    ⟨hlarge, hunallocated (le_refl _) roughNumbers [] {}⟩,
    ⟨htwo, ((hreduced (by decide) (by decide)).2 ⟨0⟩ {}).1 (by decide)⟩,
    hexact _ (-5) hminus (by decide) (by decide), hmono _ _ _ _ hminus hinfinite le_top⟩
  simp only [DType.stored_eq_clamp]
  decide

/-- A size of 2⁶³ elements is accepted, and to fill a tensor of them fails, yet not because the
elements cannot be stored. -/
theorem numbers_stored_unallocatable :
    byteLength .float8e4m3 [0x8000000000000000] = .ok (2 ^ 63) ∧
      0 < volume [0x8000000000000000] ∧
      (full .float8e4m3 [0x8000000000000000] ⟨0x3ff0000000000000⟩).runFrom {} ≠
        (.error (.unsupported .float8e4m3 "host element fill"), {}) := by
  refine ⟨by decide, by decide, fun hrun ↦ ?_⟩
  have hlarge : (full .float8e4m3 [0x8000000000000000] ⟨0x3ff0000000000000⟩).runFrom {} =
      (.error (.beyondMemory (2 ^ 63)), {}) := rfl
  rw [hlarge] at hrun
  cases hrun

end Tensor

end KernelForge
