import KernelForge.Proofs.Tensor.Acceptance
import KernelForge.Proofs.Tensor.Handles

/-!
# Copies of elements into tensors and out of them

Elements are copied into a tensor one after another, each in its bytes from the lowest, and copied
out in the same way. Main statements: bytes that fall into whole elements are the bytes of these
elements (`flatMap_toBytes_patterns`), elements come back from their bytes
(`patterns_flatMap_toBytes`), and so no copy loses anything, whatever was written in between
(`copies_lossless`).
-/

namespace KernelForge

/-! ### Words in bytes -/

namespace Bytes

theorem ofLittleEndian_lt (bytes : Bytes) : ofLittleEndian bytes < 2 ^ (8 * bytes.length) := by
  induction bytes with
  | nil => decide
  | cons b rest ih =>
    have hb := b.toNat_lt
    rw [ofLittleEndian, List.length_cons, Nat.mul_succ, Nat.pow_add]
    omega

/-- Bytes are the little-endian form of the number they stand for. -/
theorem littleEndian_ofLittleEndian (bytes : Bytes) :
    littleEndian bytes.length (ofLittleEndian bytes) = bytes := by
  induction bytes with
  | nil => rfl
  | cons b rest ih =>
    have hb := b.toNat_lt
    have hrest : (b.toNat + 256 * ofLittleEndian rest) / 256 = ofLittleEndian rest := by omega
    have hfirst : UInt8.ofNat (b.toNat + 256 * ofLittleEndian rest) = b := by
      apply UInt8.toNat_inj.mp
      rw [UInt8.toNat_ofNat']
      omega
    rw [List.length_cons, ofLittleEndian, littleEndian, hrest, ih, hfirst]

/-- Every byte of a little-endian form is a digit of the number to the base 256. -/
theorem getElem?_littleEndian {width k : Nat} (hk : k < width) (n : Nat) :
    (littleEndian width n)[k]? = some (UInt8.ofNat (n / 256 ^ k)) := by
  induction width generalizing k n with
  | zero => omega
  | succ width ih =>
    cases k with
    | zero => simp [littleEndian]
    | succ k =>
      rw [littleEndian, List.getElem?_cons_succ, ih (Nat.lt_of_succ_lt_succ hk),
        Nat.div_div_eq_div_mul, Nat.pow_succ']

/-! ### Pieces -/

section Chunks

variable {α : Type} {size : Nat}

/-- A piece of its size in front is cut off first. -/
theorem chunks_append {piece : List α} (hpiece : piece.length = size) (hsize : 0 < size)
    (rest : List α) : chunks size (piece ++ rest) = piece :: chunks size rest := by
  cases piece with
  | nil => simp_all
  | cons x more =>
    have hone : size - 1 + 1 = (x :: more).length := by omega
    rw [List.cons_append, chunks, ← List.cons_append, hone, List.take_left, List.drop_left]

/-- Pieces of one size are found again in their concatenation. -/
theorem chunks_flatten {pieces : List (List α)} (hsize : 0 < size)
    (h : ∀ piece ∈ pieces, piece.length = size) : chunks size pieces.flatten = pieces := by
  induction pieces with
  | nil => simp [chunks]
  | cons piece pieces ih =>
    rw [List.flatten_cons, chunks_append (h piece (by simp)) hsize,
      ih fun other hother ↦ h other (by simp [hother])]

/-- The pieces read the list. -/
theorem flatten_chunks (size : Nat) (xs : List α) : (chunks size xs).flatten = xs := by
  fun_induction chunks size xs with
  | case1 => rfl
  | case2 x rest ih => rw [List.flatten_cons, ih, List.take_append_drop]

/-- A list of whole pieces is cut into as many, all of the same size. -/
theorem chunks_lengths {count : Nat} {xs : List α} (hsize : 0 < size)
    (hlength : xs.length = count * size) :
    (chunks size xs).length = count ∧ ∀ piece ∈ chunks size xs, piece.length = size := by
  induction count generalizing xs with
  | zero =>
    rw [Nat.zero_mul, List.length_eq_zero_iff] at hlength
    subst hlength
    simp [chunks]
  | succ count ih =>
    rw [Nat.succ_mul] at hlength
    have hfirst : (xs.take size).length = size := by
      rw [List.length_take]
      omega
    have hrest : (xs.drop size).length = count * size := by
      rw [List.length_drop]
      omega
    obtain ⟨hcount, hpieces⟩ := ih hrest
    rw [← List.take_append_drop size xs, chunks_append hfirst hsize]
    exact ⟨by rw [List.length_cons, hcount], List.forall_mem_cons.mpr ⟨hfirst, hpieces⟩⟩

end Chunks

end Bytes

/-! ### Elements in bytes -/

namespace Pattern

variable {t : DType}

/-- The bytes of an element come back from it. -/
theorem toBytes_ofBytes {bytes : Bytes} (h : bytes.length = t.width) :
    (ofBytes t bytes).toBytes = bytes := by
  have hlt : Bytes.ofLittleEndian bytes < 2 ^ (8 * t.width) := h ▸ Bytes.ofLittleEndian_lt bytes
  rw [toBytes, ofBytes, BitVec.toNat_ofNat, Nat.mod_eq_of_lt hlt, ← h,
    Bytes.littleEndian_ofLittleEndian]

/-- Elements come back from their bytes. -/
theorem patterns_flatMap_toBytes (data : List (Pattern t)) :
    (Bytes.chunks t.width (data.flatMap toBytes)).map (ofBytes t) = data := by
  have hpieces : Bytes.chunks t.width (data.flatMap toBytes) = data.map toBytes := by
    rw [List.flatMap_def]
    exact Bytes.chunks_flatten t.width_pos (by simp)
  rw [hpieces, List.map_map]
  exact (List.map_congr_left fun p _ ↦ ofBytes_toBytes p).trans (List.map_id data)

/-- Bytes that fall into whole elements are the bytes of as many elements. -/
theorem flatMap_toBytes_patterns {bytes : Bytes} {count : Nat}
    (h : bytes.length = count * t.width) :
    ((Bytes.chunks t.width bytes).map (ofBytes t)).length = count ∧
      ((Bytes.chunks t.width bytes).map (ofBytes t)).flatMap toBytes = bytes := by
  obtain ⟨hcount, hpieces⟩ := Bytes.chunks_lengths t.width_pos h
  refine ⟨by rw [List.length_map, hcount], ?_⟩
  rw [List.flatMap_map, List.flatMap_def]
  have hsame : (Bytes.chunks t.width bytes).map (fun piece ↦ (ofBytes t piece).toBytes) =
      Bytes.chunks t.width bytes :=
    (List.map_congr_left fun piece hpiece ↦ toBytes_ofBytes (hpieces piece hpiece)).trans
      (List.map_id _)
  rw [hsame, Bytes.flatten_chunks]

/-- The bytes of the elements stand one element after the other, each from its lowest byte. -/
theorem getElem?_flatMap_toBytes {data : List (Pattern t)} {i k : Nat} {p : Pattern t}
    (hp : data[i]? = some p) (hk : k < t.width) :
    (data.flatMap toBytes)[i * t.width + k]? = some (UInt8.ofNat (p.toNat / 256 ^ k)) := by
  induction data generalizing i with
  | nil => simp at hp
  | cons first rest ih =>
    rw [List.flatMap_cons]
    cases i with
    | zero =>
      rw [List.getElem?_cons_zero, Option.some.injEq] at hp
      subst hp
      rw [Nat.zero_mul, Nat.zero_add, List.getElem?_append_left (by simpa using hk), toBytes,
        Bytes.getElem?_littleEndian hk]
    | succ i =>
      have hoffset : (i + 1) * t.width + k - first.toBytes.length = i * t.width + k := by
        rw [length_toBytes, Nat.succ_mul]
        omega
      rw [List.getElem?_append_right (by rw [length_toBytes, Nat.succ_mul]; omega), hoffset]
      exact ih hp

end Pattern

/-! ### Copies -/

namespace Tensor

/-- Given elements are copied in where their number is the one that the shape asks for. -/
theorem ofPatterns_run {dtype : DType} {data : List (Pattern dtype)} {shape : List UInt64}
    (h : elementCount? shape = some data.length) (heap : Heap) :
    (ofPatterns data shape).runFrom heap = (.ok ⟨heap.storages.length, dtype, shape⟩,
      (heap.allocate (data.flatMap Pattern.toBytes)).2) := by
  rw [ofPatterns, h]
  simp only [if_true]
  rfl

/-- The elements that are copied out of a tensor of its size make a tensor of the same bytes. -/
theorem Sized.copies {t : Tensor} {heap : Heap} (ht : t.Sized heap) (h : Heap) :
    ∃ data t' h', (t.patterns t.dtype).runFrom heap = (.ok data, heap) ∧
      (ofPatterns data t.shape).runFrom h = (.ok t', h') ∧ t'.bytes h' = t.bytes heap := by
  obtain ⟨content, hcontent, hlength⟩ := ht.stored
  have hbytes : t.bytes heap = content := by rw [bytes, Heap.bytes, hcontent, Option.getD_some]
  obtain ⟨hcount, hflat⟩ := Pattern.flatMap_toBytes_patterns hlength
  have helements : elementCount? t.shape =
      some ((Bytes.chunks t.dtype.width content).map (Pattern.ofBytes t.dtype)).length := by
    rw [hcount, ht.fits.toNat_numel]
    exact elementCount?_eq_some.mpr ⟨rfl, ht.fits.leading⟩
  refine ⟨_, _, _, ?_, ofPatterns_run helements h, ?_⟩
  · rw [patterns, if_pos rfl, Act.runFrom_reads, hbytes]
  · rw [bytes_allocate, hflat, hbytes]

end Tensor

open Tensor HandleTable

/-- Copies of elements lose nothing. Elements whose number the shape asks for are copied in, the
bytes of one after those of the other and each from the lowest, and copied out the same; as
elements of any other type they are refused, of the same width or not. The other way round, whatever
was done to a tensor, the elements that are copied out of it make a tensor of the same bytes. -/
theorem copies_lossless :
    (∀ (dtype : DType) (data : List (Pattern dtype)) (shape : List UInt64) (h : Heap),
      elementCount? shape = some data.length →
      ∃ t h', (ofPatterns data shape).runFrom h = (.ok t, h') ∧ t.dtype = dtype ∧
        t.shape = shape ∧ (t.bytes h').length = data.length * dtype.width ∧
        (∀ i p, data[i]? = some p → ∀ k < dtype.width,
          (t.bytes h')[i * dtype.width + k]? = some (UInt8.ofNat (p.toNat / 256 ^ k))) ∧
        (t.patterns dtype).runFrom h' = (.ok data, h') ∧
        ∀ other ≠ dtype,
          (t.patterns other).runFrom h' = (.error (.dtypeMismatch other dtype), h')) ∧
    ∀ (w : World) (steps : List TensorStep), (start w).Along steps →
      ∀ H ∈ ((start w).run steps).handles, ∀ h : Heap, ∃ data t h',
        (H.tensor.patterns H.tensor.dtype).runFrom ((start w).run steps).world.heap =
          (.ok data, ((start w).run steps).world.heap) ∧
        (ofPatterns data H.tensor.shape).runFrom h = (.ok t, h') ∧
        t.bytes h' = H.tensor.bytes ((start w).run steps).world.heap := by
  constructor
  · intro dtype data shape h hcount
    refine ⟨_, _, ofPatterns_run hcount h, rfl, rfl, ?_, ?_, ?_, fun other hother ↦ ?_⟩
    · simp [bytes_allocate, List.length_flatMap]
    · intro i p hp k hk
      rw [bytes_allocate]
      exact Pattern.getElem?_flatMap_toBytes hp hk
    · rw [patterns, if_pos rfl, Act.runFrom_reads, bytes_allocate,
        Pattern.patterns_flatMap_toBytes]
    · rw [patterns, if_neg hother, Act.runFrom_throw]
  · intro w steps halong H hH h
    exact (((Sound.start w).run halong).sized H hH).copies h

/-- A NaN with a payload, a negative zero and the greatest number of half precision. -/
def rareHalves : List (Pattern .float16) := [0x7e01, 0x8000, 0x7bff]

/-- A world to make tensors in. -/
def patchedWorld : World where
  host := Host.initial

/-- A tensor is made of two halves and overwritten across their border. -/
def patchedSteps : List TensorStep :=
  [.make (@Recipe.patterns .float16 [0x7e01, 0x8000] [2]), .overwrite 0 1 [0xff, 0x34]]

/-- The rare halves are copied in and out, and refused as elements of the other type of two bytes;
the bytes of the overwritten tensor are copied whole. -/
theorem copies_lossless_patched :
    elementCount? [3, 1] = some rareHalves.length ∧
    (∃ t h', (ofPatterns rareHalves [3, 1]).runFrom {} = (.ok t, h') ∧
      (t.bytes h').length = 6 ∧ (t.bytes h')[3]? = some 0x80 ∧
      (t.patterns .float16).runFrom h' = (.ok rareHalves, h') ∧
      (t.patterns .bfloat16).runFrom h' = (.error (.dtypeMismatch .bfloat16 .float16), h')) ∧
    (start patchedWorld).Along patchedSteps ∧
    ∃ H ∈ ((start patchedWorld).run patchedSteps).handles, ∃ data t h',
      (H.tensor.patterns H.tensor.dtype).runFrom
          ((start patchedWorld).run patchedSteps).world.heap =
        (.ok data, ((start patchedWorld).run patchedSteps).world.heap) ∧
      (ofPatterns data H.tensor.shape).runFrom {} = (.ok t, h') ∧
      t.bytes h' = [0x01, 0xff, 0x34, 0x80] := by
  have hcount : elementCount? [3, 1] = some rareHalves.length := by decide
  have halong : (start patchedWorld).Along patchedSteps := by
    refine ⟨?_, trivial, trivial⟩
    show [0x7e01, 0x8000].length * DType.float16.width < 2 ^ 63
    decide
  obtain ⟨t, h', hmade, -, -, hlength, hbytes, hout, hother⟩ :=
    copies_lossless.1 .float16 rareHalves [3, 1] {} hcount
  have hmem : (⟨⟨0, .float16, [2]⟩, 0⟩ : Handle) ∈
      ((start patchedWorld).run patchedSteps).handles := List.mem_singleton.mpr rfl
  obtain ⟨data, t₂, h₂, hread, hcopy, hsame⟩ :=
    copies_lossless.2 patchedWorld patchedSteps halong _ hmem {}
  refine ⟨hcount, ⟨t, h', hmade, hlength, ?_, hout, hother _ (by decide)⟩, halong,
    _, hmem, data, t₂, h₂, hread, hcopy, hsame⟩
  exact hbytes 1 0x8000 rfl 1 (by decide)

end KernelForge
