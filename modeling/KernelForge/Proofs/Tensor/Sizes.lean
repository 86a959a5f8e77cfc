import KernelForge.Proofs.Act
import KernelForge.Tensor.Basic
import Mathlib.Algebra.BigOperators.Ring.List

/-!
# Sizes of tensors

A size is checked while it is multiplied out, and multiplied out again unchecked whenever it is
asked for. Main statements: a checked size is the product of the dimensions, and no product on the
way to it leaves the 64 bits (`elementCount?_eq_some`), the unchecked sizes are the same numbers
then (`Fits.toNat_numel`, `Fits.toNat_nbytes`), and a tensor is made with a new storage of exactly
its size, or nothing is made (`Recipe.make_makes`).
-/

namespace KernelForge.Tensor

/-- The number of elements of a shape. -/
def volume (shape : List UInt64) : Nat := (shape.map UInt64.toNat).prod

@[simp] theorem volume_nil : volume [] = 1 := rfl

/-- A further dimension multiplies what is multiplied out so far. -/
theorem mul_volume_cons (a : Nat) (d : UInt64) (shape : List UInt64) :
    a * volume (d :: shape) = a * d.toNat * volume shape := by
  rw [volume, List.map_cons, List.prod_cons, ← Nat.mul_assoc, volume]

/-- The sizes of a tensor fit 64 bits: the products over its leading dimensions do, and so does the
number of its bytes. -/
structure Fits (dtype : DType) (shape : List UInt64) : Prop where
  /-- Multiplying out the dimensions from the left never leaves the 64 bits. -/
  leading : ∀ n, volume (shape.take n) < UInt64.size
  /-- Neither does multiplying by the width of an element. -/
  bytes : volume shape * dtype.width < UInt64.size

/-- Multiplying out checked and from the left gives the product, if no product on the way is too
large. -/
theorem foldlM_checkedMul {a n : Nat} {shape : List UInt64} (ha : a < UInt64.size) :
    shape.foldlM (fun n d ↦ checkedMul n d.toNat) a = some n ↔
      n = a * volume shape ∧ ∀ k, a * volume (shape.take k) < UInt64.size := by
  induction shape generalizing a with
  | nil => simp [ha, eq_comm]
  | cons d rest ih =>
    rw [List.foldlM_cons, mul_volume_cons]
    by_cases hfirst : a * d.toNat < UInt64.size
    · have hchecked : checkedMul a d.toNat = some (a * d.toNat) := if_pos hfirst
      rw [hchecked, Option.bind_eq_bind, Option.bind_some, ih hfirst, and_congr_right_iff]
      intro _
      constructor
      · intro h k
        cases k with
        | zero => simpa using ha
        | succ k => simpa only [List.take_succ_cons, mul_volume_cons] using h k
      · intro h k
        simpa only [List.take_succ_cons, mul_volume_cons] using h (k + 1)
    · have hchecked : checkedMul a d.toNat = none := if_neg hfirst
      rw [hchecked, Option.bind_eq_bind, Option.bind_none]
      simp only [reduceCtorEq, false_iff, not_and]
      intro _ h
      have hone := h 1
      rw [List.take_succ_cons, mul_volume_cons, List.take_zero, volume_nil, Nat.mul_one] at hone
      exact hfirst hone

/-- A checked number of elements is the product of the dimensions. -/
theorem elementCount?_eq_some {n : Nat} {shape : List UInt64} : elementCount? shape = some n ↔
    n = volume shape ∧ ∀ k, volume (shape.take k) < UInt64.size := by
  rw [elementCount?, foldlM_checkedMul (by decide)]
  simp only [Nat.one_mul]

/-- A memory block for a tensor has the size of the tensor, which fits then. -/
theorem blockSize_eq_ok {dtype : DType} {shape : List UInt64} {size : Nat}
    (h : blockSize dtype shape = .ok size) :
    size = volume shape * dtype.width ∧ Fits dtype shape := by
  rw [blockSize, byteCount?] at h
  cases hcount : elementCount? shape with
  | none => simp [hcount] at h
  | some n =>
    obtain ⟨rfl, hleading⟩ := elementCount?_eq_some.mp hcount
    by_cases hbytes : volume shape * dtype.width < UInt64.size
    · simp only [hcount, Option.bind_some, checkedMul, if_pos hbytes] at h
      split at h
      · cases h
        exact ⟨rfl, hleading, hbytes⟩
      · cases h
    · simp [hcount, checkedMul, hbytes] at h

namespace Fits

variable {dtype : DType} {shape : List UInt64}

private theorem toNat_foldl_mul {a : UInt64} {shape : List UInt64}
    (h : ∀ k, a.toNat * volume (shape.take k) < UInt64.size) :
    (shape.foldl (· * ·) a).toNat = a.toNat * volume shape := by
  induction shape generalizing a with
  | nil => simp
  | cons d rest ih =>
    have hfirst : (a * d).toNat = a.toNat * d.toNat := by
      have hone := h 1
      rw [List.take_succ_cons, mul_volume_cons, List.take_zero, volume_nil, Nat.mul_one] at hone
      rw [UInt64.toNat_mul, Nat.mod_eq_of_lt hone]
    rw [List.foldl_cons, ih, hfirst, mul_volume_cons]
    intro k
    rw [hfirst, ← mul_volume_cons]
    exact h (k + 1)

/-- Where the sizes fit, the unchecked number of elements is the product of the dimensions. -/
theorem toNat_numel {t : Tensor} (h : Fits t.dtype t.shape) : t.numel.toNat = volume t.shape := by
  have hone : (1 : UInt64).toNat = 1 := rfl
  rw [numel, toNat_foldl_mul, hone, Nat.one_mul]
  intro k
  rw [hone, Nat.one_mul]
  exact h.leading k

/-- Where the sizes fit, the unchecked number of bytes is the number of elements times the width. -/
theorem toNat_nbytes {t : Tensor} (h : Fits t.dtype t.shape) :
    t.nbytes.toNat = volume t.shape * t.dtype.width := by
  have hwidth : t.dtype.width < UInt64.size := by cases t.dtype <;> decide
  rw [nbytes, UInt64.toNat_mul, toNat_numel h, UInt64.toNat_ofNat_of_lt' hwidth,
    Nat.mod_eq_of_lt h.bytes]

end Fits

/-- The elements of a tensor take their width each, if they are encoded. -/
theorem length_elements {ρ : Type} {dtype : DType} {f : Nat → ρ → Double × ρ} {start count : Nat}
    {r r' : ρ} {content : Bytes}
    (h : (elements dtype f start count).runFrom r = (.ok content, r')) :
    content.length = count * dtype.width := by
  induction count generalizing start r r' content with
  | zero =>
    cases h
    simp
  | succ count ih =>
    simp only [elements, Act.runFrom_bind, Act.runFrom_ofRun, Act.runFrom_ofExcept, element] at h
    cases hfirst : dtype.encode? (f start r).1 with
    | none => simp [hfirst] at h
    | some first =>
      rw [hfirst] at h
      simp only at h
      rcases hrest : (elements dtype f (start + 1) count).runFrom (f start r).2 with ⟨_ | rest, r''⟩
      · rw [hrest] at h
        cases h
      · rw [hrest] at h
        cases h
        rw [List.length_append, DType.length_encode? hfirst, ih hrest, Nat.succ_mul, Nat.add_comm]

/-- How a tensor is made. -/
inductive Recipe : Type 1 where
  /-- Of zeros. -/
  | zeros (dtype : DType) (shape : List UInt64)
  /-- With the same number everywhere. -/
  | full (dtype : DType) (shape : List UInt64) (x : Double)
  /-- With what is answered for each element in turn. -/
  | generate {ρ : Type} (dtype : DType) (shape : List UInt64) (f : Nat → ρ → Double × ρ) (r : ρ)
  /-- With the given elements. -/
  | patterns {dtype : DType} (data : List (Pattern dtype)) (shape : List UInt64)

namespace Recipe

/-- The element type that is asked for. -/
def dtype : Recipe → DType
  | zeros dtype _ | full dtype _ _ | generate dtype _ _ _ | @patterns dtype _ _ => dtype

/-- The shape that is asked for. -/
def shape : Recipe → List UInt64
  | zeros _ shape | full _ shape _ | generate _ shape _ _ | patterns _ shape => shape

/-- Makes the tensor. -/
def make : Recipe → Act Heap DeviceError Tensor
  | zeros dtype shape => Tensor.zeros dtype shape
  | full dtype shape x => Tensor.full dtype shape x
  | generate dtype shape f r => Act.within (·, r) (fun s _ ↦ s.1) (Tensor.generate dtype shape f)
  | patterns data shape => ofPatterns data shape

/-- Given elements are in memory, where they take less than 2⁶³ bytes. -/
def InMemory : Recipe → Prop
  | @patterns dtype data _ => data.length * dtype.width < 2 ^ 63
  | _ => True

end Recipe

/-- How it ends to make a tensor on a heap. -/
inductive Makes (h : Heap) (dtype : DType) (shape : List UInt64) :
    Except DeviceError Tensor × Heap → Prop where
  /-- Nothing is made. -/
  | refused (error : DeviceError) : Makes h dtype shape (.error error, h)
  /-- A tensor is made, with a new storage of its size. -/
  | made (content : Bytes) (fits : Fits dtype shape)
      (length : content.length = volume shape * dtype.width) :
      Makes h dtype shape (.ok ⟨h.storages.length, dtype, shape⟩, (h.allocate content).2)

section Making

variable (h : Heap) (dtype : DType) (shape : List UInt64)

private theorem zeros_makes : Makes h dtype shape ((zeros dtype shape).runFrom h) := by
  rw [zeros, Act.runFrom_bind, Act.runFrom_ofExcept]
  cases hsize : blockSize dtype shape with
  | error error => exact .refused error
  | ok size =>
    obtain ⟨rfl, hfits⟩ := blockSize_eq_ok hsize
    exact .made _ hfits List.length_replicate

private theorem generate_makes {ρ : Type} (f : Nat → ρ → Double × ρ) (r : ρ) :
    Makes h dtype shape
      ((Act.within (·, r) (fun s _ ↦ s.1) (generate dtype shape f)).runFrom h) := by
  rw [Act.run_within, generate, Act.runFrom_bind, Act.runFrom_ofExcept]
  cases hsize : blockSize dtype shape with
  | error error => exact .refused error
  | ok size =>
    obtain ⟨rfl, hfits⟩ := blockSize_eq_ok hsize
    simp only [Act.runFrom_bind, Act.run_within, Nat.mul_div_cancel _ dtype.width_pos]
    rcases hcontent : (elements dtype f 0 (volume shape)).runFrom r with ⟨error | content, r'⟩
    · exact .refused error
    · exact .made content hfits (length_elements hcontent)

private theorem ofPatterns_makes {dtype : DType} (data : List (Pattern dtype))
    (hdata : data.length * dtype.width < 2 ^ 63) :
    Makes h dtype shape ((ofPatterns data shape).runFrom h) := by
  rw [ofPatterns]
  cases hcount : elementCount? shape with
  | none => exact .refused _
  | some expected =>
    obtain ⟨rfl, hleading⟩ := elementCount?_eq_some.mp hcount
    simp only
    split
    · next hlength =>
      refine .made _ ⟨hleading, ?_⟩ ?_
      · rw [← hlength]
        exact Nat.lt_trans hdata (by decide)
      · rw [← hlength, List.length_flatMap]
        simp [Pattern.length_toBytes]
    · exact .refused _

end Making

/-- A tensor is made with a new storage of its size, or nothing is made. -/
theorem Recipe.make_makes {recipe : Recipe} (hmemory : recipe.InMemory) (h : Heap) :
    Makes h recipe.dtype recipe.shape (recipe.make.runFrom h) := by
  cases recipe with
  | zeros dtype shape => exact zeros_makes h dtype shape
  | full dtype shape x => exact generate_makes h dtype shape (fun _ r ↦ (x, r)) ()
  | generate dtype shape f r => exact generate_makes h dtype shape f r
  | patterns data shape => exact ofPatterns_makes h shape data hmemory

end KernelForge.Tensor
