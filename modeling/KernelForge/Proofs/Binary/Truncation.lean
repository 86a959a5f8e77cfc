import KernelForge.Binary.Format
import Mathlib.Algebra.Order.Field.Power
import Mathlib.Data.Rat.Floor

/-!
# Doubles cut to integers

The number that a pattern of double precision stands for is told by its three fields: a rational
number, one of the two infinities, or none at all. As an integer it is cut towards zero and kept in
a range. Main statements: this is monotone and leaves the integers in the range alone
(`saturate_mono`, `saturate_intCast`), and it is what shifting the significand comes to
(`Double.clamp_value`).
-/

namespace KernelForge

/-! ### Cutting towards zero -/

/-- A rational number cut to an integer, towards zero. -/
def truncate (q : ℚ) : ℤ := if 0 ≤ q then ⌊q⌋ else ⌈q⌉

theorem truncate_intCast (n : ℤ) : truncate n = n := by
  rw [truncate, Int.floor_intCast, Int.ceil_intCast, ite_self]

theorem truncate_neg (q : ℚ) : truncate (-q) = -truncate q := by
  rcases lt_trichotomy q 0 with hq | rfl | hq
  · rw [truncate, truncate, if_pos (by linarith), if_neg (not_le.mpr hq), Int.floor_neg]
  · rw [neg_zero, ← Int.cast_zero, truncate_intCast, neg_zero]
  · rw [truncate, truncate, if_neg (by linarith), if_pos hq.le, Int.ceil_neg]

theorem truncate_mono {p q : ℚ} (hpq : p ≤ q) : truncate p ≤ truncate q := by
  rw [truncate, truncate]
  split <;> split
  · exact Int.floor_le_floor hpq
  · next hp hq => exact absurd (hp.trans hpq) hq
  · next hp hq =>
    exact (Int.ceil_le.mpr (by simpa using (not_le.mp hp).le)).trans (Int.floor_nonneg.mpr hq)
  · exact Int.ceil_le_ceil hpq

/-- A natural number times a power of two is cut by a shift. -/
theorem truncate_mul_two_zpow (m : ℕ) (e : ℤ) : truncate (m * 2 ^ e) =
    ((if 0 ≤ e then m <<< e.toNat else m >>> (-e).toNat : ℕ) : ℤ) := by
  have hpos : (0 : ℚ) ≤ m * 2 ^ e := by positivity
  rw [truncate, if_pos hpos]
  split
  · next he =>
    obtain ⟨k, rfl⟩ := Int.eq_ofNat_of_zero_le he
    rw [zpow_natCast, Int.toNat_natCast, Nat.shiftLeft_eq, Int.floor_eq_iff]
    push_cast
    exact ⟨le_refl _, lt_add_one _⟩
  · next he =>
    obtain ⟨k, hk⟩ := Int.eq_ofNat_of_zero_le (Int.neg_nonneg_of_nonpos (Int.le_of_not_le he))
    obtain rfl : e = -(k : ℤ) := by omega
    rw [neg_neg, Int.toNat_natCast, Nat.shiftRight_eq_div_pow, zpow_neg, zpow_natCast,
      ← div_eq_mul_inv, ← Nat.cast_two, ← Nat.cast_pow, Rat.floor_natCast_div_natCast]
    rfl

/-! ### Saturation -/

/-- The integer part of a number, kept between `low` and `high`. -/
def saturate (low high : ℤ) : WithBot (WithTop ℚ) → ℤ
  | ⊥ => low
  | WithBot.some ⊤ => high
  | WithBot.some (WithTop.some q) => max low (min high (truncate q))

section Saturate

variable {low high : ℤ}

theorem saturate_coe (low high : ℤ) (q : ℚ) :
    saturate low high ((q : WithTop ℚ) : WithBot (WithTop ℚ)) =
      max low (min high (truncate q)) := rfl

/-- An integer in the range stays as it is. -/
theorem saturate_intCast {n : ℤ} (hlow : low ≤ n) (hhigh : n ≤ high) :
    saturate low high (((n : ℚ) : WithTop ℚ) : WithBot (WithTop ℚ)) = n := by
  rw [saturate_coe, truncate_intCast, min_eq_right hhigh, max_eq_right hlow]

/-- What is kept in a range lies in it. -/
theorem saturate_mem (h : low ≤ high) (v : WithBot (WithTop ℚ)) :
    low ≤ saturate low high v ∧ saturate low high v ≤ high := by
  cases v with
  | bot => exact ⟨le_refl low, h⟩
  | coe v =>
    cases v with
    | top => exact ⟨h, le_refl high⟩
    | coe q => exact ⟨le_max_left .., max_le h (min_le_left ..)⟩

/-- A greater number gives no smaller integer. -/
theorem saturate_mono (h : low ≤ high) {v w : WithBot (WithTop ℚ)} (hvw : v ≤ w) :
    saturate low high v ≤ saturate low high w := by
  cases w with
  | bot => rw [le_bot_iff.mp hvw]
  | coe w =>
    cases w with
    | top => exact (saturate_mem h v).2
    | coe q =>
      cases v with
      | bot => exact (saturate_mem h _).1
      | coe v =>
        cases v with
        | top => exact absurd (WithBot.coe_le_coe.mp hvw) (WithTop.not_top_le_coe q)
        | coe p =>
          have hpq : p ≤ q := WithTop.coe_le_coe.mp (WithBot.coe_le_coe.mp hvw)
          exact max_le_max_left _ (min_le_min_left _ (truncate_mono hpq))

end Saturate

/-! ### The number of a pattern -/

namespace Double

/-- Whether the sign bit is set. -/
def isNegative (x : Double) : Bool := 2 ^ 63 ≤ x.bits.toNat

/-- The eleven bits after the sign. -/
def exponentField (x : Double) : ℕ := x.bits.toNat / 2 ^ 52 % 2 ^ 11

/-- The last fifty-two bits. -/
def fractionField (x : Double) : ℕ := x.bits.toNat % 2 ^ 52

/-- The rational number of a pattern whose exponent field is not the greatest one. With an exponent
field of zero there is no leading one before the fraction. -/
def rational (x : Double) : ℚ :=
  (if x.isNegative then -1 else 1) *
    if x.exponentField = 0 then (x.fractionField : ℚ) / 2 ^ 52 * 2 ^ (-1022 : ℤ)
    else (1 + (x.fractionField : ℚ) / 2 ^ 52) * 2 ^ ((x.exponentField : ℤ) - 1023)

/-- The number that a pattern stands for, if any. -/
def number? (x : Double) : Option (WithBot (WithTop ℚ)) :=
  if x.exponentField < 2 ^ 11 - 1 then some ((x.rational : WithTop ℚ) : WithBot (WithTop ℚ))
  else if x.fractionField = 0 then some (if x.isNegative then ⊥ else ⊤)
  else none

/-- What a pattern stands for, by its fields. -/
theorem value_eq (x : Double) : x.value =
    if x.exponentField = 2 ^ 11 - 1 then
      if x.fractionField = 0 then .infinite x.isNegative
      else .notANumber x.isNegative x.fractionField
    else if x.exponentField = 0 then .finite x.isNegative x.fractionField (-1074)
    else .finite x.isNegative (2 ^ 52 + x.fractionField) (x.exponentField - 1075) := by
  have hsign : (x.bits.toNat / 2 ^ 63 % 2 == 1) = x.isNegative := by
    have hlt : x.bits.toNat < 2 ^ 64 := x.bits.toNat_lt
    rw [isNegative, beq_eq_decide, decide_eq_decide]
    omega
  have hexponent : (x.bits.toNat >>> Binary.double.fractionBits) %
      (1 <<< Binary.double.exponentBits) = x.exponentField := by
    rw [Nat.shiftRight_eq_div_pow, Nat.one_shiftLeft]
    rfl
  have hfraction : x.bits.toNat % (1 <<< Binary.double.fractionBits) = x.fractionField := by
    rw [Nat.one_shiftLeft]
    rfl
  have hplace : Binary.double.signPlace = 2 ^ 63 := rfl
  have htop : Binary.double.topExponent = 2 ^ 11 - 1 := rfl
  have hleast : Binary.double.leastExponent = -1074 := rfl
  have hone : 1 <<< Binary.double.fractionBits = 2 ^ 52 := rfl
  simp only [value, Binary.Format.decode, hplace, htop, hleast, hsign, hexponent, hfraction]
  split
  · rfl
  · split
    · rfl
    · next hzero =>
      have hpower : (-1074 : ℤ) + ((x.exponentField - 1 : ℕ) : ℤ) = x.exponentField - 1075 := by
        omega
      rw [hpower, hone]

/-- The number of a pattern as a significand and a power of two. -/
theorem rational_eq (x : Double) : x.rational = (if x.isNegative then -1 else 1) *
    if x.exponentField = 0 then (x.fractionField : ℚ) * 2 ^ (-1074 : ℤ)
    else ((2 ^ 52 + x.fractionField : ℕ) : ℚ) * 2 ^ ((x.exponentField : ℤ) - 1075) := by
  have hscale (e : ℤ) : (2 : ℚ) ^ e / 2 ^ 52 = 2 ^ (e - 52) := by
    rw [zpow_sub₀ two_ne_zero]
    rfl
  rw [rational]
  congr 1
  split
  · rw [div_mul_eq_mul_div, mul_div_assoc, hscale]
    norm_num
  · rw [show (x.exponentField : ℤ) - 1075 = x.exponentField - 1023 - 52 by ring, ← hscale]
    push_cast
    field_simp
    norm_num

/-- Shifting the significand cuts the number towards zero; what is no number counts as zero, and the
infinities are kept at the ends of the range. -/
theorem clamp_value (x : Double) (low high : ℤ) : x.value.clamp low high =
    match x.number? with
    | none => 0
    | some v => saturate low high v := by
  have hfinite (negative : Bool) (m : ℕ) (e : ℤ) :
      (Binary.Value.finite negative m e).clamp low high =
        max low (min high (truncate ((if negative then -1 else 1) * (m * 2 ^ e)))) := by
    cases negative with
    | false =>
      have hone : (if false = true then (-1 : ℚ) else 1) * (m * 2 ^ e) = m * 2 ^ e := one_mul _
      rw [hone, truncate_mul_two_zpow]
      rfl
    | true =>
      have hminus : (if true = true then (-1 : ℚ) else 1) * (m * 2 ^ e) = -(m * 2 ^ e) :=
        neg_one_mul _
      rw [hminus, truncate_neg, truncate_mul_two_zpow]
      rfl
  have hlt : x.exponentField < 2 ^ 11 := Nat.mod_lt _ (by decide)
  by_cases htop : x.exponentField = 2 ^ 11 - 1
  · have hnot : ¬ x.exponentField < 2 ^ 11 - 1 := by omega
    rw [value_eq, number?, if_pos htop, if_neg hnot]
    by_cases hfraction : x.fractionField = 0
    · rw [if_pos hfraction, if_pos hfraction]
      cases x.isNegative <;> rfl
    · rw [if_neg hfraction, if_neg hfraction]
      rfl
  · have hfew : x.exponentField < 2 ^ 11 - 1 := by omega
    rw [value_eq, number?, if_neg htop, if_pos hfew, rational_eq]
    simp only [saturate_coe]
    split
    · exact hfinite _ _ _
    · exact hfinite _ _ _

end Double

end KernelForge
