import KernelForge.Bench.Timing
import Mathlib.Algebra.Group.Action.Defs
import Mathlib.Algebra.Order.BigOperators.Group.List
import Mathlib.Algebra.Order.Ring.Nat

/-!
# Measurements and their mean

The total of measurements is divided by their number as a word of 32 bits. While the word holds the
number, the mean is exact and lies between the least and the greatest measurement; where the number
is a multiple of 2^32, nothing is told, and behind the first multiple the mean comes out too large.
Main statement: `timing_sound`.
-/

namespace KernelForge

namespace Duration

variable {runs : List Duration}

theorem total?_eq (runs : List Duration) : total? runs =
    if (runs.map nanoseconds).sum < limit then some ⟨(runs.map nanoseconds).sum⟩ else none := by
  have hsum : runs.foldl (fun n d ↦ n + d.nanoseconds) 0 = (runs.map nanoseconds).sum := by
    rw [List.sum_eq_foldl, List.foldl_map]
  rw [total?, hsum]

/-- As many times the least measurement is no more than the total. -/
theorem length_mul_le_sum {n : Nat} (h : ∀ d ∈ runs, n ≤ d.nanoseconds) :
    runs.length * n ≤ (runs.map nanoseconds).sum := by
  have hsum := (runs.map nanoseconds).card_nsmul_le_sum n (by simpa using h)
  rwa [List.length_map, smul_eq_mul] at hsum

/-- As many times the greatest measurement is no less than the total. -/
theorem sum_le_length_mul {n : Nat} (h : ∀ d ∈ runs, d.nanoseconds ≤ n) :
    (runs.map nanoseconds).sum ≤ runs.length * n := by
  have hsum := (runs.map nanoseconds).sum_le_card_nsmul n (by simpa using h)
  rwa [List.length_map, smul_eq_mul] at hsum

end Duration

namespace Timing

variable {runs : List Duration}

/-- The divisor of the mean is what a word of 32 bits keeps of the number of measurements. -/
theorem toNat_divisor (hruns : runs ≠ []) :
    (UInt32.ofNat (max runs.length 1)).toNat = runs.length % 2 ^ 32 := by
  rw [Nat.max_eq_left (List.length_pos_iff.mpr hruns), UInt32.toNat_ofNat']

/-- Measurements are told of where their total is a duration and the divisor is not zero. -/
theorem ofRuns?_eq (hruns : runs ≠ []) : ofRuns? runs =
    if (runs.map Duration.nanoseconds).sum < Duration.limit ∧ ¬ 2 ^ 32 ∣ runs.length then
      some ⟨⟨(runs.map Duration.nanoseconds).min?.getD 0⟩,
        ⟨(runs.map Duration.nanoseconds).sum / (runs.length % 2 ^ 32)⟩,
        ⟨(runs.map Duration.nanoseconds).max?.getD 0⟩, runs⟩
    else none := by
  have hdivisor := toNat_divisor hruns
  have hzero : UInt32.ofNat (max runs.length 1) = 0 ↔ 2 ^ 32 ∣ runs.length := by
    rw [← UInt32.toNat_inj, hdivisor, Nat.dvd_iff_mod_eq_zero]
    rfl
  rw [ofRuns?, Duration.total?_eq]
  by_cases hlimit : (runs.map Duration.nanoseconds).sum < Duration.limit
  · by_cases hdvd : 2 ^ 32 ∣ runs.length
    · rw [if_pos hlimit, if_neg fun h ↦ h.2 hdvd, hzero.mpr hdvd]
      rfl
    · rw [if_pos hlimit, if_pos ⟨hlimit, hdvd⟩]
      simp only [Option.bind_eq_bind, Option.bind_some, Duration.dividedBy?,
        if_neg (mt hzero.mp hdvd), hdivisor]
  · rw [if_neg hlimit, if_neg fun h ↦ hlimit h.1]
    rfl

/-- What is told of `runs`, where their total was divided by `divisor`. -/
structure Tells (t : Timing) (runs : List Duration) (divisor : Nat) : Prop where
  /-- All measurements are told. -/
  runs_eq : t.runs = runs
  /-- The least is one of them. -/
  least_mem : t.least ∈ runs
  /-- None is less. -/
  least_le : ∀ d ∈ runs, t.least.nanoseconds ≤ d.nanoseconds
  /-- The greatest is one of them. -/
  greatest_mem : t.greatest ∈ runs
  /-- None is greater. -/
  le_greatest : ∀ d ∈ runs, d.nanoseconds ≤ t.greatest.nanoseconds
  /-- The mean is the total over the divisor, rounded down. -/
  mean_eq : t.mean.nanoseconds = (runs.map Duration.nanoseconds).sum / divisor

private theorem mem_of_nanoseconds {n : Nat} (h : n ∈ runs.map Duration.nanoseconds) :
    (⟨n⟩ : Duration) ∈ runs := by
  obtain ⟨d, hd, rfl⟩ := List.mem_map.mp h
  exact hd

/-- Where the divisor is not zero, a total that is a duration has a mean. -/
theorem exists_tells (hruns : runs ≠ [])
    (htotal : (runs.map Duration.nanoseconds).sum < Duration.limit)
    (hdvd : ¬ 2 ^ 32 ∣ runs.length) :
    ∃ t, ofRuns? runs = some t ∧ t.Tells runs (runs.length % 2 ^ 32) := by
  have hmap : runs.map Duration.nanoseconds ≠ [] := by simpa using hruns
  obtain ⟨least, hleast⟩ := Option.isSome_iff_exists.mp (List.isSome_min?_of_ne_nil hmap)
  obtain ⟨greatest, hgreatest⟩ := Option.isSome_iff_exists.mp (List.isSome_max?_of_ne_nil hmap)
  rw [ofRuns?_eq hruns, if_pos ⟨htotal, hdvd⟩, hleast, hgreatest]
  rw [List.min?_eq_some_iff] at hleast
  rw [List.max?_eq_some_iff] at hgreatest
  exact ⟨_, rfl, rfl, mem_of_nanoseconds hleast.1,
    fun d hd ↦ hleast.2 _ (List.mem_map_of_mem hd), mem_of_nanoseconds hgreatest.1,
    fun d hd ↦ hgreatest.2 _ (List.mem_map_of_mem hd), rfl⟩

namespace Tells

variable {t : Timing} {divisor : Nat}

/-- A divisor that is not above the number of measurements leaves the mean above the least. -/
theorem least_le_mean (h : t.Tells runs divisor) (hpos : 0 < divisor)
    (hle : divisor ≤ runs.length) : t.least.nanoseconds ≤ t.mean.nanoseconds := by
  rw [h.mean_eq, Nat.le_div_iff_mul_le hpos]
  calc t.least.nanoseconds * divisor
      ≤ t.least.nanoseconds * runs.length := Nat.mul_le_mul_left _ hle
    _ = runs.length * t.least.nanoseconds := Nat.mul_comm ..
    _ ≤ (runs.map Duration.nanoseconds).sum := Duration.length_mul_le_sum h.least_le

/-- A divisor that is not below the number of measurements leaves the mean below the greatest. -/
theorem mean_le_greatest (h : t.Tells runs divisor) (hle : runs.length ≤ divisor) :
    t.mean.nanoseconds ≤ t.greatest.nanoseconds := by
  rw [h.mean_eq]
  apply Nat.div_le_of_le_mul
  calc (runs.map Duration.nanoseconds).sum
      ≤ runs.length * t.greatest.nanoseconds := Duration.sum_le_length_mul h.le_greatest
    _ ≤ divisor * t.greatest.nanoseconds := Nat.mul_le_mul_right _ hle

end Tells

/-- Measurements whose total is a duration, in any number: where the number is a multiple of 2^32,
nothing is told of them. Else the least and the greatest are told, and the mean is the total divided
by what a word of 32 bits keeps of the number, which is not below the least. While the number is
below 2^32, the mean is the exact one and not above the greatest either. -/
theorem timing_sound (runs : List Duration) (hruns : runs ≠ [])
    (htotal : (runs.map Duration.nanoseconds).sum < Duration.limit) :
    (2 ^ 32 ∣ runs.length → ofRuns? runs = none) ∧
    (¬ 2 ^ 32 ∣ runs.length → ∃ t, ofRuns? runs = some t ∧
      t.Tells runs (runs.length % 2 ^ 32) ∧ t.least.nanoseconds ≤ t.mean.nanoseconds) ∧
    (runs.length < 2 ^ 32 → ∃ t, ofRuns? runs = some t ∧ t.Tells runs runs.length ∧
      t.isOrdered) := by
  have hpos : 0 < runs.length := List.length_pos_iff.mpr hruns
  refine ⟨fun hdvd ↦ ?_, fun hdvd ↦ ?_, fun hlength ↦ ?_⟩
  · rw [ofRuns?_eq hruns, if_neg fun h ↦ h.2 hdvd]
  · obtain ⟨t, ht, htells⟩ := exists_tells hruns htotal hdvd
    have hmod : 0 < runs.length % 2 ^ 32 :=
      Nat.pos_of_ne_zero fun h ↦ hdvd (Nat.dvd_of_mod_eq_zero h)
    exact ⟨t, ht, htells, htells.least_le_mean hmod (Nat.mod_le ..)⟩
  · obtain ⟨t, ht, htells⟩ := exists_tells hruns htotal (Nat.not_dvd_of_pos_of_lt hpos hlength)
    rw [Nat.mod_eq_of_lt hlength] at htells
    refine ⟨t, ht, htells, ?_⟩
    rw [isOrdered, Bool.and_eq_true, decide_eq_true_eq, decide_eq_true_eq]
    exact ⟨htells.least_le_mean hpos le_rfl, htells.mean_le_greatest le_rfl⟩

/-- Three measurements, with a mean that is rounded. -/
theorem timing_sound_three : ∃ t, ofRuns? [⟨3⟩, ⟨1⟩, ⟨4⟩] = some t ∧
    t.Tells [⟨3⟩, ⟨1⟩, ⟨4⟩] 3 ∧ t.isOrdered ∧ t.mean = ⟨2⟩ := by
  obtain ⟨-, -, hsound⟩ := timing_sound [⟨3⟩, ⟨1⟩, ⟨4⟩] (by simp) (by decide)
  obtain ⟨t, ht, htells, hordered⟩ := hsound (by decide)
  exact ⟨t, ht, htells, hordered, congrArg Duration.mk htells.mean_eq⟩

section Alike

variable {n : Nat} {d : Duration}

private theorem sum_replicate (n : Nat) (d : Duration) :
    ((List.replicate n d).map Duration.nanoseconds).sum = n * d.nanoseconds := by
  rw [List.map_replicate, List.sum_replicate, smul_eq_mul]

private theorem replicate_ne_nil (hn : 0 < n) : List.replicate n d ≠ [] := by
  simpa using hn.ne'

private theorem ofRuns?_replicate_eq_none (hn : 0 < n) (hdvd : 2 ^ 32 ∣ n) :
    ofRuns? (List.replicate n d) = none := by
  rw [ofRuns?_eq (replicate_ne_nil hn), List.length_replicate, if_neg fun h ↦ h.2 hdvd]

/-- Measurements that are all the same have it as the greatest. -/
private theorem ofRuns?_replicate (hn : 0 < n) (htotal : n * d.nanoseconds < Duration.limit)
    (hdvd : ¬ 2 ^ 32 ∣ n) : ∃ t, ofRuns? (List.replicate n d) = some t ∧ t.greatest = d ∧
      t.mean = ⟨n * d.nanoseconds / (n % 2 ^ 32)⟩ := by
  obtain ⟨t, ht, htells⟩ := exists_tells (replicate_ne_nil hn) (by rwa [sum_replicate])
    (by rwa [List.length_replicate])
  have hmean := htells.mean_eq
  rw [sum_replicate, List.length_replicate] at hmean
  exact ⟨t, ht, List.eq_of_mem_replicate htells.greatest_mem, congrArg Duration.mk hmean⟩

end Alike

/-- Of 2^32 measurements of a nanosecond each nothing is told. With one more, the mean is told as
2^32 + 1 nanoseconds, where no measurement is above one. -/
theorem timing_sound_wrapped :
    ((List.replicate (2 ^ 32) (⟨1⟩ : Duration)).map Duration.nanoseconds).sum < Duration.limit ∧
    ofRuns? (List.replicate (2 ^ 32) ⟨1⟩) = none ∧
    ((List.replicate (2 ^ 32 + 1) (⟨1⟩ : Duration)).map Duration.nanoseconds).sum <
      Duration.limit ∧
    ∃ t, ofRuns? (List.replicate (2 ^ 32 + 1) ⟨1⟩) = some t ∧ t.greatest = ⟨1⟩ ∧
      t.mean = ⟨2 ^ 32 + 1⟩ ∧ t.isOrdered = false := by
  refine ⟨?_, ofRuns?_replicate_eq_none (by decide) (dvd_refl _), ?_, ?_⟩
  · rw [sum_replicate]
    decide
  · rw [sum_replicate]
    decide
  · obtain ⟨t, ht, hgreatest, hmean⟩ :=
      ofRuns?_replicate (n := 2 ^ 32 + 1) (d := ⟨1⟩) (by decide) (by decide) (by decide)
    refine ⟨t, ht, hgreatest, hmean, ?_⟩
    rw [isOrdered, hgreatest, hmean]
    exact Bool.and_eq_false_iff.mpr (.inr (by decide))

end Timing

end KernelForge
