import KernelForge.Proofs.Kernel.Invoking
import Mathlib.Data.Int.ModEq

/-!
# Result indices

A kernel is made with indices of the parameters that are its results; a negative index counts from
the end. They are resolved in words of 64 bits. Main statements: for as many parameters as a list
can have, no sum overflows (`toInt_add_ofNat`), an index is resolved exactly where it names a
parameter (`resultIndex_eq`), and so a list of indices is resolved index by index or refused for the
first one that names none; what was resolved selects the outputs among as many tensors
(`result_indices_resolved`).
-/

namespace KernelForge

/-! ### One index -/

/-- Whether an index names one of `n` parameters, from the front or from the end. -/
def NamesOneOf (n : Nat) (index : Int64) : Prop := -(n : Int) ≤ index.toInt ∧ index.toInt < n

instance (n : Nat) (index : Int64) : Decidable (NamesOneOf n index) :=
  inferInstanceAs (Decidable (_ ∧ _))

/-- The number that an index stands for among `n` parameters. -/
def fromFront (n : Nat) (index : Int64) : Int :=
  if index < 0 then index.toInt + n else index.toInt

section Index

variable {n : Nat} {index : Int64}

/-- An index counts from the front up to a whole turn. -/
theorem fromFront_modEq (n : Nat) (index : Int64) : fromFront n index ≡ index.toInt [ZMOD n] := by
  rw [fromFront]
  split
  · exact Int.add_modEq_right
  · exact Int.ModEq.refl _

theorem namesOneOf_iff : NamesOneOf n index ↔ 0 ≤ fromFront n index ∧ fromFront n index < n := by
  simp only [NamesOneOf, fromFront, Int64.lt_iff_toInt_lt, Int64.toInt_zero]
  split <;> omega

/-- What is resolved is below the number of parameters, however many there are. -/
theorem lt_of_resultIndex {result : Nat} (h : resultIndex n index = .ok result) : result < n := by
  simp only [resultIndex] at h
  generalize (if index < 0 then index + Int64.ofNat n else index) = resolved at h
  have hparams : (Int64.ofNat n).toInt ≤ n := by
    have hsize : Int64.size = 2 ^ 64 := rfl
    rw [Int64.toInt_ofNat', Int.bmod_def, hsize]
    split <;> omega
  split at h
  · next hresolved =>
    simp only [Int64.le_iff_toInt_le, Int64.lt_iff_toInt_lt, Int64.toInt_zero] at hresolved
    cases h
    omega
  · cases h

variable (hn : n < 2 ^ 63)

include hn

/-- The sum for a negative index stays within 64 bits. -/
theorem toInt_add_ofNat (hneg : index < 0) :
    (index + Int64.ofNat n).toInt = index.toInt + n := by
  have hindex : index.toInt < 0 := Int64.lt_iff_toInt_lt.mp hneg
  have hlow := index.le_toInt
  have hparams : (Int64.ofNat n).toInt = n := Int64.toInt_ofNat_of_lt hn
  rw [Int64.toInt_add, hparams, Int.bmod_eq_of_le] <;> omega

/-- An index is resolved exactly where it names a parameter. -/
theorem resultIndex_eq (index : Int64) : resultIndex n index =
    if NamesOneOf n index then .ok (fromFront n index).toNat
    else .error (.resultIndex index n) := by
  have hresolved : (if index < 0 then index + Int64.ofNat n else index).toInt =
      fromFront n index := by
    rw [fromFront]
    split
    · next hneg => exact toInt_add_ofNat hn hneg
    · rfl
  have hparams : (Int64.ofNat n).toInt = n := Int64.toInt_ofNat_of_lt hn
  simp only [resultIndex]
  generalize (if index < 0 then index + Int64.ofNat n else index) = resolved at hresolved
  simp only [Int64.le_iff_toInt_le, Int64.lt_iff_toInt_lt, hparams, hresolved, Int64.toInt_zero,
    namesOneOf_iff]

end Index

/-! ### Lists of indices -/

section Indices

variable {n : Nat} {indices : List Int64}

theorem lt_of_mem_results {results : List Nat} (h : resultIndices n indices = .ok results) :
    ∀ result ∈ results, result < n := by
  intro result hresult
  obtain ⟨i, hi, rfl⟩ := List.mem_iff_getElem.mp hresult
  have hresolved := mapM_eq_ok_iff.mp h
  exact lt_of_resultIndex ((List.forall₂_iff_get.mp hresolved).2 i (hresolved.length_eq ▸ hi) hi)

variable (hn : n < 2 ^ 63)

include hn

/-- Resolved indices stand in the order of the list, each for the parameter that its index names. -/
theorem resultIndices_eq_ok_iff {results : List Nat} : resultIndices n indices = .ok results ↔
    List.Forall₂ (fun (index : Int64) (result : Nat) ↦
      NamesOneOf n index ∧ (result : Int) = fromFront n index) indices results := by
  have hone (index : Int64) (result : Nat) : resultIndex n index = .ok result ↔
      NamesOneOf n index ∧ (result : Int) = fromFront n index := by
    rw [resultIndex_eq hn]
    split
    · next hnames =>
      have hfront := (namesOneOf_iff.mp hnames).1
      simp only [Except.ok.injEq, hnames, true_and]
      omega
    · next hnames => simp [hnames]
  simp only [resultIndices, mapM_eq_ok_iff, hone]

/-- A list is resolved exactly if each of its indices names a parameter. -/
theorem exists_resultIndices_iff :
    (∃ results, resultIndices n indices = .ok results) ↔
      ∀ index ∈ indices, NamesOneOf n index := by
  simp only [resultIndices_eq_ok_iff hn]
  constructor
  · rintro ⟨results, h⟩ index hindex
    obtain ⟨i, hi, rfl⟩ := List.mem_iff_getElem.mp hindex
    exact ((List.forall₂_iff_get.mp h).2 i hi (h.length_eq ▸ hi)).1
  · intro h
    refine ⟨indices.map fun index ↦ (fromFront n index).toNat, ?_⟩
    rw [List.forall₂_map_right_iff, List.forall₂_same]
    intro index hindex
    have hfront := (namesOneOf_iff.mp (h index hindex)).1
    exact ⟨h index hindex, Int.toNat_of_nonneg hfront⟩

/-- A list is refused for its first index that names no parameter. -/
theorem resultIndices_eq_error_iff {error : KernelError} :
    resultIndices n indices = .error error ↔ ∃ earlier index later,
      indices = earlier ++ index :: later ∧ (∀ i ∈ earlier, NamesOneOf n i) ∧
        ¬ NamesOneOf n index ∧ error = .resultIndex index n := by
  have hok (index : Int64) : (∃ result, resultIndex n index = .ok result) ↔
      NamesOneOf n index := by
    rw [resultIndex_eq hn]
    split <;> simp_all
  have herror (index : Int64) : resultIndex n index = .error error ↔
      ¬ NamesOneOf n index ∧ error = .resultIndex index n := by
    rw [resultIndex_eq hn]
    split <;> simp_all [eq_comm]
  simp only [resultIndices, mapM_eq_error_iff, hok, herror]

end Indices

namespace Kernel

/-- A kernel is made with the results that its indices are resolved to. -/
theorem create_results (source : KernelSource) (adapter : Adapter) (toolchain : Toolchain)
    (store : Path) (requested : Option String) (indices : List Int64) (h : Host) :
    ((create source adapter toolchain store requested indices).runFrom h).1.map results =
      resultIndices source.params.length indices := by
  rw [create, Act.runFrom_bind, Act.runFrom_ofExcept]
  cases resultIndices source.params.length indices with
  | error error => rfl
  | ok results => rfl

/-- A kernel that was made has its source, and its indices were resolved. -/
theorem create_eq_ok {source : KernelSource} {adapter : Adapter} {toolchain : Toolchain}
    {store : Path} {requested : Option String} {indices : List Int64} {h : Host} {k : Kernel}
    (hk : ((create source adapter toolchain store requested indices).runFrom h).1 = .ok k) :
    k.source = source ∧ resultIndices source.params.length indices = .ok k.results := by
  have hresults := create_results source adapter toolchain store requested indices h
  rw [hk] at hresults
  refine ⟨?_, hresults.symm⟩
  rw [create, Act.runFrom_bind, Act.runFrom_ofExcept, ← hresults] at hk
  exact congrArg Kernel.source (Except.ok.inj hk).symm

/-- Where a tensor stands at every result index, the outputs are selected. -/
theorem outputs_selected {k : Kernel} {args : List Argument}
    (h : ∀ index ∈ k.results, ∃ t, args[index]? = some (.tensor t)) :
    ∃ outputs, k.outputs args = .ok outputs ∧ Selected args k.results outputs := by
  rcases k.outputs_cases args with hselected | ⟨index, -, hunfit⟩
  · exact hselected
  · obtain ⟨earlier, later, hsplit, -⟩ := hunfit.stands
    obtain ⟨t, ht⟩ := h index (by simp [hsplit])
    exact absurd ht (hunfit.unfit t)

/-- Among tensors alone, the outputs are those at the result indices. -/
theorem outputs_tensors {k : Kernel} {tensors : List Tensor}
    (h : ∀ index ∈ k.results, index < tensors.length) :
    ∃ outputs, k.outputs (tensors.map .tensor) = .ok outputs ∧
      List.Forall₂ (fun index t ↦ tensors[index]? = some t) k.results outputs := by
  have hstands : ∀ index ∈ k.results, ∃ t,
      (tensors.map Argument.tensor)[index]? = some (.tensor t) := fun index hindex ↦
    ⟨tensors.get ⟨index, h index hindex⟩, by simp [h index hindex]⟩
  obtain ⟨outputs, houtputs, hselected⟩ := outputs_selected hstands
  refine ⟨outputs, houtputs, hselected.imp fun index t ht ↦ ?_⟩
  simpa using ht

end Kernel

/-- Result indices for as many parameters as a list can have are resolved without overflow. A list
is resolved exactly if each index names a parameter, and then index by index and in order: a
negative one is counted from the end, any other stands for itself, so that the result is below the
number of parameters and differs from the index by whole turns. Any other list is refused for its
first index that names no parameter. A kernel is made with what its indices are resolved to, and
selects its outputs among as many tensors as it has parameters. -/
theorem result_indices_resolved {n : Nat} (hn : n < 2 ^ 63) :
    (∀ index : Int64, index < 0 → (index + Int64.ofNat n).toInt = index.toInt + n) ∧
    ∀ indices : List Int64,
      ((∃ results, resultIndices n indices = .ok results) ↔
        ∀ index ∈ indices, NamesOneOf n index) ∧
      (∀ results, resultIndices n indices = .ok results →
        List.Forall₂ (fun (index : Int64) (result : Nat) ↦ result < n ∧
          (result : Int) ≡ index.toInt [ZMOD n] ∧
          (result : Int) = if index < 0 then index.toInt + n else index.toInt) indices results) ∧
      (∀ error, resultIndices n indices = .error error ↔ ∃ earlier index later,
        indices = earlier ++ index :: later ∧ (∀ i ∈ earlier, NamesOneOf n i) ∧
          ¬ NamesOneOf n index ∧ error = .resultIndex index n) ∧
      ∀ source adapter toolchain store requested h, source.params.length = n →
        ((Kernel.create source adapter toolchain store requested indices).runFrom h).1.map
            Kernel.results = resultIndices n indices ∧
          ∀ k, ((Kernel.create source adapter toolchain store requested indices).runFrom h).1 =
              .ok k → ∀ args : List Argument, args.length = n → (∀ a ∈ args, ∃ t, a = .tensor t) →
            ∃ outputs, k.outputs args = .ok outputs ∧ Selected args k.results outputs := by
  refine ⟨fun index ↦ toInt_add_ofNat hn, fun indices ↦ ⟨exists_resultIndices_iff hn,
    fun results h ↦ ?_, fun error ↦ resultIndices_eq_error_iff hn,
    fun source adapter toolchain store requested h hparams ↦ ?_⟩⟩
  · refine ((resultIndices_eq_ok_iff hn).mp h).imp fun index result ⟨hnames, hfront⟩ ↦ ?_
    have hlt := (namesOneOf_iff.mp hnames).2
    exact ⟨by omega, hfront ▸ fromFront_modEq n index, hfront⟩
  · have hcreated := Kernel.create_results source adapter toolchain store requested indices h
    rw [hparams] at hcreated
    refine ⟨hcreated, fun k hk args hlength htensors ↦
      Kernel.outputs_selected fun index hindex ↦ ?_⟩
    rw [hk] at hcreated
    have hlt : index < args.length :=
      hlength ▸ lt_of_mem_results hcreated.symm index hindex
    obtain ⟨t, ht⟩ := htensors args[index] (List.getElem_mem hlt)
    exact ⟨t, by rw [List.getElem?_eq_getElem hlt, ht]⟩

/-- Of three parameters the last, the last but one and the first are results, and a fourth is
refused. -/
theorem result_indices_resolved_three : 3 < 2 ^ 63 ∧
    ((-1 : Int64) + Int64.ofNat 3).toInt = 2 ∧
    resultIndices 3 [-1, 1, -3] = .ok [2, 1, 0] ∧
    List.Forall₂ (fun (index : Int64) (result : Nat) ↦ result < 3 ∧
      (result : Int) ≡ index.toInt [ZMOD 3] ∧
        (result : Int) = if index < 0 then index.toInt + 3 else index.toInt)
      [-1, 1, -3] [2, 1, 0] ∧
    resultIndices 3 [-1, 3, -4] = .error (.resultIndex 3 3) := by
  have hn : 3 < 2 ^ 63 := by decide
  obtain ⟨hsum, hindices⟩ := result_indices_resolved hn
  obtain ⟨-, hresolved, -⟩ := hindices [-1, 1, -3]
  obtain ⟨-, -, hrefused, -⟩ := hindices [-1, 3, -4]
  have hok : resultIndices 3 [-1, 1, -3] = .ok [2, 1, 0] := rfl
  refine ⟨hn, hsum (-1) (by decide), hok, hresolved _ hok, (hrefused _).mpr ?_⟩
  exact ⟨[-1], 3, [-4], rfl, List.forall_mem_singleton.mpr (by decide), by decide, rfl⟩

end KernelForge
