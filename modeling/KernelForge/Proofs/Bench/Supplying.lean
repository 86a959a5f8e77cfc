import KernelForge.Bench.Supply
import KernelForge.Proofs.Kernel.Results
import KernelForge.Proofs.Tensor.Filling

/-!
# Supplied arguments fit the kernel

The parameters of a kernel are supplied one after the other, each with a tensor on a storage of its
own, until one cannot be. Main statements: what keeps a parameter from being supplied, and what its
tensor holds otherwise (`supplied_run`); the first parameter with a fault decides how supplying ends
(`mapM_supplied`), and where there is none the kernel takes the arguments and selects the zeroed
tensors as its outputs (`arguments_supplied`).
-/

namespace KernelForge

open Tensor

/-- The bits of the number one as an element of a type that stores numbers. -/
def DType.one : DType → Nat
  | .float16 => 0x3c00
  | .bfloat16 => 0x3f80
  | .float32 => 0x3f800000
  | .float64 => 0x3ff0000000000000
  | _ => 1

theorem DType.toNat_patternOf_one {t : DType} (ht : t ∉ [float8e4m3, float8e5m2]) :
    (t.patternOf (.ofInt 1 0)).toNat = t.one := by
  cases t <;> first | decide | exact absurd ht (by decide)

namespace Supply

/-! ### One parameter -/

/-- The tensor for a parameter and its index; `results` are the indices of the results. -/
def supplied (s : Supply) (draws : Nat → Draws) (results : List Nat) (p : Param × Nat) :
    Act Heap DeviceError Tensor :=
  if results.contains p.2 then zeros p.1.dtype p.1.shape
  else s.tensor (draws p.2) p.1.dtype p.1.shape

/-- What keeps a parameter from being supplied: its size is refused, or it is to hold numbers other
than the zeros of a result, and its type stores none. -/
def fault? (s : Supply) (results : List Nat) (p : Param × Nat) : Option DeviceError :=
  match byteLength p.1.dtype p.1.shape with
  | .error error => some error
  | .ok _ =>
    if p.2 ∉ results ∧ s ≠ zero ∧ p.1.dtype ∈ [.float8e4m3, .float8e5m2] ∧ 0 < volume p.1.shape then
      some (.unsupported p.1.dtype "host element fill")
    else none

/-- The fault of the first parameter that has one. -/
def firstFault? (s : Supply) (results : List Nat) (params : List Param) : Option DeviceError :=
  params.zipIdx.findSome? (s.fault? results)

/-- What a tensor for the parameter at `index` holds: zeros where that is a result, and what the
supply says elsewhere. -/
structure Holds (s : Supply) (results : List Nat) (index : Nat) (dtype : DType)
    (shape : List UInt64) (content : Bytes) : Prop where
  /-- Results are zeroed, and so is everything in a supply of zeros. -/
  zeroed : index ∈ results ∨ s = zero → content = List.replicate (volume shape * dtype.width) 0
  /-- In a supply of ones everything else is one. -/
  ones : index ∉ results → s = one → ∃ data : List (Pattern dtype),
    content = data.flatMap Pattern.toBytes ∧ data.length = volume shape ∧
      ∀ e ∈ data, e.toNat = dtype.one

/-- Every parameter has a memory block, if its size is accepted. -/
def Allocatable (p : Param) : Prop := ∀ n, byteLength p.dtype p.shape = .ok n → n < 2 ^ 63

instance (p : Param) : Decidable (Allocatable p) :=
  match hsize : byteLength p.dtype p.shape with
  | .error _ => isTrue fun n hn ↦ by cases hsize.symm.trans hn
  | .ok n => decidable_of_iff (n < 2 ^ 63)
    ⟨fun hsmall m hm ↦ Except.ok.inj (hsize.symm.trans hm) ▸ hsmall, fun hall ↦ hall n hsize⟩

section Supplied

variable {s : Supply} (draws : Nat → Draws) (results : List Nat)

/-- A supply of other things than zeros gives a number for every place. -/
theorem tensor_eq (hs : s ≠ zero) (draw : Draws) (dtype : DType) (shape : List UInt64) :
    ∃ g, s.tensor draw dtype shape = ofFn dtype shape g ∧ (s = one → g = fun _ ↦ .ofInt 1 0) := by
  cases s with
  | zero => exact absurd rfl hs
  | one => exact ⟨_, rfl, fun _ ↦ rfl⟩
  | integer =>
    rw [tensor]
    split <;> exact ⟨_, rfl, by simp⟩
  | auto | random =>
    rw [tensor]
    split <;> exact ⟨_, rfl, by simp⟩

/-- A parameter without a fault is supplied on a new storage; otherwise its fault is the failure. -/
theorem supplied_run {p : Param × Nat} (hsmall : Allocatable p.1) (h : Heap) :
    (∃ error, s.fault? results p = some error ∧
      (s.supplied draws results p).runFrom h = (.error error, h)) ∨
    s.fault? results p = none ∧ ∃ content, s.Holds results p.2 p.1.dtype p.1.shape content ∧
      (s.supplied draws results p).runFrom h =
        (.ok ⟨h.storages.length, p.1.dtype, p.1.shape⟩, (h.allocate content).2) := by
  by_cases hzero : p.2 ∈ results ∨ s = zero
  · -- zeros have no fault but their size
    have hact : s.supplied draws results p = zeros p.1.dtype p.1.shape := by
      rw [supplied]
      split
      · rfl
      · next hresult =>
        rw [hzero.resolve_left (by simpa using hresult)]
        rfl
    rw [hact]
    cases hsize : byteLength p.1.dtype p.1.shape with
    | error error => exact .inl ⟨error, by rw [fault?, hsize], zeros_refused hsize h⟩
    | ok n =>
      refine .inr ⟨?_, _, ⟨fun _ ↦ ?_, fun hresult hone ↦ ?_⟩, zeros_run hsize (hsmall n hsize) h⟩
      · simp only [fault?, hsize]
        exact if_neg fun hfault ↦ hzero.elim hfault.1 hfault.2.1
      · rw [eq_volume_of_byteLength hsize]
      · rw [hzero.resolve_left hresult] at hone
        cases hone
  · obtain ⟨hresult, hs⟩ := not_or.mp hzero
    obtain ⟨g, hg, hone⟩ := tensor_eq hs (draws p.2) p.1.dtype p.1.shape
    have hact : s.supplied draws results p = ofFn p.1.dtype p.1.shape g := by
      rw [supplied, if_neg (by simpa using hresult), hg]
    rw [hact]
    cases hsize : byteLength p.1.dtype p.1.shape with
    | error error => exact .inl ⟨error, by rw [fault?, hsize], ofFn_refused hsize g h⟩
    | ok n =>
      by_cases hstored : p.1.dtype ∉ [.float8e4m3, .float8e5m2] ∨ volume p.1.shape = 0
      · refine .inr ⟨?_, _, ⟨fun hzero' ↦ absurd hzero' hzero, fun _ hs' ↦ ⟨_, rfl, by simp, ?_⟩⟩,
          ofFn_run hsize (hsmall n hsize) hstored g h⟩
        · simp only [fault?, hsize]
          exact if_neg fun hfault ↦ hstored.elim (· hfault.2.2.1) hfault.2.2.2.ne'
        · rw [hone hs']
          intro e he
          obtain ⟨i, hi, rfl⟩ := List.mem_map.mp he
          have hvolume : volume p.1.shape ≠ 0 := by
            intro hnone
            simp [hnone] at hi
          exact DType.toNat_patternOf_one (hstored.resolve_right hvolume)
      · obtain ⟨hreduced, hvolume⟩ := not_or.mp hstored
        rw [not_not] at hreduced
        refine .inl ⟨_, ?_, ofFn_unsupported hsize (hsmall n hsize) hreduced hvolume g h⟩
        simp only [fault?, hsize]
        exact if_pos ⟨hresult, hs, hreduced, Nat.pos_of_ne_zero hvolume⟩

/-! ### All parameters -/

/-- Tensors for parameters, on storages that are numbered from `start` on. -/
def handles (start : Nat) (params : List Param) : List Tensor :=
  (params.zipIdx start).map fun (p, id) ↦ ⟨id, p.dtype, p.shape⟩

theorem handles_cons (start : Nat) (p : Param) (params : List Param) :
    handles start (p :: params) = ⟨start, p.dtype, p.shape⟩ :: handles (start + 1) params := rfl

@[simp] theorem length_handles (start : Nat) (params : List Param) :
    (handles start params).length = params.length := by
  rw [handles, List.length_map, List.length_zipIdx]

theorem map_storage_handles (start : Nat) (params : List Param) :
    (handles start params).map Tensor.storage = List.range' start params.length := by
  rw [handles, List.map_map, ← List.zipIdx_map_snd start params]
  rfl

theorem forall₂_handles (start : Nat) (params : List Param) :
    List.Forall₂ (fun p t ↦ t.dtype = p.dtype ∧ t.shape = p.shape) params
      (handles start params) := by
  induction params generalizing start with
  | nil => exact .nil
  | cons p params ih => exact .cons ⟨rfl, rfl⟩ (ih (start + 1))

theorem getElem?_handles (start : Nat) (params : List Param) (i : Nat) :
    (handles start params)[i]? =
      params[i]?.map fun p ↦ (⟨start + i, p.dtype, p.shape⟩ : Tensor) := by
  rw [handles, List.getElem?_map, List.getElem?_zipIdx, Option.map_map]
  rfl

/-- The first parameter with a fault ends the supply; without one, every parameter gets a tensor on
a new storage, in order. -/
theorem mapM_supplied {params : List (Param × Nat)} (hsmall : ∀ p ∈ params, Allocatable p.1)
    (h : Heap) :
    (∃ error h', params.findSome? (s.fault? results) = some error ∧
      (params.mapM (s.supplied draws results)).runFrom h = (.error error, h')) ∨
    params.findSome? (s.fault? results) = none ∧
      ∃ contents, List.Forall₂ (fun p ↦ s.Holds results p.2 p.1.dtype p.1.shape) params contents ∧
        (params.mapM (s.supplied draws results)).runFrom h =
          (.ok (handles h.storages.length (params.map Prod.fst)), ⟨h.storages ++ contents⟩) := by
  induction params generalizing h with
  | nil => exact .inr ⟨rfl, [], .nil, by rw [List.append_nil]; rfl⟩
  | cons p params ih =>
    rw [List.mapM_cons, List.findSome?_cons]
    rcases s.supplied_run draws results (hsmall p (by simp)) h with
      ⟨error, hfault, hrun⟩ | ⟨hfault, content, hcontent, hrun⟩
    · rw [hfault]
      exact .inl ⟨error, h, rfl, Act.runFrom_bind_error hrun _⟩
    · rw [hfault, Act.runFrom_bind_ok hrun]
      rcases ih (fun q hq ↦ hsmall q (by simp [hq])) (h.allocate content).2 with
        ⟨error, h', hfirst, hrest⟩ | ⟨hfirst, contents, hcontents, hrest⟩
      · exact .inl ⟨error, h', hfirst, Act.runFrom_bind_error hrest _⟩
      · refine .inr ⟨hfirst, content :: contents, .cons hcontent hcontents, ?_⟩
        -- the heap of the rest is longer by one storage, so its numbers begin one further
        rw [Act.runFrom_bind_ok hrest, Act.runFrom_pure, List.map_cons, handles_cons]
        simp [Heap.allocate]

end Supplied

/-! ### The arguments -/

/-- Supplying a kernel ends with the fault of its first parameter that has one; without one, it
gives a tensor for every parameter, on new storages that hold what they are to. -/
theorem arguments_run {k : Kernel} (hsmall : ∀ p ∈ k.source.params, Allocatable p) (s : Supply)
    (draws : Nat → Draws) (h : Heap) :
    (∃ fault h', s.firstFault? k.results k.source.params = some fault ∧
      (s.arguments draws k).runFrom h = (.error (.device fault), h')) ∨
    s.firstFault? k.results k.source.params = none ∧
      ∃ contents, List.Forall₂ (fun p ↦ s.Holds k.results p.2 p.1.dtype p.1.shape)
          k.source.params.zipIdx contents ∧
        (s.arguments draws k).runFrom h =
          (.ok ((handles h.storages.length k.source.params).map .tensor),
            ⟨h.storages ++ contents⟩) := by
  have hinputs : s.arguments draws k = Act.mapError .device (do
      let tensors ← k.source.params.zipIdx.mapM (s.supplied draws k.results)
      pure (tensors.map Argument.tensor)) := by
    rw [arguments, map_eq_pure_bind]
    rfl
  rw [hinputs, Act.runFrom_mapError]
  rcases mapM_supplied (s := s) draws k.results
      (fun p hp ↦ hsmall p.1 (List.fst_mem_of_mem_zipIdx hp)) h with
    ⟨error, h', hfirst, hrun⟩ | ⟨hfirst, contents, hholds, hrun⟩
  · exact .inl ⟨error, h', hfirst, by rw [Act.runFrom_bind_error hrun]; rfl⟩
  · rw [List.zipIdx_map_fst] at hrun
    exact .inr ⟨hfirst, contents, hholds, by rw [Act.runFrom_bind_ok hrun]; rfl⟩

/-- A supplied tensor lies on a new storage, which holds what is to be held for its parameter. -/
theorem holds_handles {s : Supply} {results : List Nat} {params : List Param} {h : Heap}
    {contents : List Bytes}
    (hholds : List.Forall₂ (fun p ↦ s.Holds results p.2 p.1.dtype p.1.shape) params.zipIdx contents)
    {i : Nat} {t : Tensor} (ht : (handles h.storages.length params)[i]? = some t) :
    h.bytes? t.storage = none ∧
      s.Holds results i t.dtype t.shape (t.bytes ⟨h.storages ++ contents⟩) := by
  rw [getElem?_handles, Option.map_eq_some_iff] at ht
  obtain ⟨p, hp, rfl⟩ := ht
  obtain ⟨hi, rfl⟩ := List.getElem?_eq_some_iff.mp hp
  have hcontents : i < contents.length := by
    rwa [← hholds.length_eq, List.length_zipIdx]
  have hcontent := (List.forall₂_iff_get.mp hholds).2 i (by rwa [List.length_zipIdx]) hcontents
  simp only [List.get_eq_getElem, List.getElem_zipIdx, Nat.zero_add] at hcontent
  refine ⟨List.getElem?_eq_none (Nat.le_add_right _ _), ?_⟩
  rwa [Tensor.bytes, Heap.bytes, Heap.bytes?, List.getElem?_append_right (Nat.le_add_right _ _),
    Nat.add_sub_cancel_left, List.getElem?_eq_getElem hcontents, Option.getD_some]

end Supply

/-- Tensors alone are the one group, at the positions that they stand at. -/
theorem marshal_tensors (tensors : List Tensor) : marshal (tensors.map .tensor) =
    .ok { tensors := tensors
          tensorPositions := (List.range tensors.length).map Int64.ofNat } := by
  have hnone {β : Type} {kind? : Argument → Option β} (hkind : ∀ t, kind? (.tensor t) = none)
      (start : Nat) : Argument.pick kind? start (tensors.map .tensor) = [] := by
    rw [Argument.pick, List.filterMap_eq_nil_iff]
    rintro ⟨a, i⟩ ha
    obtain ⟨t, -, rfl⟩ := List.mem_map.mp (List.fst_mem_of_mem_zipIdx ha)
    simp only [hkind, Option.map_none]
  have hpick : Argument.pick Argument.tensor? 0 (tensors.map .tensor) =
      tensors.zipIdx.map Prod.swap := by
    rw [Argument.pick, List.zipIdx_map, List.filterMap_map, ← List.filterMap_eq_map]
    rfl
  rw [marshal_eq_ok (by simp [Argument.isTaken]), ArgumentGroups.ofArguments, hpick,
    hnone fun _ ↦ rfl, hnone fun _ ↦ rfl, List.map_map, List.map_map]
  have hvalues : (tensors.zipIdx.map (Prod.snd ∘ Prod.swap)) = tensors := List.zipIdx_map_fst 0 _
  have hpositions : tensors.zipIdx.map (ArgumentGroups.position ∘ Prod.swap) =
      (List.range tensors.length).map Int64.ofNat := by
    rw [List.range_eq_range', ← List.zipIdx_map_snd 0 tensors, List.map_map]
    rfl
  rw [hvalues, hpositions]
  rfl

/-- Supplied arguments fit the kernel. For every list of parameters, every accepted list of result
indices and every supply, supplying fails exactly if a parameter has a fault, and then with that of
the first: its size is refused, or it is no result, has elements, the supply is not one of zeros and
its type stores no numbers. Otherwise there is a tensor for each parameter, of its type and shape
and on a new storage of its own, zeroed for a result and in a supply of zeros, and of nothing but
ones elsewhere in a supply of ones. The kernel takes these as tensors at the positions from the
first to the last, and its outputs are the zeroed ones, in the order of the result indices. This is
said of parameters that have a memory block if their size is accepted. -/
theorem arguments_supplied {source : KernelSource} {adapter : Adapter} {toolchain : Toolchain}
    {store : Path} {requested : Option String} {indices : List Int64} {host : Host} {k : Kernel}
    (hcreated : ((Kernel.create source adapter toolchain store requested indices).runFrom host).1 =
      .ok k) (hsmall : ∀ p ∈ source.params, Supply.Allocatable p) (s : Supply)
    (draws : Nat → Draws) (h : Heap) :
    (∀ error, ((s.arguments draws k).runFrom h).1 = .error error ↔
      ∃ fault, s.firstFault? k.results source.params = some fault ∧ error = .device fault) ∧
    (s.firstFault? k.results source.params = none → ∃ tensors h',
      (s.arguments draws k).runFrom h = (.ok (tensors.map .tensor), h') ∧
      List.Forall₂ (fun p t ↦ t.dtype = p.dtype ∧ t.shape = p.shape) source.params tensors ∧
      (tensors.map Tensor.storage).Nodup ∧ (∀ t ∈ tensors, h.bytes? t.storage = none) ∧
      (∀ (i : Nat) (t : Tensor), tensors[i]? = some t → i ∈ k.results ∨ s = .zero →
        t.bytes h' = List.replicate (volume t.shape * t.dtype.width) 0) ∧
      (∀ (i : Nat) (t : Tensor), tensors[i]? = some t → i ∉ k.results → s = .one →
        ∃ data, (t.patterns t.dtype).runFrom h' = (.ok data, h') ∧
          data.length = volume t.shape ∧ ∀ e ∈ data, e.toNat = t.dtype.one) ∧
      marshal (tensors.map .tensor) = .ok { tensors := tensors
                                            tensorPositions :=
                                              (List.range source.params.length).map Int64.ofNat } ∧
      ∃ outputs, k.outputs (tensors.map .tensor) = .ok outputs ∧
        List.Forall₂ (fun i t ↦ tensors[i]? = some t ∧
          t.bytes h' = List.replicate (volume t.shape * t.dtype.width) 0) k.results outputs) := by
  obtain ⟨rfl, hresults⟩ := Kernel.create_eq_ok hcreated
  rcases Supply.arguments_run hsmall s draws h with
    ⟨fault, h', hfirst, hrun⟩ | ⟨hfirst, contents, hholds, hrun⟩
  · rw [hrun, hfirst]
    exact ⟨fun error ↦ by simp [eq_comm], fun hnone ↦ by cases hnone⟩
  rw [hrun, hfirst]
  refine ⟨fun error ↦ by simp, fun _ ↦ ?_⟩
  have hlength := Supply.length_handles h.storages.length k.source.params
  have hforall := Supply.forall₂_handles h.storages.length k.source.params
  have hstorages := Supply.map_storage_handles h.storages.length k.source.params
  have hheld {i : Nat} {t : Tensor}
      (ht : (Supply.handles h.storages.length k.source.params)[i]? = some t) :=
    Supply.holds_handles hholds ht
  generalize Supply.handles h.storages.length k.source.params = tensors
    at hlength hforall hstorages hheld
  refine ⟨tensors, _, rfl, hforall, ?_, ?_, fun i t ht ↦ (hheld ht).2.zeroed, ?_, ?_, ?_⟩
  · rw [hstorages]
    exact List.nodup_range'
  · intro t ht
    obtain ⟨i, hi⟩ := List.getElem?_of_mem ht
    exact (hheld hi).1
  · intro i t ht hi hs
    obtain ⟨data, hdata, hcount, hone⟩ := (hheld ht).2.ones hi hs
    refine ⟨data, ?_, hcount, hone⟩
    rw [patterns, if_pos rfl, Act.runFrom_reads, hdata, Pattern.patterns_flatMap_toBytes]
  · rw [← hlength]
    exact marshal_tensors tensors
  · obtain ⟨outputs, houtputs, hselected⟩ := Kernel.outputs_tensors fun index hindex ↦
      hlength.symm ▸ lt_of_mem_results hresults index hindex
    refine ⟨outputs, houtputs, List.forall₂_iff_get.mpr ⟨hselected.length_eq, fun j hj hj' ↦ ?_⟩⟩
    have houtput := (List.forall₂_iff_get.mp hselected).2 j hj hj'
    exact ⟨houtput, (hheld houtput).2.zeroed (Or.inl (List.getElem_mem hj))⟩

/-- A source with two halves, three elements of a reduced type, and none of the other. -/
def mixedSource : KernelSource where
  text := ""
  params := [⟨"x", .float16, [2]⟩, ⟨"y", .float8e4m3, [3]⟩, ⟨"z", .float8e5m2, [0, 4]⟩]

/-- A kernel for the mixed source, with the parameter at `result` as its result. -/
def mixedKernel (result : Nat) : Kernel where
  source := mixedSource
  adapter := .rvv {}
  toolchain := ToolConfig.toolchain {}
  store := .ofString "/c"
  entry := "main"
  symbol := "main"
  results := [result]

/-- With the last but one of its parameters as its result the mixed kernel is supplied with ones,
and that one is its output, of zeros; with the first one as its result it cannot be supplied. -/
theorem arguments_supplied_mixed :
    ((Kernel.create mixedSource (.rvv {}) (ToolConfig.toolchain {}) (.ofString "/c") none
      [-2]).runFrom Host.initial).1 = .ok (mixedKernel 1) ∧
    (∀ p ∈ mixedSource.params, Supply.Allocatable p) ∧
    (∃ tensors h', (Supply.one.arguments (fun _ ↦ .sixteenths) (mixedKernel 1)).runFrom {} =
        (.ok (tensors.map .tensor), h') ∧
      marshal (tensors.map .tensor) =
        .ok { tensors := tensors, tensorPositions := [0, 1, 2] } ∧
      ∃ t, (mixedKernel 1).outputs (tensors.map .tensor) = .ok [t] ∧ tensors[1]? = some t) ∧
    ((Kernel.create mixedSource (.rvv {}) (ToolConfig.toolchain {}) (.ofString "/c") none
      [0]).runFrom Host.initial).1 = .ok (mixedKernel 0) ∧
    ((Supply.one.arguments (fun _ ↦ .sixteenths) (mixedKernel 0)).runFrom {}).1 =
      .error (.device (.unsupported .float8e4m3 "host element fill")) := by
  have hcreated : ((Kernel.create mixedSource (.rvv {}) (ToolConfig.toolchain {}) (.ofString "/c")
      none [-2]).runFrom Host.initial).1 = .ok (mixedKernel 1) := rfl
  have hcreated₀ : ((Kernel.create mixedSource (.rvv {}) (ToolConfig.toolchain {}) (.ofString "/c")
      none [0]).runFrom Host.initial).1 = .ok (mixedKernel 0) := rfl
  have hsmall : ∀ p ∈ mixedSource.params, Supply.Allocatable p := by decide
  obtain ⟨-, hsupplied⟩ :=
    arguments_supplied hcreated hsmall .one (fun _ ↦ .sixteenths) {}
  obtain ⟨herror, -⟩ :=
    arguments_supplied hcreated₀ hsmall .one (fun _ ↦ .sixteenths) {}
  obtain ⟨tensors, h', hrun, -, -, -, -, -, hmarshal, outputs, houtputs, hzeroed⟩ :=
    hsupplied (by decide)
  obtain ⟨t, rest, ⟨ht, -⟩, hnone, rfl⟩ := List.forall₂_cons_left_iff.mp hzeroed
  obtain rfl := List.forall₂_nil_left_iff.mp hnone
  exact ⟨hcreated, hsmall, ⟨tensors, h', hrun, hmarshal, t, houtputs, ht⟩, hcreated₀,
    (herror _).mpr ⟨_, by decide, rfl⟩⟩

end KernelForge
