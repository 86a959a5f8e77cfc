import KernelForge.Proofs.Native.Decoding
import Mathlib.Data.Nat.Basic
import Mathlib.Order.Basic

/-!
# The normal form of a group record

A group record whose positions are those of an argument list, in any order, is reassembled to that
list. Put in groups again, the list gives the record with each group in the order of its positions.
Main statement: `marshal_reassemble_sorted`.
-/

namespace KernelForge

namespace ArgumentGroups

/-- Every value of the groups has a position, and together the positions are those of an argument
list with `n` elements, each of them once and in any order. -/
structure Complete (g : ArgumentGroups) (n : Nat) : Prop where
  /-- Every tensor has a position. -/
  tensors : g.tensorPositions.length = g.tensors.length
  /-- Every floating-point scalar has a position. -/
  floats : g.floatPositions.length = g.floats.length
  /-- Every fixed-point scalar has a position. -/
  fixed : g.fixedPositions.length = g.fixed.length
  /-- Every position of the list occurs once, and no other number does. -/
  cover : ((g.tensorPositions ++ g.floatPositions ++ g.fixedPositions).map Int64.toInt).Perm
    ((List.range n).map Int.ofNat)

/-- The positions of each group rise. -/
structure Rises (g : ArgumentGroups) : Prop where
  /-- The positions of the tensors rise. -/
  tensors : g.tensorPositions.Pairwise (· < ·)
  /-- The positions of the floating-point scalars rise. -/
  floats : g.floatPositions.Pairwise (· < ·)
  /-- The positions of the fixed-point scalars rise. -/
  fixed : g.fixedPositions.Pairwise (· < ·)

/-- A record tiles a list if it is complete and its positions rise. -/
theorem tiles_iff {g : ArgumentGroups} {n : Nat} : g.Tiles n ↔ g.Complete n ∧ g.Rises :=
  ⟨fun h ↦ ⟨⟨h.tensors, h.floats, h.fixed, h.cover⟩, ⟨h.tensorsRise, h.floatsRise, h.fixedRise⟩⟩,
    fun ⟨h, hrises⟩ ↦ ⟨h.tensors, h.floats, h.fixed, hrises.tensors, hrises.floats, hrises.fixed,
      h.cover⟩⟩

/-- Values with their positions, in the order of the positions. -/
def inOrder {α : Type} (positions : List Int64) (values : List α) : List (Int64 × α) :=
  (positions.zip values).mergeSort fun x y ↦ x.1 ≤ y.1

/-- The groups, each in the order of its positions. -/
def sorted (g : ArgumentGroups) : ArgumentGroups where
  tensors := (inOrder g.tensorPositions g.tensors).map Prod.snd
  tensorPositions := (inOrder g.tensorPositions g.tensors).map Prod.fst
  floats := (inOrder g.floatPositions g.floats).map Prod.snd
  floatPositions := (inOrder g.floatPositions g.floats).map Prod.fst
  fixed := (inOrder g.fixedPositions g.fixed).map Prod.snd
  fixedPositions := (inOrder g.fixedPositions g.fixed).map Prod.fst

/-! ### One kind of arguments -/

/-- The values of one kind among arguments with their positions. -/
def ofKind {β : Type} (kind? : Argument → Option β) (placed : List (Int64 × Argument)) :
    List (Int64 × β) :=
  placed.filterMap fun (p, a) ↦ (kind? a).map (p, ·)

section OfKind

variable {α β : Type} (kind? : Argument → Option β)

theorem ofKind_zip (toArgument : β → Argument) (h : ∀ b, kind? (toArgument b) = some b)
    (positions : List Int64) (values : List β) :
    ofKind kind? (positions.zip (values.map toArgument)) = positions.zip values := by
  rw [ofKind, List.zip_map_right, List.filterMap_map]
  simp [h]

theorem ofKind_zip_of_none (toArgument : α → Argument) (h : ∀ a, kind? (toArgument a) = none)
    (positions : List Int64) (values : List α) :
    ofKind kind? (positions.zip (values.map toArgument)) = [] := by
  rw [ofKind, List.zip_map_right, List.filterMap_map]
  simp [h]

/-- The values of one kind in a list that is numbered from the front are those picked from it. -/
theorem map_pick {args : List Argument} {placed : List (Int64 × Argument)}
    (h : placed = args.zipIdx.map fun e ↦ (Int64.ofNat e.2, e.1)) :
    (Argument.pick kind? 0 args).map (fun e ↦ (position e, e.2)) = ofKind kind? placed := by
  rw [h, ofKind, List.filterMap_map, Argument.pick, List.map_filterMap]
  simp [Function.comp_def, position]

end OfKind

/-! ### The arguments of a complete record in order -/

variable {g : ArgumentGroups} {n : Nat}

namespace Complete

/-- With a position for every value, no value of a record is left out. -/
theorem map_fst_placed (h : g.Complete n) :
    g.placed.map Prod.fst = g.tensorPositions ++ g.floatPositions ++ g.fixedPositions := by
  rw [placed, List.map_append, List.map_append, List.map_fst_zip (by simp [h.tensors]),
    List.map_fst_zip (by simp [h.floats]), List.map_fst_zip (by simp [h.fixed])]

theorem cover_placed (h : g.Complete n) :
    (g.placed.map (·.1.toInt)).Perm ((List.range n).map Int.ofNat) := by
  have hcover := h.cover
  rwa [← h.map_fst_placed, List.map_map] at hcover

theorem size_eq (h : g.Complete n) : g.size = n := by
  have hlength := h.cover.length_eq
  simpa [h.tensors, h.floats, h.fixed, size, Nat.add_assoc] using hlength

/-- A position is a number below 2⁶³, so there are no more values than that. -/
theorem le (h : g.Complete n) : n ≤ 2 ^ 63 := by
  by_contra hn
  have hmem : Int.ofNat (2 ^ 63) ∈ (List.range n).map Int.ofNat :=
    List.mem_map_of_mem (List.mem_range.mpr (by omega))
  obtain ⟨p, -, hp⟩ := List.mem_map.mp (h.cover.mem_iff.mpr hmem)
  have hlt := p.toInt_lt
  rw [hp] at hlt
  exact absurd hlt (by decide)

/-- Sorted by position, the arguments of a complete record are numbered from the front. -/
theorem mergeSort_placed_eq (h : g.Complete n) :
    (g.placed.mergeSort fun x y ↦ x.1 ≤ y.1) =
      g.reassemble.zipIdx.map fun e ↦ (Int64.ofNat e.2, e.1) := by
  have hpositions := map_mergeSort_covers h.cover_placed
  rw [reassemble]
  generalize (g.placed.mergeSort fun x y ↦ x.1 ≤ y.1) = ordered at hpositions ⊢
  refine List.ext_getElem (by simp) fun i hi _ ↦ ?_
  have hlength : ordered.length = n := by simpa using congrArg List.length hpositions
  have hi' : i < n := hlength ▸ hi
  have hposition : ordered[i].1.toInt = i := by
    have hget := congrArg (·[i]?) hpositions
    simpa [hi, hi'] using hget
  have hofNat : (Int64.ofNat i).toInt = i :=
    Int64.toInt_ofNat_of_lt (Nat.lt_of_lt_of_le hi' h.le)
  have hfst : ordered[i].1 = Int64.ofNat i := Int64.toInt_inj.mp (hposition.trans hofNat.symm)
  simp [← hfst]

/-- The positions of the arguments in order rise. -/
theorem pairwise_mergeSort_placed_lt (h : g.Complete n) :
    (g.placed.mergeSort fun x y ↦ x.1 ≤ y.1).Pairwise fun x y ↦ x.1 < y.1 := by
  have hrise : ((List.range n).map Int.ofNat).Pairwise (· < ·) := by
    rw [List.pairwise_map]
    exact List.pairwise_lt_range.imp Int.ofNat_lt.mpr
  rw [← map_mergeSort_covers h.cover_placed, List.pairwise_map] at hrise
  exact hrise.imp Int64.lt_iff_toInt_lt.mpr

end Complete

/-- Values of one kind, in any order, are sorted by position as they stand among all arguments. -/
theorem inOrder_eq_ofKind {β : Type} {kind? : Argument → Option β} {positions : List Int64}
    {values : List β} {placed ordered : List (Int64 × Argument)} (hperm : placed.Perm ordered)
    (hordered : ordered.Pairwise fun x y ↦ x.1 < y.1)
    (hplaced : ofKind kind? placed = positions.zip values) :
    inOrder positions values = ofKind kind? ordered := by
  have hkind : (ofKind kind? ordered).Pairwise fun x y ↦ x.1 < y.1 := by
    refine hordered.filterMap _ fun x y hxy u hu v hv ↦ ?_
    obtain ⟨_, -, rfl⟩ := Option.map_eq_some_iff.mp hu
    obtain ⟨_, -, rfl⟩ := Option.map_eq_some_iff.mp hv
    exact hxy
  exact mergeSort_placed (hplaced ▸ hperm.filterMap _) hkind

/-- The values of each kind among all values of a record are those of a group. -/
theorem ofKind_placed (g : ArgumentGroups) :
    ofKind Argument.tensor? g.placed = g.tensorPositions.zip g.tensors ∧
      ofKind Argument.float? g.placed = g.floatPositions.zip g.floats ∧
      ofKind Argument.fixed? g.placed = g.fixedPositions.zip g.fixed := by
  have happend {β : Type} (kind? : Argument → Option β) : ofKind kind? g.placed =
      ofKind kind? (g.tensorPositions.zip (g.tensors.map .tensor)) ++
        ofKind kind? (g.floatPositions.zip (g.floats.map .float)) ++
        ofKind kind? (g.fixedPositions.zip (g.fixed.map FixedScalar.argument)) := by
    simp only [placed, ofKind, List.filterMap_append]
  refine ⟨?_, ?_, ?_⟩
  · rw [happend, ofKind_zip Argument.tensor? .tensor fun _ ↦ rfl,
      ofKind_zip_of_none Argument.tensor? .float fun _ ↦ rfl,
      ofKind_zip_of_none Argument.tensor? FixedScalar.argument (by rintro (_ | _) <;> rfl),
      List.append_nil, List.append_nil]
  · rw [happend, ofKind_zip_of_none Argument.float? .tensor fun _ ↦ rfl,
      ofKind_zip Argument.float? .float fun _ ↦ rfl,
      ofKind_zip_of_none Argument.float? FixedScalar.argument (by rintro (_ | _) <;> rfl),
      List.nil_append, List.append_nil]
  · rw [happend, ofKind_zip_of_none Argument.fixed? .tensor fun _ ↦ rfl,
      ofKind_zip_of_none Argument.fixed? .float fun _ ↦ rfl,
      ofKind_zip Argument.fixed? FixedScalar.argument (by rintro (_ | _) <;> rfl),
      List.nil_append, List.nil_append]

/-- A kernel takes every argument of a record. -/
theorem isTaken_of_mem_reassemble {a : Argument} (ha : a ∈ g.reassemble) : a.isTaken := by
  obtain ⟨x, hx, rfl⟩ := List.mem_map.mp ha
  rw [(List.mergeSort_perm _ _).mem_iff] at hx
  simp only [placed, List.mem_append, or_assoc] at hx
  rcases hx with hx | hx | hx
  · obtain ⟨t, -, ht⟩ := List.mem_map.mp (List.of_mem_zip hx).2
    rw [← ht, Argument.isTaken] <;> simp
  · obtain ⟨v, -, hv⟩ := List.mem_map.mp (List.of_mem_zip hx).2
    rw [← hv, Argument.isTaken] <;> simp
  · obtain ⟨n, -, hn⟩ := List.mem_map.mp (List.of_mem_zip hx).2
    cases n <;> rw [← hn, FixedScalar.argument, Argument.isTaken] <;> simp

namespace Complete

/-- The groups read off the arguments of a complete record are its own groups in order. -/
theorem ofArguments_reassemble (h : g.Complete n) : ofArguments 0 g.reassemble = g.sorted := by
  have hperm := (List.mergeSort_perm g.placed fun x y ↦ x.1 ≤ y.1).symm
  have hordered := h.pairwise_mergeSort_placed_lt
  have hnumbered := h.mergeSort_placed_eq
  obtain ⟨htensors, hfloats, hfixed⟩ := g.ofKind_placed
  simp only [sorted, inOrder_eq_ofKind hperm hordered htensors,
    inOrder_eq_ofKind hperm hordered hfloats, inOrder_eq_ofKind hperm hordered hfixed,
    ← map_pick _ hnumbered, List.map_map, ofArguments]
  rfl

theorem marshal_eq_sorted (h : g.Complete n) : marshal g.reassemble = .ok g.sorted := by
  rw [marshal_eq_ok fun _ ↦ isTaken_of_mem_reassemble, h.ofArguments_reassemble]

/-- The groups in order tile the list. -/
theorem tiles_sorted (h : g.Complete n) : g.sorted.Tiles n := by
  have hlength : g.reassemble.length = n := by
    simpa [reassemble] using h.cover_placed.length_eq
  have htiles := tiles_ofArguments (fun _ ↦ isTaken_of_mem_reassemble) (hlength ▸ h.le)
  rwa [h.ofArguments_reassemble, hlength] at htiles

end Complete

/-! ### Groups that are in order -/

theorem inOrder_perm {α : Type} (positions : List Int64) (values : List α) :
    (inOrder positions values).Perm (positions.zip values) :=
  List.mergeSort_perm _ _

/-- Values whose positions rise are in order. -/
theorem inOrder_eq_zip {α : Type} {positions : List Int64} {values : List α}
    (hlength : positions.length = values.length) (hrise : positions.Pairwise (· < ·)) :
    inOrder positions values = positions.zip values := by
  refine mergeSort_placed (List.Perm.refl _) ?_
  rwa [← List.map_fst_zip hlength.le, List.pairwise_map] at hrise

theorem Rises.sorted_eq (hrises : g.Rises) (h : g.Complete n) : g.sorted = g := by
  simp only [sorted, inOrder_eq_zip h.tensors hrises.tensors, inOrder_eq_zip h.floats hrises.floats,
    inOrder_eq_zip h.fixed hrises.fixed, List.map_fst_zip h.tensors.le,
    List.map_fst_zip h.floats.le, List.map_fst_zip h.fixed.le, List.map_snd_zip h.tensors.ge,
    List.map_snd_zip h.floats.ge, List.map_snd_zip h.fixed.ge]

/-- Two records hold the same values at the same positions, in any order. -/
structure SameValues (g g' : ArgumentGroups) : Prop where
  /-- They hold the same tensors. -/
  tensors : (g.tensorPositions.zip g.tensors).Perm (g'.tensorPositions.zip g'.tensors)
  /-- They hold the same floating-point scalars. -/
  floats : (g.floatPositions.zip g.floats).Perm (g'.floatPositions.zip g'.floats)
  /-- They hold the same fixed-point scalars. -/
  fixed : (g.fixedPositions.zip g.fixed).Perm (g'.fixedPositions.zip g'.fixed)

theorem sameValues_sorted (g : ArgumentGroups) : g.sorted.SameValues g := by
  have hpairs {α : Type} (pairs : List (Int64 × α)) :
      (pairs.map Prod.fst).zip (pairs.map Prod.snd) = pairs := by
    rw [List.zip_map', List.map_id']
  constructor <;> rw [sorted, hpairs] <;> exact inOrder_perm _ _

/-- What an argument list is put in is read off the list, and a kernel takes all of it. -/
theorem of_marshal_eq_ok {args : List Argument} (h : marshal args = .ok g) :
    (∀ a ∈ args, a.isTaken) ∧ g = ofArguments 0 args := by
  rcases Argument.firstRefused_cases args with hargs | ⟨p, a, hrefused⟩
  · rw [marshal_eq_ok hargs, Except.ok.injEq] at h
    exact ⟨hargs, h.symm⟩
  · rw [marshal_eq_error hrefused] at h
    cases h

/-- A complete record is what a list is put in just if it is in order and gives the list. -/
theorem Complete.marshal_eq_ok_iff (h : g.Complete n) {args : List Argument} :
    marshal args = .ok g ↔ g.Rises ∧ g.reassemble = args := by
  constructor
  · intro hmarshal
    obtain ⟨hargs, rfl⟩ := of_marshal_eq_ok hmarshal
    have hlength : args.length ≤ 2 ^ 63 := by
      rw [← size_ofArguments hargs, h.size_eq]
      exact h.le
    exact ⟨(tiles_iff.mp (tiles_ofArguments hargs hlength)).2, reassemble_ofArguments hargs hlength⟩
  · rintro ⟨hrises, rfl⟩
    rw [h.marshal_eq_sorted, hrises.sorted_eq h]

end ArgumentGroups

/-- Reassembling a group record and putting the list in groups again normalises it. For a record
whose positions are together those of a list, in any order inside each group:

* the outcome holds the same values at the same positions, each group in the order of its
  positions;
* it is the record itself exactly if the positions of every group rise already;
* an argument list is put in this record exactly if the record is in order and gives the list.

The list of the last point is any list that a kernel takes: it is put in a record of that kind, and
comes back from it. (A list in memory has less than 2⁶³ elements.) -/
theorem marshal_reassemble_sorted :
    (∀ (g : ArgumentGroups) (n : Nat), g.Complete n →
      marshal g.reassemble = .ok g.sorted ∧ g.sorted.SameValues g ∧ g.sorted.Tiles n ∧
      (marshal g.reassemble = .ok g ↔ g.Rises) ∧
      ∀ args, marshal args = .ok g ↔ g.Rises ∧ g.reassemble = args) ∧
    ∀ args : List Argument, (∀ a ∈ args, a.isTaken) → args.length ≤ 2 ^ 63 →
      ∃ g : ArgumentGroups, marshal args = .ok g ∧ g.Complete args.length ∧ g.Rises ∧
        g.reassemble = args := by
  constructor
  · intro g n h
    refine ⟨h.marshal_eq_sorted, g.sameValues_sorted, h.tiles_sorted, ?_,
      fun _ ↦ h.marshal_eq_ok_iff⟩
    rw [h.marshal_eq_ok_iff]
    simp
  · intro args hargs hlength
    obtain ⟨hcomplete, hrises⟩ :=
      ArgumentGroups.tiles_iff.mp (ArgumentGroups.tiles_ofArguments hargs hlength)
    exact ⟨_, marshal_eq_ok hargs, hcomplete, hrises,
      ArgumentGroups.reassemble_ofArguments hargs hlength⟩

/-- Two tensors and two fixed-point scalars, each pair with its positions falling, and a NaN with a
payload. -/
def fallingGroups : ArgumentGroups where
  tensors := [⟨3, .float16, [2, 2]⟩, ⟨5, .int8, [1]⟩]
  tensorPositions := [4, 2]
  floats := [⟨0x7FF0000000000001⟩]
  floatPositions := [1]
  fixed := [.int 1, .bool true]
  fixedPositions := [3, 0]

/-- The same values, each group in the order of its positions. -/
def risingGroups : ArgumentGroups where
  tensors := [⟨5, .int8, [1]⟩, ⟨3, .float16, [2, 2]⟩]
  tensorPositions := [2, 4]
  floats := [⟨0x7FF0000000000001⟩]
  floatPositions := [1]
  fixed := [.bool true, .int 1]
  fixedPositions := [0, 3]

/-- The groups whose positions fall come back in order, and those in order come back as they are. -/
theorem marshal_reassemble_sorted_falling :
    fallingGroups.Complete 5 ∧ marshal fallingGroups.reassemble = .ok risingGroups ∧
      risingGroups.Complete 5 ∧ marshal risingGroups.reassemble = .ok risingGroups := by
  have hfalling : fallingGroups.Complete 5 := ⟨rfl, rfl, rfl, by decide⟩
  have hrising : risingGroups.Complete 5 := ⟨rfl, rfl, rfl, by decide⟩
  have hrises : risingGroups.Rises := ⟨by decide, by decide, by decide⟩
  have hsorted : fallingGroups.sorted = risingGroups := by
    have htensors : ArgumentGroups.inOrder fallingGroups.tensorPositions fallingGroups.tensors =
        [(2, ⟨5, .int8, [1]⟩), (4, ⟨3, .float16, [2, 2]⟩)] :=
      ArgumentGroups.mergeSort_placed (by decide) (by decide)
    have hfixed : ArgumentGroups.inOrder fallingGroups.fixedPositions fallingGroups.fixed =
        [(0, .bool true), (3, .int 1)] :=
      ArgumentGroups.mergeSort_placed (by decide) (by decide)
    have hfloats : ArgumentGroups.inOrder fallingGroups.floatPositions fallingGroups.floats =
        [(1, ⟨0x7FF0000000000001⟩)] :=
      ArgumentGroups.mergeSort_placed (by decide) (by decide)
    rw [ArgumentGroups.sorted, htensors, hfixed, hfloats]
    rfl
  obtain ⟨hrecords, -⟩ := marshal_reassemble_sorted
  obtain ⟨hback, -⟩ := hrecords fallingGroups 5 hfalling
  obtain ⟨-, -, -, hself, -⟩ := hrecords risingGroups 5 hrising
  exact ⟨hfalling, hsorted ▸ hback, hrising, hself.mpr hrises⟩

end KernelForge
