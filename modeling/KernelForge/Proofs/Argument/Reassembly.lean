import KernelForge.Proofs.Argument.Groups
import Mathlib.Algebra.Group.Nat.Defs
import Mathlib.Data.List.Nodup

/-!
# There and back

An argument list without texts and missing values is put in groups that tile it: every position
occurs once, each group in rising order. Sorting the values by position gives the list back. A list
with a text or a missing value is refused at the first of them. Main statement:
`marshal_reassemble`.
-/

namespace KernelForge

namespace Argument

/-- At position `p` of a list stands `a`, which is the first argument that no kernel takes. -/
structure FirstRefused (args : List Argument) (p : Nat) (a : Argument) : Prop where
  /-- The argument stands there. -/
  stands : args[p]? = some a
  /-- It is a text or a missing value. -/
  refused : a.isTaken = false
  /-- All before it are taken. -/
  earlier : ∀ q b, q < p → args[q]? = some b → b.isTaken

namespace FirstRefused

variable {args : List Argument} {p p' : Nat} {a a' : Argument}

theorem not_taken (h : FirstRefused args p a) : ¬ ∀ a ∈ args, a.isTaken := by
  intro htaken
  have hrefused := h.refused
  rw [htaken a (List.mem_of_getElem? h.stands)] at hrefused
  cases hrefused

theorem unique (h : FirstRefused args p a) (h' : FirstRefused args p' a') : p = p' ∧ a = a' := by
  have hp : p = p' := by
    rcases Nat.lt_trichotomy p p' with hlt | heq | hlt
    · exact absurd (h'.earlier p a hlt h.stands) (by simp [h.refused])
    · exact heq
    · exact absurd (h.earlier p' a' hlt h'.stands) (by simp [h'.refused])
  subst hp
  exact ⟨rfl, Option.some.inj (h.stands.symm.trans h'.stands)⟩

end FirstRefused

/-- Either all arguments are taken, or there is a first one that is not. -/
theorem firstRefused_cases (args : List Argument) :
    (∀ a ∈ args, a.isTaken) ∨ ∃ p a, FirstRefused args p a := by
  induction args with
  | nil => simp
  | cons a rest ih =>
    cases ha : a.isTaken with
    | false => exact Or.inr ⟨0, a, rfl, ha, by omega⟩
    | true =>
      rcases ih with hall | ⟨p, b, hstands, hrefused, hearlier⟩
      · left
        simpa [ha] using hall
      · right
        refine ⟨p + 1, b, hstands, hrefused, ?_⟩
        intro q c hq hc
        cases q with
        | zero =>
          rw [List.getElem?_cons_zero, Option.some.injEq] at hc
          rw [← hc, ha]
        | succ q => exact hearlier q c (by omega) hc

/-- The positions of picked arguments rise. -/
theorem pick_pairwise {β : Type} (kind? : Argument → Option β) (start : Nat)
    (args : List Argument) : (pick kind? start args).Pairwise fun x y ↦ x.1 < y.1 := by
  have hnumbers : (args.zipIdx start).Pairwise fun x y ↦ x.2 < y.2 := by
    rw [List.pairwise_iff_getElem]
    intro i j hi hj hij
    simpa using hij
  apply hnumbers.filterMap
  intro x y hxy u hu v hv
  obtain ⟨a, -, rfl⟩ := Option.map_eq_some_iff.mp hu
  obtain ⟨b, -, rfl⟩ := Option.map_eq_some_iff.mp hv
  exact hxy

/-- A picked argument is one of the list. -/
theorem lt_of_mem_pick {β : Type} {kind? : Argument → Option β} {args : List Argument}
    {x : Nat × β} (hx : x ∈ pick kind? 0 args) : x.1 < args.length := by
  obtain ⟨⟨a, i⟩, hmem, hi⟩ := List.mem_filterMap.mp hx
  obtain ⟨b, -, rfl⟩ := Option.map_eq_some_iff.mp hi
  exact (List.getElem?_eq_some_iff.mp (List.mem_zipIdx_iff_getElem?.mp hmem)).1

end Argument

namespace ArgumentGroups

/-- Every value of the groups has a position, the positions of each group rise, and together they
are those of an argument list with `n` elements, each of them once. -/
structure Tiles (g : ArgumentGroups) (n : Nat) : Prop where
  /-- Every tensor has a position. -/
  tensors : g.tensorPositions.length = g.tensors.length
  /-- Every floating-point scalar has a position. -/
  floats : g.floatPositions.length = g.floats.length
  /-- Every fixed-point scalar has a position. -/
  fixed : g.fixedPositions.length = g.fixed.length
  /-- The positions of the tensors rise. -/
  tensorsRise : g.tensorPositions.Pairwise (· < ·)
  /-- The positions of the floating-point scalars rise. -/
  floatsRise : g.floatPositions.Pairwise (· < ·)
  /-- The positions of the fixed-point scalars rise. -/
  fixedRise : g.fixedPositions.Pairwise (· < ·)
  /-- Every position of the list occurs once, and no other number does. -/
  cover : ((g.tensorPositions ++ g.floatPositions ++ g.fixedPositions).map Int64.toInt).Perm
    ((List.range n).map Int.ofNat)

variable {args : List Argument}

/-- Positions that rise as numbers rise as they travel, if they fit. -/
private theorem rise_positions {β : Type} (kind? : Argument → Option β)
    (hlength : args.length ≤ 2 ^ 63) :
    ((Argument.pick kind? 0 args).map position).Pairwise (· < ·) := by
  rw [List.pairwise_map]
  apply (Argument.pick_pairwise kind? 0 args).imp_of_mem
  intro x y hx hy hxy
  have hx' := Argument.lt_of_mem_pick hx
  have hy' := Argument.lt_of_mem_pick hy
  exact (Int64.ofNat_lt_iff_lt (by omega) (by omega)).mpr hxy

/-- The groups that are read off an argument list tile it. -/
theorem tiles_ofArguments (hargs : ∀ a ∈ args, a.isTaken) (hlength : args.length ≤ 2 ^ 63) :
    (ofArguments 0 args).Tiles args.length where
  tensors := by simp [ofArguments]
  floats := by simp [ofArguments]
  fixed := by simp [ofArguments]
  tensorsRise := rise_positions _ hlength
  floatsRise := rise_positions _ hlength
  fixedRise := rise_positions _ hlength
  cover := by
    have hperm := Argument.pick_perm (fun e ↦ (position e).toInt) (fun e ↦ (position e).toInt)
      (fun e ↦ (position e).toInt) (fun e ↦ (Int64.ofNat e.2).toInt) (fun _ _ ↦ rfl)
      (fun _ _ ↦ rfl) (fun _ _ ↦ rfl) hargs 0
    have hrange : (args.zipIdx.map fun e ↦ (Int64.ofNat e.2).toInt) =
        (List.range args.length).map Int.ofNat := by
      apply List.ext_getElem
      · simp
      · intro i hi _
        have hi' : i < args.length := by simpa using hi
        simp only [List.getElem_map, List.getElem_zipIdx, List.getElem_range, Nat.zero_add]
        exact Int64.toInt_ofNat_of_lt (Nat.lt_of_lt_of_le hi' hlength)
    rw [hrange] at hperm
    simpa [ofArguments, Function.comp_def] using hperm

/-- The groups that are read off an argument list have a value for each argument. -/
theorem size_ofArguments (hargs : ∀ a ∈ args, a.isTaken) :
    (ofArguments 0 args).size = args.length := by
  have hperm := Argument.pick_perm (fun _ ↦ ()) (fun _ ↦ ()) (fun _ ↦ ()) (fun _ ↦ ())
    (fun _ _ ↦ rfl) (fun _ _ ↦ rfl) (fun _ _ ↦ rfl) hargs 0
  simpa [size, ofArguments] using hperm.length_eq

/-- After sorting by position, positions rise. -/
theorem pairwise_mergeSort_placed {α : Type} (placed : List (Int64 × α)) :
    (placed.mergeSort fun x y ↦ x.1 ≤ y.1).Pairwise fun x y ↦ x.1 ≤ y.1 := by
  have htrans : ∀ x y z : Int64 × α, decide (x.1 ≤ y.1) → decide (y.1 ≤ z.1) →
      decide (x.1 ≤ z.1) := by
    intro x y z hxy hyz
    rw [decide_eq_true_eq] at hxy hyz ⊢
    exact Int64.le_trans hxy hyz
  have htotal : ∀ x y : Int64 × α, decide (x.1 ≤ y.1) || decide (y.1 ≤ x.1) := by
    intro x y
    simpa using Int64.le_total x.1 y.1
  exact (List.pairwise_mergeSort htrans htotal placed).imp fun h ↦ of_decide_eq_true h

/-- Sorting by position gives the only order in which the positions rise. -/
theorem mergeSort_placed {α : Type} {placed ordered : List (Int64 × α)}
    (hperm : placed.Perm ordered) (hordered : ordered.Pairwise fun x y ↦ x.1 < y.1) :
    (placed.mergeSort fun x y ↦ x.1 ≤ y.1) = ordered := by
  have hsorted : (placed.mergeSort fun x y ↦ x.1 ≤ y.1).Perm ordered :=
    (List.mergeSort_perm placed _).trans hperm
  have hunique : ∀ x ∈ ordered, ∀ y ∈ ordered, x.1 = y.1 → x = y := by
    have hne : (ordered.map Prod.fst).Nodup := by
      rw [List.Nodup, List.pairwise_map]
      apply hordered.imp
      intro x y hlt heq
      rw [heq] at hlt
      exact Int64.lt_irrefl hlt
    exact fun x hx y hy ↦ List.inj_on_of_nodup_map hne hx hy
  have hleOrdered : ordered.Pairwise fun x y ↦ x.1 ≤ y.1 :=
    hordered.imp fun h ↦ Int64.le_of_lt h
  apply List.Perm.eq_of_pairwise _ (pairwise_mergeSort_placed placed) hleOrdered hsorted
  intro x y hx hy hxy hyx
  exact hunique x (hsorted.mem_iff.mp hx) y hy (Int64.le_antisymm hxy hyx)

/-- The groups that are read off an argument list give it back. -/
theorem reassemble_ofArguments (hargs : ∀ a ∈ args, a.isTaken) (hlength : args.length ≤ 2 ^ 63) :
    (ofArguments 0 args).reassemble = args := by
  have hperm : (ofArguments 0 args).placed.Perm
      (args.zipIdx.map fun e ↦ (Int64.ofNat e.2, e.1)) := by
    have hpick := Argument.pick_perm (fun e ↦ (position e, .tensor e.2))
      (fun e ↦ (position e, .float e.2)) (fun e ↦ (position e, e.2.argument))
      (fun e ↦ (Int64.ofNat e.2, e.1)) (fun _ _ ↦ rfl) (fun _ _ ↦ rfl) (fun _ _ ↦ rfl) hargs 0
    simpa only [placed, ofArguments, List.map_map, List.zip_map', Function.comp_def] using hpick
  have hordered : (args.zipIdx.map fun e ↦ (Int64.ofNat e.2, e.1)).Pairwise
      fun x y ↦ x.1 < y.1 := by
    rw [List.pairwise_iff_getElem]
    intro i j hi hj hij
    have hj' : j < args.length := by simpa using hj
    have hlt := (Int64.ofNat_lt_iff_lt (a := i) (b := j) (by omega) (by omega)).mpr hij
    simpa using hlt
  rw [reassemble, mergeSort_placed hperm hordered, List.map_map]
  apply List.ext_getElem
  · simp
  · intro i hi hi'
    simp

/-- The first argument that is not taken is refused, at its position and with its kind. -/
theorem addAll_eq_error {p : Nat} {a : Argument} (h : Argument.FirstRefused args p a)
    (g : ArgumentGroups) (start : Nat) :
    g.addAll start args = .error (.unsupportedArgument (start + p) a.kind) := by
  obtain ⟨hstands, hrefused, hearlier⟩ := h
  induction args generalizing g start p with
  | nil => simp at hstands
  | cons b rest ih =>
    cases p with
    | zero =>
      rw [List.getElem?_cons_zero, Option.some.injEq] at hstands
      subst hstands
      cases b with
      | text s => rfl
      | absent => rfl
      | _ => simp [Argument.isTaken] at hrefused
    | succ p =>
      have hb : b.isTaken := hearlier 0 b (by omega) rfl
      have hrest : (g.append (ofArguments start [b])).addAll (start + 1) rest =
          .error (.unsupportedArgument (start + 1 + p) a.kind) :=
        ih _ _ hstands fun q c hq hc ↦ hearlier (q + 1) c (by omega) hc
      rw [addAll, add?_eq_some hb]
      simp only
      rw [hrest, Nat.add_assoc, Nat.add_comm 1 p]

end ArgumentGroups

/-- An argument list with a text or a missing value is refused at the first of them. -/
theorem marshal_eq_error {p : Nat} {a : Argument} (h : Argument.FirstRefused args p a) :
    marshal args = .error (.unsupportedArgument p a.kind) := by
  rw [marshal, ArgumentGroups.addAll_eq_error h, Nat.zero_add]

/-- An argument list is put in groups if there is no text and no missing value in it, and else it is
refused, at the first of them and with its kind. The groups hold as many values as there are
arguments; they tile the list and give it back, if its positions can be told apart as they travel.
(A list in memory has less than 2⁶³ elements.) -/
theorem marshal_reassemble (args : List Argument) :
    ((∃ g, marshal args = .ok g) ↔ ∀ a ∈ args, a.isTaken) ∧
      (∀ error, marshal args = .error error ↔ ∃ p a, Argument.FirstRefused args p a ∧
        error = .unsupportedArgument p a.kind) ∧
      ∀ g, marshal args = .ok g → g.size = args.length ∧
        (args.length ≤ 2 ^ 63 → g.Tiles args.length ∧ g.reassemble = args) := by
  refine ⟨⟨?_, fun hargs ↦ ⟨_, marshal_eq_ok hargs⟩⟩, ?_, ?_⟩
  · rintro ⟨g, hg⟩
    rcases Argument.firstRefused_cases args with hargs | ⟨p, a, h⟩
    · exact hargs
    · rw [marshal_eq_error h] at hg
      cases hg
  · intro error
    constructor
    · intro herror
      rcases Argument.firstRefused_cases args with hargs | ⟨p, a, h⟩
      · rw [marshal_eq_ok hargs] at herror
        cases herror
      · rw [marshal_eq_error h, Except.error.injEq] at herror
        exact ⟨p, a, h, herror.symm⟩
    · rintro ⟨p, a, h, rfl⟩
      exact marshal_eq_error h
  · intro g hg
    rcases Argument.firstRefused_cases args with hargs | ⟨p, a, h⟩
    · rw [marshal_eq_ok hargs, Except.ok.injEq] at hg
      subst hg
      exact ⟨ArgumentGroups.size_ofArguments hargs, fun hlength ↦
        ⟨ArgumentGroups.tiles_ofArguments hargs hlength,
          ArgumentGroups.reassemble_ofArguments hargs hlength⟩⟩
    · rw [marshal_eq_error h] at hg
      cases hg

/-- A NaN with a payload, a truth value, one tensor twice and the integer one. -/
def shuffledArguments : List Argument :=
  [.float ⟨0xFFF0000000000001⟩, .bool true, .tensor ⟨3, .float16, [2, 2]⟩, .int 1,
    .tensor ⟨3, .float16, [2, 2]⟩]

/-- The arguments come back from their groups; with no value and a text behind them, no value is
refused. -/
theorem marshal_reassemble_shuffled :
    shuffledArguments.length ≤ 2 ^ 63 ∧
      (∃ g, marshal shuffledArguments = .ok g ∧ g.Tiles 5 ∧ g.size = 5 ∧
        g.reassemble = shuffledArguments) ∧
      marshal (shuffledArguments ++ [.absent, .text "x"]) =
        .error (.unsupportedArgument 5 "none") := by
  have htaken : ∀ a ∈ shuffledArguments, a.isTaken := by decide
  have hshort : shuffledArguments.length ≤ 2 ^ 63 := by decide
  refine ⟨hshort, ?_, ?_⟩
  · obtain ⟨hok, -, hback⟩ := marshal_reassemble shuffledArguments
    obtain ⟨g, hg⟩ := hok.mpr htaken
    obtain ⟨hsize, hwhole⟩ := hback g hg
    obtain ⟨htiles, hsame⟩ := hwhole hshort
    exact ⟨g, hg, htiles, hsize, hsame⟩
  · obtain ⟨-, herror, -⟩ :=
      marshal_reassemble (shuffledArguments ++ [.absent, .text "x"])
    apply (herror _).mpr
    refine ⟨5, .absent, ⟨rfl, rfl, ?_⟩, rfl⟩
    intro q b hq hb
    rw [List.getElem?_append_left hq] at hb
    exact htaken b (List.mem_of_getElem? hb)

end KernelForge
