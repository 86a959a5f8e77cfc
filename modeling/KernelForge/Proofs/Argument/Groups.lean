import KernelForge.Argument.Basic

/-!
# The groups of an argument list

Each group is read off the numbered argument list: the arguments of its kind, with their numbers, in
call order. Main statement: an argument list that a kernel takes is put in exactly these groups
(`marshal_eq_ok`).
-/

namespace KernelForge

namespace Argument

/-- The floating-point scalar that an argument is. -/
def float? : Argument → Option Double
  | float x => some x
  | _ => none

/-- The fixed-point scalar that an argument is. -/
def fixed? : Argument → Option FixedScalar
  | bool b => some (.bool b)
  | int n => some (.int n)
  | _ => none

/-- Whether a kernel takes the argument: it is a tensor or a number. -/
def isTaken : Argument → Bool
  | text _ | absent => false
  | _ => true

/-- The arguments of one kind with their positions, the first of all arguments at `start`. -/
def pick {β : Type} (kind? : Argument → Option β) (start : Nat) (args : List Argument) :
    List (Nat × β) :=
  (args.zipIdx start).filterMap fun (a, i) ↦ (kind? a).map (i, ·)

/-- Tensors, floating-point and fixed-point scalars together are the whole argument list in another
order: `w` says what becomes of an argument and its position. -/
theorem pick_perm {γ : Type} (f : Nat × Tensor → γ) (g : Nat × Double → γ)
    (h : Nat × FixedScalar → γ) (w : Argument × Nat → γ) (hf : ∀ i t, f (i, t) = w (tensor t, i))
    (hg : ∀ i x, g (i, x) = w (float x, i)) (hh : ∀ i n, h (i, n) = w (n.argument, i))
    {args : List Argument} (hargs : ∀ a ∈ args, a.isTaken) (start : Nat) :
    ((pick tensor? start args).map f ++ (pick float? start args).map g ++
      (pick fixed? start args).map h).Perm ((args.zipIdx start).map w) := by
  induction args generalizing start with
  | nil => simp [pick]
  | cons a rest ih =>
    have hrest := ih (fun b hb ↦ hargs b (by simp [hb])) (start + 1)
    simp only [pick, List.append_assoc] at hrest ⊢
    cases a with
    | tensor t =>
      simp only [List.zipIdx_cons, List.filterMap_cons, tensor?, float?, fixed?, Option.map_some,
        Option.map_none, List.map_cons, List.cons_append, hf]
      exact hrest.cons _
    | float x =>
      simp only [List.zipIdx_cons, List.filterMap_cons, tensor?, float?, fixed?, Option.map_some,
        Option.map_none, List.map_cons, List.cons_append, hg]
      exact List.perm_middle.trans (hrest.cons _)
    | bool b =>
      simp only [List.zipIdx_cons, List.filterMap_cons, tensor?, float?, fixed?, Option.map_some,
        Option.map_none, List.map_cons, hh, FixedScalar.argument]
      rw [← List.append_assoc] at hrest ⊢
      exact List.perm_middle.trans (hrest.cons _)
    | int n =>
      simp only [List.zipIdx_cons, List.filterMap_cons, tensor?, float?, fixed?, Option.map_some,
        Option.map_none, List.map_cons, hh, FixedScalar.argument]
      rw [← List.append_assoc] at hrest ⊢
      exact List.perm_middle.trans (hrest.cons _)
    | text s => simpa [isTaken] using hargs (text s) (by simp)
    | absent => simpa [isTaken] using hargs absent (by simp)

end Argument

namespace ArgumentGroups

/-- The position of a picked argument as it travels. -/
def position {β : Type} (e : Nat × β) : Int64 := Int64.ofNat e.1

/-- The groups of an argument list whose first argument is at `start`. -/
def ofArguments (start : Nat) (args : List Argument) : ArgumentGroups where
  tensors := (Argument.pick Argument.tensor? start args).map Prod.snd
  tensorPositions := (Argument.pick Argument.tensor? start args).map position
  floats := (Argument.pick Argument.float? start args).map Prod.snd
  floatPositions := (Argument.pick Argument.float? start args).map position
  fixed := (Argument.pick Argument.fixed? start args).map Prod.snd
  fixedPositions := (Argument.pick Argument.fixed? start args).map position

/-- The groups with further ones behind them. -/
def append (g g' : ArgumentGroups) : ArgumentGroups where
  tensors := g.tensors ++ g'.tensors
  tensorPositions := g.tensorPositions ++ g'.tensorPositions
  floats := g.floats ++ g'.floats
  floatPositions := g.floatPositions ++ g'.floatPositions
  fixed := g.fixed ++ g'.fixed
  fixedPositions := g.fixedPositions ++ g'.fixedPositions

/-- An argument that is taken is put behind the groups so far. -/
theorem add?_eq_some {a : Argument} (ha : a.isTaken) (g : ArgumentGroups) (start : Nat) :
    g.add? (Int64.ofNat start) a = some (g.append (ofArguments start [a])) := by
  cases a with
  | tensor _ | bool _ | int _ | float _ =>
    simp [add?, append, ofArguments, Argument.pick, Argument.tensor?, Argument.float?,
      Argument.fixed?, position]
  | text s => simp [Argument.isTaken] at ha
  | absent => simp [Argument.isTaken] at ha

/-- The groups of a list are those of its first argument and then those of the rest. -/
theorem append_ofArguments (g : ArgumentGroups) (a : Argument) (rest : List Argument)
    (start : Nat) :
    (g.append (ofArguments start [a])).append (ofArguments (start + 1) rest) =
      g.append (ofArguments start (a :: rest)) := by
  simp only [append, ofArguments, Argument.pick, List.zipIdx_cons, List.zipIdx_nil,
    List.filterMap_cons, List.filterMap_nil]
  cases a <;> simp [Argument.tensor?, Argument.float?, Argument.fixed?]

/-- Arguments that are all taken are put behind the groups so far. -/
theorem addAll_eq_ok {args : List Argument} (hargs : ∀ a ∈ args, a.isTaken) (g : ArgumentGroups)
    (start : Nat) : g.addAll start args = .ok (g.append (ofArguments start args)) := by
  induction args generalizing g start with
  | nil => simp [addAll, append, ofArguments, Argument.pick]
  | cons a rest ih =>
    have ha : a.isTaken := hargs a (by simp)
    have hrest : ∀ b ∈ rest, b.isTaken := fun b hb ↦ hargs b (by simp [hb])
    rw [addAll, add?_eq_some ha]
    simp only
    rw [ih hrest, append_ofArguments]

end ArgumentGroups

/-- Arguments that are all taken are put in the groups that are read off their list. -/
theorem marshal_eq_ok {args : List Argument} (hargs : ∀ a ∈ args, a.isTaken) :
    marshal args = .ok (ArgumentGroups.ofArguments 0 args) := by
  rw [marshal, ArgumentGroups.addAll_eq_ok hargs]
  simp [ArgumentGroups.append]

end KernelForge
