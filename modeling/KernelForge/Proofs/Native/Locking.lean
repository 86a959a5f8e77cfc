import KernelForge.Proofs.Native.Loading

/-!
# Calls with aliased tensors

A call locks every storage of its tensors once, however the tensors share them, and it keeps all of
them locked until its kernel has ended. Main statement: `tensors_guarded`.
-/

namespace KernelForge

namespace NativeCall

variable {c : NativeCall} {h : Heap} {l : Locks} {held : List Nat}

/-- The words of an argument block at the positions of the tensors are their addresses. -/
theorem argumentBlock_tensor {addresses block : List UInt64}
    (hblock : c.argumentBlock addresses = .ok block) {i : Nat} {p : Int64} {address : UInt64}
    (hp : c.tensorPositions[i]? = some p) (haddress : addresses[i]? = some address) :
    block[p.toInt.toNat]? = some address := by
  have hplaced : (p, address) ∈ c.tensorPositions.zip addresses :=
    List.mem_of_getElem? (List.getElem?_zip_eq_some.mpr ⟨hp, haddress⟩)
  refine (argumentBlock_eq_ok_iff.mp hblock).2.2 (p, address) ?_
  rw [placedWords]
  exact List.mem_append_left _ (List.mem_append_left _ hplaced)

/-- While the kernel of a call runs, the storages of its tensors are locked, and their addresses
stand in the argument block. -/
theorem lockSteps_guarded (hserves : l.Serves h c.tensors)
    (hfree : ∀ t ∈ c.tensors, t.storage ∉ held) {before after : List LockStep} {block : List UInt64}
    (hsplit : c.lockSteps l = before ++ .enter block :: after) :
    ∃ held' rest, LockStep.replay held before = some held' ∧ after = .leave :: rest ∧
      (∀ t ∈ c.tensors, t.storage ∈ held') ∧
      ∀ (i : Nat) (t : Tensor) (p : Int64), c.tensors[i]? = some t →
        c.tensorPositions[i]? = some p → block[p.toInt.toNat]? = some (h.address t.storage) := by
  obtain ⟨hblock, rfl, rfl⟩ := lockSteps_enter hsplit
  refine ⟨_, _, LockStep.replay_lock hserves.nodup (hserves.free hfree), rfl, fun t ht ↦ ?_,
    fun i t p ht hp ↦ ?_⟩
  · exact List.mem_append_left _ (List.mem_reverse.mpr (hserves.mem_guards.mpr ⟨t, ht, rfl⟩))
  · refine argumentBlock_tensor hblock hp ?_
    rw [hserves.addresses, List.getElem?_map, ht, Option.map_some]

end NativeCall

namespace World

/-- However tensors share storages, locking them locks every storage once, in the order in which the
storages first come, and answers for every tensor the address of its storage.

A call locks nothing and fails, or it locks the storages of its tensors in this way; one that does
not fail has run its kernel. Let none of its storages be locked elsewhere. Then every step of the
call can be done, so that it never asks for a lock that it holds, and all it has locked is unlocked
in the end. While the kernel runs, the storages of all tensors are locked, and their addresses stand
in the argument block at the positions of the tensors. -/
theorem tensors_guarded :
    (∀ (h : Heap) (tensors : List Tensor),
      let locks := Locks.ofTensors h tensors
      locks.guards = (tensors.map Tensor.storage).eraseDups ∧ locks.guards.Nodup ∧
        (locks.addresses = tensors.map fun t ↦ h.address t.storage) ∧
        ∀ (i j : Nat) (t t' : Tensor), tensors[i]? = some t → tensors[j]? = some t' →
          t.storage = t'.storage → locks.addresses[i]? = locks.addresses[j]?) ∧
    ∀ (loader : Nat) (c : NativeCall) (w : World),
      let run := (traceCall loader c).runFrom (w, [])
      let steps := run.2.2
      ((loadingEntry loader).execute c).runFrom w = (run.1, run.2.1) ∧
      (steps = [] ∧ run.1 ≠ .ok () ∨
        steps.filterMap LockStep.locked? = (c.tensors.map Tensor.storage).eraseDups) ∧
      (run.1 = .ok () → ∃ block, .enter block ∈ steps) ∧
      ∀ held : List Nat, (∀ t ∈ c.tensors, t.storage ∉ held) →
        LockStep.replay held steps = some held ∧
        ∀ before block after, steps = before ++ .enter block :: after →
          ∃ held' rest, LockStep.replay held before = some held' ∧ after = .leave :: rest ∧
            (∀ t ∈ c.tensors, t.storage ∈ held') ∧
            ∀ (i : Nat) (t : Tensor) (p : Int64), c.tensors[i]? = some t →
              c.tensorPositions[i]? = some p →
                block[p.toInt.toNat]? = some (w.heap.address t.storage) := by
  constructor
  · intro h tensors locks
    have hserves := Locks.serves_ofTensors h tensors
    refine ⟨hserves.guards, hserves.nodup, hserves.addresses, fun i j t t' hi hj hstorage ↦ ?_⟩
    rw [hserves.addresses, List.getElem?_map, List.getElem?_map, hi, hj, Option.map_some,
      Option.map_some, hstorage]
  intro loader c w run steps
  have hserves := Locks.serves_ofTensors w.heap c.tensors
  refine ⟨rfl, ?_⟩
  rcases (traceCall_calling loader c w).2 with ⟨hsteps, hfails⟩ | ⟨hsteps, hruns⟩
  · refine ⟨Or.inl ⟨hsteps, hfails⟩, fun hok ↦ absurd hok hfails, fun held _ ↦ ?_⟩
    rw [show steps = [] from hsteps]
    exact ⟨rfl, fun before block after hsplit ↦ by simp at hsplit⟩
  · change steps = _ at hsteps
    rw [hsteps]
    refine ⟨Or.inr ?_, fun hok ↦ ?_, fun held hfree ↦ ⟨?_, fun before block after hsplit ↦ ?_⟩⟩
    · rw [NativeCall.filterMap_lockSteps, hserves.guards]
    · obtain ⟨block, hblock⟩ := hruns hok
      exact ⟨block, by simp [NativeCall.lockSteps, hblock]⟩
    · exact NativeCall.replay_lockSteps hserves.nodup (hserves.free hfree)
    · exact NativeCall.lockSteps_guarded hserves hfree hsplit

/-! ### Three tensors with two storages -/

/-- A world with two storages, and a loader that has loaded a library. -/
def lent : World where
  host := (shelf 1 "a").host
  heap := ⟨[[1], [2]]⟩
  images := [⟨[.ofString "/k.so"], 1, .plain, 0⟩]
  loaders := [[(.ofString "/k.so", 0)]]

/-- A call whose first and last tensor share a storage. -/
def aliased : NativeCall where
  library := .ofString "/k.so"
  symbol := "nop_kernel"
  tensors := [⟨1, .int8, [1]⟩, ⟨0, .int8, [1]⟩, ⟨1, .int8, [1]⟩]
  tensorPositions := [0, 2, 1]

private theorem steps_aliased : ((traceCall 0 aliased).runFrom (lent, [])).2.2 =
    [.lock 1, .lock 0] ++ .enter [0x20000000000, 0x20000000000, 0x10000000000] ::
      [.leave, .unlock 1, .unlock 0] := by
  decide +kernel

/-- With another storage locked elsewhere, the two storages are locked, the first and the second
word of the block are one address, and the third storage alone is locked in the end. -/
theorem tensors_guarded_aliased :
    LockStep.replay [2] ((traceCall 0 aliased).runFrom (lent, [])).2.2 = some [2] ∧
      ∃ held, LockStep.replay [2] [.lock 1, .lock 0] = some held ∧
        (∀ t ∈ aliased.tensors, t.storage ∈ held) ∧ lent.heap.address 1 = 0x20000000000 ∧
        (Locks.ofTensors lent.heap aliased.tensors).addresses[0]? =
          (Locks.ofTensors lent.heap aliased.tensors).addresses[2]? := by
  obtain ⟨hlocks, hcalls⟩ := tensors_guarded
  obtain ⟨-, -, -, hguarded⟩ := hcalls 0 aliased lent
  obtain ⟨hreplay, henter⟩ := hguarded [2] (by decide)
  obtain ⟨held, -, hheld, -, hall, hwords⟩ := henter _ _ _ steps_aliased
  have hword := hwords 0 ⟨1, .int8, [1]⟩ 0 rfl rfl
  exact ⟨hreplay, held, hheld, hall, (Option.some.inj hword).symm,
    (hlocks lent.heap aliased.tensors).2.2.2 0 2 _ _ rfl rfl rfl⟩

end World

end KernelForge
