import KernelForge.Proofs.Native.Scatter
import Mathlib.Data.List.Induction
import Mathlib.Data.List.Nodup

/-!
# Locks for aliased tensors

The tensors of a call may share storages in any way. For each storage there is one lock, and every
tensor has the address of its storage (`serves_ofTensors`). What a call does with locks is played
through on the storages that are locked; to lock one of these again would block
(`replay_lockSteps`).
-/

namespace KernelForge

namespace Locks

variable {h : Heap} {l : Locks} {seen : List Tensor}

/-- An element that is added last stays if it is new. -/
private theorem eraseDups_concat (xs : List Nat) (x : Nat) :
    (xs ++ [x]).eraseDups = if x ∈ xs then xs.eraseDups else xs.eraseDups ++ [x] := by
  rw [List.eraseDups_append, List.removeAll, List.filter_singleton]
  by_cases hx : x ∈ xs <;> simp [hx, List.eraseDups_cons]

private theorem nodup_eraseDups (xs : List Nat) : xs.eraseDups.Nodup := by
  induction xs using List.reverseRecOn with
  | nil => simp
  | append_singleton xs x ih =>
    rw [eraseDups_concat]
    split
    · exact ih
    · next hx =>
      rw [← List.concat_eq_append]
      exact ih.concat (mt List.mem_eraseDups.mp hx)

/-- What is locked for the tensors `seen`. -/
structure Serves (h : Heap) (seen : List Tensor) (l : Locks) : Prop where
  /-- Their storages are locked, each once, in the order in which they first come. -/
  guards : l.guards = (seen.map Tensor.storage).eraseDups
  /-- Every tensor has the address of its storage. -/
  addresses : l.addresses = seen.map fun t ↦ h.address t.storage

theorem Serves.add (hl : Serves h seen l) (t : Tensor) : Serves h (seen ++ [t]) (l.add h t) := by
  obtain ⟨hguards, haddresses⟩ := hl
  have hmem : t.storage ∈ l.guards ↔ t.storage ∈ seen.map Tensor.storage := by
    rw [hguards, List.mem_eraseDups]
  unfold Locks.add
  cases hindex : l.guards.findIdx? (covers · t) with
  | some index =>
    obtain ⟨hlt, hcovers, -⟩ := List.findIdx?_eq_some_iff_getElem.mp hindex
    have hstorage : l.guards[index] = t.storage := beq_iff_eq.mp hcovers
    refine ⟨?_, by simp [hlt, hstorage, haddresses]⟩
    rw [List.map_append, List.map_singleton, eraseDups_concat,
      if_pos (hmem.mp (hstorage ▸ List.getElem_mem hlt)), hguards]
  | none =>
    refine ⟨?_, by simp [haddresses]⟩
    have hseen : t.storage ∉ seen.map Tensor.storage := by
      intro hseen
      have hcovers := List.findIdx?_eq_none_iff.mp hindex _ (hmem.mpr hseen)
      simp [covers] at hcovers
    rw [List.map_append, List.map_singleton, eraseDups_concat, if_neg hseen, hguards]

theorem Serves.nodup (hl : Serves h seen l) : l.guards.Nodup := by
  rw [hl.guards]
  exact nodup_eraseDups _

theorem Serves.mem_guards (hl : Serves h seen l) {s : Nat} :
    s ∈ l.guards ↔ ∃ t ∈ seen, t.storage = s := by
  rw [hl.guards, List.mem_eraseDups, List.mem_map]

/-- If no storage of a tensor is locked elsewhere, none of the locks is. -/
theorem Serves.free (hl : Serves h seen l) {held : List Nat}
    (hfree : ∀ t ∈ seen, t.storage ∉ held) : ∀ s ∈ l.guards, s ∉ held := by
  intro s hs
  obtain ⟨t, ht, rfl⟩ := hl.mem_guards.mp hs
  exact hfree t ht

/-- All tensors are served by the locks for them. -/
theorem serves_ofTensors (h : Heap) (tensors : List Tensor) :
    Serves h tensors (ofTensors h tensors) := by
  have hfold : ∀ seen l, Serves h seen l →
      Serves h (seen ++ tensors) (tensors.foldl (add h) l) := by
    induction tensors with
    | nil =>
      intro seen l hl
      rwa [List.append_nil]
    | cons t rest ih =>
      intro seen l hl
      rw [List.foldl_cons, List.append_cons]
      exact ih _ _ (hl.add t)
  exact hfold [] {} ⟨rfl, rfl⟩

end Locks

namespace LockStep

/-- The storages that are locked after a step, if these are locked before. A storage that is locked
cannot be locked again, and one that is not locked cannot be unlocked. -/
def after? (held : List Nat) : LockStep → Option (List Nat)
  | lock storage => if storage ∈ held then none else some (storage :: held)
  | enter _ | leave => some held
  | unlock storage => if storage ∈ held then some (held.erase storage) else none

/-- The storages that are locked after some steps, if no step is impossible. -/
def replay (held : List Nat) (steps : List LockStep) : Option (List Nat) :=
  steps.foldlM after? held

/-- The storage that a step locks. -/
def locked? : LockStep → Option Nat
  | lock storage => some storage
  | _ => none

variable {held : List Nat}

theorem replay_append (held : List Nat) (steps more : List LockStep) :
    replay held (steps ++ more) = (replay held steps).bind (replay · more) :=
  List.foldlM_append

/-- Different storages that are not locked are locked one after the other. -/
theorem replay_lock {guards : List Nat} (hnodup : guards.Nodup) (hfree : ∀ s ∈ guards, s ∉ held) :
    replay held (guards.map lock) = some (guards.reverse ++ held) := by
  induction guards generalizing held with
  | nil => rfl
  | cons s rest ih =>
    rw [List.nodup_cons] at hnodup
    have hs : after? held (lock s) = some (s :: held) := if_neg (hfree s List.mem_cons_self)
    have hrest : ∀ s' ∈ rest, s' ∉ s :: held := by
      intro s' hs' hmem
      rcases List.mem_cons.mp hmem with rfl | hmem
      · exact hnodup.1 hs'
      · exact hfree s' (List.mem_cons_of_mem _ hs') hmem
    rw [replay, List.map_cons, List.foldlM_cons, hs]
    refine (ih hnodup.2 hrest).trans ?_
    simp

/-- Storages that were locked one after the other are unlocked in the same order. -/
theorem replay_unlock {guards : List Nat} (hnodup : guards.Nodup) :
    replay (guards.reverse ++ held) (guards.map unlock) = some held := by
  induction guards with
  | nil => rfl
  | cons s rest ih =>
    rw [List.nodup_cons] at hnodup
    have hs : after? ((s :: rest).reverse ++ held) (unlock s) = some (rest.reverse ++ held) := by
      rw [after?, if_pos (by simp), List.reverse_cons, List.append_assoc,
        List.erase_append_right _ (by simpa using hnodup.1), List.singleton_append,
        List.erase_cons_head]
    rw [replay, List.map_cons, List.foldlM_cons, hs]
    exact ih hnodup.2

end LockStep

namespace NativeCall

open LockStep

/-- What a call does with locks, once it has its kernel: it locks, it runs the kernel if there is an
argument block, and it unlocks. -/
def lockSteps (c : NativeCall) (l : Locks) : List LockStep :=
  l.guards.map lock ++
    (match c.argumentBlock l.addresses with
    | .ok block => [enter block, leave]
    | .error _ => []) ++
    l.guards.map unlock

variable {c : NativeCall} {l : Locks} {held : List Nat}

/-- No step of a call is impossible, if none of its storages is locked elsewhere. All are unlocked
in the end. -/
theorem replay_lockSteps (hnodup : l.guards.Nodup) (hfree : ∀ s ∈ l.guards, s ∉ held) :
    replay held (c.lockSteps l) = some held := by
  rw [lockSteps, replay_append, replay_append, replay_lock hnodup hfree, Option.bind_some]
  cases c.argumentBlock l.addresses with
  | ok block => exact replay_unlock hnodup
  | error error => exact replay_unlock hnodup

theorem filterMap_lockSteps (c : NativeCall) (l : Locks) :
    (c.lockSteps l).filterMap locked? = l.guards := by
  have hlock : (l.guards.map lock).filterMap locked? = l.guards := by
    simp [List.filterMap_map, Function.comp_def, locked?]
  have hunlock : (l.guards.map unlock).filterMap locked? = [] := by
    simp [List.filterMap_map, Function.comp_def, locked?]
  rw [lockSteps, List.filterMap_append, List.filterMap_append, hlock, hunlock]
  cases c.argumentBlock l.addresses <;> simp [locked?]

/-- Where the kernel of a call begins, the call has an argument block; what was done before is to
lock, and what comes after it has ended is to unlock. -/
theorem lockSteps_enter {before after : List LockStep} {block : List UInt64}
    (h : c.lockSteps l = before ++ enter block :: after) :
    c.argumentBlock l.addresses = .ok block ∧ before = l.guards.map lock ∧
      after = leave :: l.guards.map unlock := by
  have hlock : enter block ∉ l.guards.map lock := by simp
  have hunlock : enter block ∉ l.guards.map unlock := by simp
  rw [lockSteps] at h
  cases hblock : c.argumentBlock l.addresses with
  | error error =>
    have hmem : enter block ∈ before ++ enter block :: after := by simp
    rw [← h, hblock] at hmem
    simp at hmem
  | ok words =>
    simp only [hblock, List.append_assoc, List.cons_append, List.nil_append] at h
    obtain ⟨hbefore, henter, hafter⟩ :=
      (List.append_cons_inj_of_notMem hlock (by simp)).mp h
    cases henter
    exact ⟨rfl, hbefore.symm, hafter.symm⟩

end NativeCall

end KernelForge
