import KernelForge.Native.Entry
import KernelForge.Proofs.Tensor.Sizes

/-!
# Handles on storages

Handles on tensors are given out when a tensor is made and when a handle is copied. Tensors are
written through their handles and by native calls. Main statement: after any such steps every handle
has the element type and the shape that were asked for and a storage of exactly its size, two
handles share their storage exactly if they go back to one making, and a write is seen through the
handles that share its storage and in no other storage (`run_handles`).
-/

namespace KernelForge

/-- From one heap to another no storage is lost or changes its size, and only given ones are
written. -/
def Heap.WritesOnly (given : List Nat) (h h' : Heap) : Prop :=
  ∀ id content, h.bytes? id = some content → ∃ content', h'.bytes? id = some content' ∧
    content'.length = content.length ∧ (id ∉ given → content' = content)

namespace Heap.WritesOnly

theorem refl (given : List Nat) (h : Heap) : WritesOnly given h h :=
  fun _ content hcontent ↦ ⟨content, hcontent, rfl, fun _ ↦ rfl⟩

/-- A new storage leaves the others alone. -/
theorem allocate (given : List Nat) (h : Heap) (content : Bytes) :
    WritesOnly given h (h.allocate content).2 := by
  intro id content' hcontent
  have hlt := (List.getElem?_eq_some_iff.mp hcontent).1
  have hne : id ≠ (h.allocate content).1 := Nat.ne_of_lt hlt
  exact ⟨content', by rw [bytes?_allocate, if_neg hne, hcontent], rfl, fun _ ↦ rfl⟩

/-- A given storage may get other bytes, as many as it had. -/
theorem put {given : List Nat} {h : Heap} {id : Nat} {content : Bytes} (hid : id ∈ given)
    (hlength : content.length = (h.bytes id).length) : WritesOnly given h (h.put id content) := by
  intro other before hbefore
  rw [bytes?_put]
  by_cases hother : other = id
  · subst hother
    rw [bytes, hbefore, Option.getD_some] at hlength
    exact ⟨content, by rw [if_pos rfl, hbefore, Option.map_some], hlength,
      fun hnot ↦ absurd hid hnot⟩
  · exact ⟨before, by rw [if_neg hother, hbefore], rfl, fun _ ↦ rfl⟩

/-- A write leaves all storages but its own alone. -/
theorem write (h : Heap) (id offset : Nat) (new : Bytes) :
    WritesOnly [id] h (h.write id offset new) := by
  rw [Heap.write]
  cases hpatch : patch? (h.bytes id) offset new with
  | none => exact refl _ h
  | some patched => exact put (by simp) (length_patch? hpatch)

/-- A storage that is not given has the same bytes. -/
theorem bytes_eq {given : List Nat} {h h' : Heap} (hwrites : WritesOnly given h h') {id : Nat}
    {content : Bytes} (hcontent : h.bytes? id = some content) (hid : id ∉ given) :
    h'.bytes id = h.bytes id := by
  obtain ⟨content', hcontent', -, hsame⟩ := hwrites id content hcontent
  rw [bytes, bytes, hcontent', hcontent, hsame hid]

end Heap.WritesOnly

namespace Recorder

theorem length_addSingles (a b c : Bytes) : (addSingles a b c).length = c.length := by
  have hkept : ∀ xs : List Single,
      (xs.flatMap fun x ↦ Bytes.littleEndian 4 x.bits.toNat).length = 4 * xs.length := by
    intro xs
    simp [List.length_flatMap, Nat.mul_comm]
  simp only [addSingles, List.length_append, hkept, List.length_drop, List.length_take]
  omega

/-- A recorder writes only the storages of the tensors of a call. -/
theorem work_writesOnly (style : RecorderStyle) (c : NativeCall) (h : Heap) :
    h.WritesOnly (c.tensors.map Tensor.storage) (work style c h) := by
  unfold work
  split
  · split
    · next t ht =>
      exact .put (List.mem_map_of_mem (List.mem_of_getLast? ht)) (by simp)
    · exact .refl _ h
  · next a b c' htensors =>
    split
    · refine .put ?_ (length_addSingles _ _ _)
      rw [htensors]
      simp
    · exact .refl _ h
  · exact .refl _ h

/-- A call to a recorder writes only the storages of its tensors, however it ends. -/
theorem execute_writesOnly (recorder : Nat) (c : NativeCall) (w : World) :
    w.heap.WritesOnly (c.tensors.map Tensor.storage)
      ((execute recorder c).runFrom w).2.heap := by
  rw [execute, Act.runFrom_bind, Act.runFrom_reads]
  cases w.recorders[recorder]? with
  | none => exact .refl _ _
  | some r =>
    have hwork : ∀ block, w.heap.WritesOnly (c.tensors.map Tensor.storage)
        ((do note recorder c block
             if r.style = .fail then throw (.entryMissing r.name)
             World.onHeap (Act.changes (work r.style c)) : Act World DeviceError Unit).runFrom
          w).2.heap := by
      intro block
      by_cases hfail : r.style = .fail
      · rw [if_pos hfail]
        exact .refl _ _
      · rw [if_neg hfail]
        exact work_writesOnly r.style c w.heap
    by_cases hblock : r.style = .block
    · simp only [if_pos hblock]
      cases hwords : c.argumentBlock (addresses c) with
      | error error => exact .refl _ _
      | ok block => exact hwork (some block)
    · simp only [if_neg hblock]
      exact hwork none

end Recorder

namespace Tensor

theorem shares_iff {a b : Tensor} : a.shares b ↔ a.storage = b.storage := beq_iff_eq

/-- A tensor has a storage of its size, and no multiplication that finds its size leaves the 64
bits. -/
structure Sized (t : Tensor) (h : Heap) : Prop where
  /-- The sizes fit 64 bits. -/
  fits : Fits t.dtype t.shape
  /-- The storage has the width of an element for every element. -/
  stored : ∃ content, h.bytes? t.storage = some content ∧
    content.length = t.numel.toNat * t.dtype.width
  /-- That is the number of bytes as it is asked for. -/
  nbytes : t.nbytes.toNat = t.numel.toNat * t.dtype.width

/-- A tensor keeps its size whatever is written. -/
theorem Sized.writesOnly {t : Tensor} {given : List Nat} {h h' : Heap} (ht : t.Sized h)
    (hwrites : h.WritesOnly given h') : t.Sized h' := by
  obtain ⟨content, hcontent, hlength⟩ := ht.stored
  obtain ⟨content', hcontent', hlength', -⟩ := hwrites _ _ hcontent
  exact ⟨ht.fits, ⟨content', hcontent', hlength'.trans hlength⟩, ht.nbytes⟩

/-- A tensor that is made has its size. -/
theorem sized_allocate {h : Heap} {dtype : DType} {shape : List UInt64} {content : Bytes}
    (hfits : Fits dtype shape) (hlength : content.length = volume shape * dtype.width) :
    Sized ⟨h.storages.length, dtype, shape⟩ (h.allocate content).2 := by
  have hnumel := Fits.toNat_numel (t := ⟨h.storages.length, dtype, shape⟩) hfits
  refine ⟨hfits, ⟨content, ?_, by rw [hlength, hnumel]⟩, ?_⟩
  · rw [Heap.bytes?_allocate]
    exact if_pos rfl
  · rw [Fits.toNat_nbytes hfits, hnumel]

/-- A write within the storage of a tensor puts the new bytes in place of the old ones. -/
theorem bytes_write {t : Tensor} {h : Heap} (ht : t.Sized h) {offset : Nat} {new : Bytes}
    (hwithin : offset + new.length ≤ (t.bytes h).length) :
    (h.write t.storage offset new).bytes t.storage =
      (t.bytes h).take offset ++ new ++ (t.bytes h).drop (offset + new.length) := by
  obtain ⟨content, hcontent, -⟩ := ht.stored
  have hpatch : Heap.patch? (h.bytes t.storage) offset new = some _ := if_pos hwithin
  rw [Heap.write, hpatch, Heap.bytes, Heap.bytes?_put, if_pos rfl, hcontent]
  rfl

end Tensor

open Tensor

/-- A handle that was given out. -/
structure Handle where
  /-- The tensor that it is a handle on. -/
  tensor : Tensor
  /-- The number of the step that made its storage. -/
  maker : Nat

/-- What is done with tensors. -/
inductive TensorStep : Type 1 where
  /-- A tensor is made. -/
  | make (recipe : Recipe)
  /-- A handle is copied. -/
  | copy (i : Nat)
  /-- New bytes are written through a handle. -/
  | overwrite (i offset : Nat) (new : Bytes)
  /-- A native call is made. -/
  | call (native : NativeEntry) (c : NativeCall)

/-- The handles that were given out in a world. -/
structure HandleTable where
  /-- The world. -/
  world : World
  /-- The handles, the first first. -/
  handles : List Handle := []
  /-- The number of steps so far. -/
  steps : Nat := 0

namespace HandleTable

/-- The table after a step. -/
def step (S : HandleTable) : TensorStep → HandleTable
  | .make recipe =>
    match (World.onHeap recipe.make).runFrom S.world with
    | (.ok t, world) => ⟨world, S.handles ++ [⟨t, S.steps⟩], S.steps + 1⟩
    | (.error _, world) => ⟨world, S.handles, S.steps + 1⟩
  | .copy i => ⟨S.world, S.handles ++ (S.handles[i]?).toList, S.steps + 1⟩
  | .overwrite i offset new =>
    match S.handles[i]? with
    | some H =>
      ⟨((World.onHeap (H.tensor.overwrite offset new)).runFrom S.world).2, S.handles, S.steps + 1⟩
    | none => ⟨S.world, S.handles, S.steps + 1⟩
  | .call native c => ⟨((native.execute c).runFrom S.world).2, S.handles, S.steps + 1⟩

/-- Nothing has been given out yet. -/
def start (w : World) : HandleTable := ⟨w, [], 0⟩

/-- The storages that a step is given to write. -/
def given (S : HandleTable) : TensorStep → List Nat
  | .make _ | .copy _ => []
  | .overwrite i _ _ => (S.handles[i]?).toList.map (·.tensor.storage)
  | .call _ c => c.tensors.map storage

/-- What a step may do: given elements are in memory, and a native call writes only inside the
storages that it is given. -/
def Allows (S : HandleTable) : TensorStep → Prop
  | .make recipe => recipe.InMemory
  | .copy _ | .overwrite _ _ _ => True
  | .call native c => S.world.heap.WritesOnly (c.tensors.map storage)
      ((native.execute c).runFrom S.world).2.heap

/-- The table after some steps. -/
def run (S : HandleTable) (steps : List TensorStep) : HandleTable := steps.foldl step S

/-- Every step is allowed where it is made. -/
def Along (S : HandleTable) : List TensorStep → Prop
  | [] => True
  | step :: steps => S.Allows step ∧ (S.step step).Along steps

/-- What holds of the handles after the steps `done`. -/
structure Sound (S : HandleTable) (done : List TensorStep) : Prop where
  /-- The steps are counted. -/
  steps : S.steps = done.length
  /-- Every tensor has a storage of its size. -/
  sized : ∀ H ∈ S.handles, H.tensor.Sized S.world.heap
  /-- Every handle goes back to a step that made a tensor of its element type and shape. -/
  made : ∀ H ∈ S.handles, ∃ recipe, done[H.maker]? = some (.make recipe) ∧
    H.tensor.dtype = recipe.dtype ∧ H.tensor.shape = recipe.shape
  /-- Handles share a storage if they go back to the same step. -/
  shares : ∀ H ∈ S.handles, ∀ H' ∈ S.handles,
    H.tensor.storage = H'.tensor.storage ↔ H.maker = H'.maker

variable {S : HandleTable} {done : List TensorStep}

/-- A step that makes a tensor gives out a handle on a new storage, or changes nothing. -/
theorem step_make {recipe : Recipe} (hmemory : recipe.InMemory) :
    S.step (.make recipe) = ⟨S.world, S.handles, S.steps + 1⟩ ∨
      ∃ content, Fits recipe.dtype recipe.shape ∧
        content.length = volume recipe.shape * recipe.dtype.width ∧
        S.step (.make recipe) = ⟨{ S.world with heap := (S.world.heap.allocate content).2 },
          S.handles ++ [⟨⟨S.world.heap.storages.length, recipe.dtype, recipe.shape⟩, S.steps⟩],
          S.steps + 1⟩ := by
  have hmakes := Recipe.make_makes hmemory S.world.heap
  simp only [step, World.onHeap, Act.run_within]
  generalize recipe.make.runFrom S.world.heap = r at hmakes
  cases hmakes with
  | refused error => exact .inl rfl
  | made content hfits hlength => exact .inr ⟨content, hfits, hlength, rfl⟩

/-- A step writes only what it is given, and takes no handle back. -/
theorem step_writesOnly {step : TensorStep} (hallows : S.Allows step) :
    S.world.heap.WritesOnly (S.given step) (S.step step).world.heap ∧
      S.handles <+: (S.step step).handles := by
  cases step with
  | make recipe =>
    rcases S.step_make hallows with hstep | ⟨content, -, -, hstep⟩
    · rw [hstep]
      exact ⟨.refl _ _, List.prefix_rfl⟩
    · rw [hstep]
      exact ⟨.allocate _ _ content, List.prefix_append _ _⟩
  | copy i => exact ⟨.refl _ _, List.prefix_append _ _⟩
  | overwrite i offset new =>
    simp only [HandleTable.step, given]
    cases S.handles[i]? with
    | none => exact ⟨.refl _ _, List.prefix_rfl⟩
    | some H => exact ⟨.write _ _ _ _, List.prefix_rfl⟩
  | call native c => exact ⟨hallows, List.prefix_rfl⟩

/-- Only a step that makes a tensor gives out a handle that none was before. -/
theorem mem_of_step {step : TensorStep} (hmake : ∀ recipe, step ≠ .make recipe) :
    (S.step step).steps = S.steps + 1 ∧ ∀ H ∈ (S.step step).handles, H ∈ S.handles := by
  cases step with
  | make recipe => exact absurd rfl (hmake recipe)
  | copy i =>
    refine ⟨rfl, fun H hH ↦ ?_⟩
    rcases List.mem_append.mp hH with hH | hH
    · exact hH
    · exact List.mem_of_getElem? (Option.mem_toList.mp hH)
  | overwrite i offset new =>
    simp only [HandleTable.step]
    cases S.handles[i]? <;> exact ⟨rfl, fun _ hH ↦ hH⟩
  | call native c => exact ⟨rfl, fun _ hH ↦ hH⟩

namespace Sound

private theorem made_append (h : S.Sound done) (step : TensorStep) {H : Handle}
    (hH : H ∈ S.handles) : ∃ recipe, (done ++ [step])[H.maker]? = some (.make recipe) ∧
      H.tensor.dtype = recipe.dtype ∧ H.tensor.shape = recipe.shape := by
  obtain ⟨recipe, hmaker, hasked⟩ := h.made H hH
  have hlt := (List.getElem?_eq_some_iff.mp hmaker).1
  exact ⟨recipe, by rw [List.getElem?_append_left hlt, hmaker], hasked⟩

/-- A handle on a new storage of its size comes from the step that made it. -/
private theorem give (h : S.Sound done) {recipe : Recipe} {content : Bytes}
    (hfits : Fits recipe.dtype recipe.shape)
    (hlength : content.length = volume recipe.shape * recipe.dtype.width) :
    HandleTable.Sound ⟨{ S.world with heap := (S.world.heap.allocate content).2 },
      S.handles ++ [⟨⟨S.world.heap.storages.length, recipe.dtype, recipe.shape⟩, S.steps⟩],
      S.steps + 1⟩ (done ++ [.make recipe]) := by
  -- an earlier handle has neither the new storage nor the new number
  have hold : ∀ H ∈ S.handles, H.tensor.storage ≠ S.world.heap.storages.length ∧
      H.maker ≠ S.steps := by
    intro H hH
    obtain ⟨_, hstored, -⟩ := (h.sized H hH).stored
    obtain ⟨_, hmaker, -⟩ := h.made H hH
    have hlt := (List.getElem?_eq_some_iff.mp hstored).1
    have hltMaker := (List.getElem?_eq_some_iff.mp hmaker).1
    exact ⟨Nat.ne_of_lt hlt, Nat.ne_of_lt (h.steps ▸ hltMaker)⟩
  refine ⟨by simp [h.steps], ?_, ?_, ?_⟩
  · intro H hH
    rcases List.mem_append.mp hH with hH | hH
    · exact (h.sized H hH).writesOnly (.allocate [] _ content)
    · rw [List.mem_singleton.mp hH]
      exact sized_allocate hfits hlength
  · intro H hH
    rcases List.mem_append.mp hH with hH | hH
    · exact h.made_append _ hH
    · rw [List.mem_singleton.mp hH]
      exact ⟨recipe, by simp [h.steps], rfl, rfl⟩
  · intro H hH H' hH'
    rcases List.mem_append.mp hH with hH | hH <;> rcases List.mem_append.mp hH' with hH' | hH'
    · exact h.shares H hH H' hH'
    · rw [List.mem_singleton.mp hH']
      exact iff_of_false (hold H hH).1 (hold H hH).2
    · rw [List.mem_singleton.mp hH]
      exact iff_of_false (hold H' hH').1.symm (hold H' hH').2.symm
    · rw [List.mem_singleton.mp hH, List.mem_singleton.mp hH']
      exact iff_of_true rfl rfl

/-- What holds of the handles holds after every further step. -/
theorem step (h : S.Sound done) {step : TensorStep} (hallows : S.Allows step) :
    (S.step step).Sound (done ++ [step]) := by
  by_cases hmake : ∃ recipe, step = .make recipe
  · obtain ⟨recipe, rfl⟩ := hmake
    rcases S.step_make hallows with hstep | ⟨content, hfits, hlength, hstep⟩
    · rw [hstep]
      exact ⟨by simp [h.steps], h.sized, fun H hH ↦ h.made_append _ hH, h.shares⟩
    · rw [hstep]
      exact h.give hfits hlength
  · obtain ⟨hsteps, hmem⟩ := S.mem_of_step (not_exists.mp hmake)
    have hwrites := (S.step_writesOnly hallows).1
    refine ⟨by simp [hsteps, h.steps], ?_, ?_, ?_⟩
    · exact fun H hH ↦ (h.sized H (hmem H hH)).writesOnly hwrites
    · exact fun H hH ↦ h.made_append _ (hmem H hH)
    · exact fun H hH H' hH' ↦ h.shares H (hmem H hH) H' (hmem H' hH')

/-- Where nothing has been given out, all of it holds. -/
theorem start (w : World) : (HandleTable.start w).Sound [] :=
  ⟨rfl, fun _ hH ↦ absurd hH List.not_mem_nil, fun _ hH ↦ absurd hH List.not_mem_nil,
    fun _ hH ↦ absurd hH List.not_mem_nil⟩

/-- What holds of the handles holds along a run. -/
theorem run (h : S.Sound done) {steps : List TensorStep} (halong : S.Along steps) :
    (S.run steps).Sound (done ++ steps) := by
  induction steps generalizing S done with
  | nil => simpa [HandleTable.run] using h
  | cons step steps ih =>
    have hrest := ih (h.step halong.1) halong.2
    rwa [List.append_assoc] at hrest

end Sound

/-- A run takes no handle back. -/
theorem handles_prefix_run {steps : List TensorStep} (halong : S.Along steps) :
    S.handles <+: (S.run steps).handles := by
  induction steps generalizing S with
  | nil => exact List.prefix_rfl
  | cons step steps ih => exact (S.step_writesOnly halong.1).2.trans (ih halong.2)

theorem along_append {steps more : List TensorStep} :
    S.Along (steps ++ more) ↔ S.Along steps ∧ (S.run steps).Along more := by
  induction steps generalizing S with
  | nil => simp [Along, run]
  | cons step steps ih =>
    rw [List.cons_append, Along, Along, ih, and_assoc]
    rfl

/-- New bytes are seen through the handles on the storage that they are written to, and through no
other handle. -/
theorem Sound.bytes_overwrite (h : S.Sound done) {i offset : Nat} {H H' : Handle} {new : Bytes}
    (hi : S.handles[i]? = some H)
    (hwithin : offset + new.length ≤ (H.tensor.bytes S.world.heap).length) (hH' : H' ∈ S.handles) :
    H'.tensor.bytes (S.step (.overwrite i offset new)).world.heap =
      if H'.tensor.shares H.tensor then
        (H.tensor.bytes S.world.heap).take offset ++ new ++
          (H.tensor.bytes S.world.heap).drop (offset + new.length)
      else H'.tensor.bytes S.world.heap := by
  have hstep : (S.step (.overwrite i offset new)).world.heap =
      S.world.heap.write H.tensor.storage offset new := by
    simp only [HandleTable.step, hi]
    rfl
  rw [hstep]
  by_cases hshares : H'.tensor.storage = H.tensor.storage
  · rw [if_pos (shares_iff.mpr hshares), Tensor.bytes, hshares,
      bytes_write (h.sized H (List.mem_of_getElem? hi)) hwithin]
  · rw [if_neg (mt shares_iff.mp hshares)]
    obtain ⟨content, hcontent, -⟩ := (h.sized H' hH').stored
    exact (Heap.WritesOnly.write _ _ offset new).bytes_eq hcontent (by simpa using hshares)

/-- Whatever is done with tensors, every handle that was given out goes back to a step that asked
for its element type and shape, and has a storage of exactly that size, found without overflow.
Handles share a storage exactly if they go back to one step. No handle is taken back or changed by
later steps, every step leaves the storages alone that it is not given, and what is written through
a handle is seen through the handles that share its storage and through no other. -/
theorem run_handles {w : World} {steps : List TensorStep} (halong : (start w).Along steps)
    {S : HandleTable} (hS : S = (start w).run steps) :
    (∀ H ∈ S.handles, H.tensor.Sized S.world.heap ∧ ∃ recipe,
      steps[H.maker]? = some (.make recipe) ∧ H.tensor.dtype = recipe.dtype ∧
        H.tensor.shape = recipe.shape) ∧
    (∀ H ∈ S.handles, ∀ H' ∈ S.handles, H.tensor.shares H'.tensor ↔ H.maker = H'.maker) ∧
    (∀ n, ((start w).run (steps.take n)).handles <+: S.handles) ∧
    (∀ step, S.Allows step → S.world.heap.WritesOnly (S.given step) (S.step step).world.heap) ∧
    ∀ i H offset new, S.handles[i]? = some H →
      offset + new.length ≤ (H.tensor.bytes S.world.heap).length → ∀ H' ∈ S.handles,
        H'.tensor.bytes (S.step (.overwrite i offset new)).world.heap =
          if H'.tensor.shares H.tensor then
            (H.tensor.bytes S.world.heap).take offset ++ new ++
              (H.tensor.bytes S.world.heap).drop (offset + new.length)
          else H'.tensor.bytes S.world.heap := by
  subst hS
  have hsound : ((start w).run steps).Sound steps := (Sound.start w).run halong
  refine ⟨fun H hH ↦ ⟨hsound.sized H hH, hsound.made H hH⟩, fun H hH H' hH' ↦ ?_, fun n ↦ ?_,
    fun step hallows ↦ (step_writesOnly hallows).1, ?_⟩
  · exact shares_iff.trans (hsound.shares H hH H' hH')
  · rw [← List.take_append_drop n steps, along_append] at halong
    have hprefix := handles_prefix_run halong.2
    rwa [run, run, ← List.foldl_append, List.take_append_drop] at hprefix
  · exact fun i H offset new hi hwithin H' hH' ↦ hsound.bytes_overwrite hi hwithin hH'

/-- A world with a recorder that fills the last tensor of a call. -/
def fillingWorld : World where
  host := Host.initial
  recorders := [⟨"fill", .fill, []⟩]

/-- A call that is given two storages. -/
def fillingCall : NativeCall where
  library := .ofString "/k.so"
  symbol := "k"
  tensors := [⟨0, .float16, [2, 3]⟩, ⟨1, .uint8, [3]⟩]
  tensorPositions := [0, 1]

/-- Tensors are made, one of them without elements and one that is refused, a handle is copied, and
two storages are written. -/
def fillingSteps : List TensorStep :=
  [.make (.zeros .float16 [2, 3]), .copy 0, .make (@Recipe.patterns .uint8 [1, 2, 3] [3]),
    .make (.zeros .float64 [0, 0xFFFFFFFFFFFFFFFF]),
    .make (.zeros .float64 [0xFFFFFFFFFFFFFFFF, 2]), .overwrite 1 2 [7, 8],
    .call (Recorder.entry fillingWorld 0) fillingCall]

/-- The two handles on the first storage see each other's writes, the others are as they were. -/
theorem run_handles_filling :
    (start fillingWorld).Along fillingSteps ∧
      (∀ H ∈ ((start fillingWorld).run fillingSteps).handles,
        H.tensor.Sized ((start fillingWorld).run fillingSteps).world.heap) ∧
      ((start fillingWorld).run fillingSteps).handles.map Handle.maker = [0, 0, 2, 3] ∧
      ((start fillingWorld).run (fillingSteps ++ [.overwrite 0 11 [9]])).world.heap.storages =
        [[0, 0, 7, 8, 0, 0, 0, 0, 0, 0, 0, 9], [0xab, 0xab, 0xab], []] := by
  have halong : (start fillingWorld).Along fillingSteps := by
    refine ⟨trivial, trivial, ?_, trivial, trivial, trivial, ?_, trivial⟩
    · show [1, 2, 3].length * DType.uint8.width < 2 ^ 63
      decide
    · exact Recorder.execute_writesOnly 0 _ _
  exact ⟨halong, fun H hH ↦ ((run_handles halong rfl).1 H hH).1, by decide, by decide⟩

end HandleTable

end KernelForge
