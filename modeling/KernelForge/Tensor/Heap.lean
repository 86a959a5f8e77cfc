import KernelForge.Text.Bytes

/-!
# Storages

A heap is a list of storages, each a byte sequence that keeps its length. Main statements: a write
changes its own storage and no other (`bytes?_put`), and a fresh storage is none of the earlier ones
(`bytes?_allocate`).
-/

namespace KernelForge

/-- The storages of all tensors made so far, the oldest first. -/
structure Heap where
  /-- The contents of the storages. -/
  storages : List Bytes := []

namespace Heap

/-- The content of a storage. -/
def bytes? (h : Heap) (id : Nat) : Option Bytes := h.storages[id]?

/-- The content of a storage, empty if there is none. -/
def bytes (h : Heap) (id : Nat) : Bytes := (h.bytes? id).getD []

/-- A new storage with the given content, and its number. -/
def allocate (h : Heap) (content : Bytes) : Nat × Heap :=
  (h.storages.length, ⟨h.storages ++ [content]⟩)

/-- `content` in place of the content of a storage. -/
def put (h : Heap) (id : Nat) (content : Bytes) : Heap := ⟨h.storages.set id content⟩

/-- `bytes` with `new` in place of what stands at `offset`; nothing if it would reach past the
end. -/
def patch? (bytes : Bytes) (offset : Nat) (new : Bytes) : Option Bytes :=
  if offset + new.length ≤ bytes.length then
    some (bytes.take offset ++ new ++ bytes.drop (offset + new.length))
  else none

/-- Writes `new` at `offset` of a storage; what would reach past its end is not written. -/
def write (h : Heap) (id offset : Nat) (new : Bytes) : Heap :=
  match patch? (h.bytes id) offset new with
  | some content => h.put id content
  | none => h

/-- A patch keeps the length. -/
theorem length_patch? {bytes new content : Bytes} {offset : Nat}
    (h : patch? bytes offset new = some content) : content.length = bytes.length := by
  unfold patch? at h
  split at h
  · cases h
    simp only [List.length_append, List.length_take, List.length_drop]
    omega
  · simp at h

/-- A write changes its own storage and no other. -/
theorem bytes?_put (h : Heap) (id other : Nat) (content : Bytes) :
    (h.put id content).bytes? other =
      if other = id then (h.bytes? id).map fun _ ↦ content else h.bytes? other := by
  simp only [bytes?, put, List.getElem?_set]
  by_cases ho : id = other
  · subst ho
    by_cases hl : id < h.storages.length <;> simp [hl]
  · simp [ho, Ne.symm ho]

/-- A fresh storage holds its content and leaves the earlier ones as they were. -/
theorem bytes?_allocate (h : Heap) (content : Bytes) (id : Nat) :
    (h.allocate content).2.bytes? id =
      if id = (h.allocate content).1 then some content else h.bytes? id := by
  show (h.storages ++ [content])[id]? =
    if id = h.storages.length then some content else h.storages[id]?
  by_cases hi : id = h.storages.length
  · simp [hi]
  · rw [if_neg hi, List.getElem?_append]
    split
    · rfl
    · next hl =>
      rw [List.getElem?_eq_none (by simp; omega), List.getElem?_eq_none (by omega)]

/-- Where a storage begins in memory. Storages lie 2⁴⁰ bytes apart; one without bytes takes no
memory and has the lowest address there is. -/
def address (h : Heap) (id : Nat) : UInt64 :=
  if h.bytes id = [] then 1 else UInt64.ofNat ((id + 1) <<< 40)

/-- The storage that an address lies in, and how far from its beginning. -/
def locate (word : UInt64) : Nat × Nat := ((word.toNat >>> 40) - 1, word.toNat % (1 <<< 40))

end Heap

end KernelForge
