import KernelForge.Native.Loader

/-!
# Native entries and their registry

A native entry takes calls. One kind loads libraries; another records what it is asked. A registry
finds entries by name, an entry replacing an earlier one of its name.
-/

namespace KernelForge

/-- What takes native calls. -/
structure NativeEntry where
  /-- The name of the entry. -/
  name : String
  /-- Makes a call. -/
  execute : NativeCall → Act World DeviceError Unit

/-- The name of the entry that loads libraries. -/
def loadingEntryName : String := "dynlib_execute"

/-- The entry that loads libraries with a loader. -/
def loadingEntry (loader : Nat) : NativeEntry := ⟨loadingEntryName, World.callLibrary loader⟩

namespace Recorder

/-- The addresses that a recorder gives to the tensors of a call. -/
def addresses (c : NativeCall) : List UInt64 :=
  (List.range c.tensors.length).map fun i ↦ UInt64.ofNat (0x1000 * (i + 1))

/-- Adds a call to the log of a recorder. -/
def note (recorder : Nat) (call : NativeCall) (block : Option (List UInt64)) :
    Act World DeviceError Unit := Act.changes fun w ↦ { w with
  recorders := w.recorders.modify recorder fun r ↦ { r with log := r.log ++ [⟨call, block⟩] } }

/-- The sums of two lists of singles, as far as both go, in the place of the first elements of a
third. -/
def addSingles (a b c : Bytes) : Bytes :=
  let singles (bytes : Bytes) := (Bytes.chunks 4 bytes).map fun w ↦
    Single.mk (UInt32.ofNat (Bytes.ofLittleEndian w))
  let sums := ((singles a).zip (singles b)).map fun (x, y) ↦ x.add y
  let kept := sums.take (c.length / 4)
  (kept.flatMap fun x ↦ Bytes.littleEndian 4 x.bits.toNat) ++ c.drop (4 * kept.length)

/-- What a recorder does to the storages. -/
def work (style : RecorderStyle) (c : NativeCall) (h : Heap) : Heap :=
  match style, c.tensors with
  | .fill, tensors =>
    match tensors.getLast? with
    | some t => h.put t.storage (List.replicate (h.bytes t.storage).length 0xab)
    | none => h
  | .add, [a, b, c] =>
    if [a, b, c].all (·.dtype = .float32) then
      h.put c.storage (addSingles (a.bytes h) (b.bytes h) (c.bytes h))
    else h
  | _, _ => h

/-- Makes a call to a recorder. -/
def execute (recorder : Nat) (c : NativeCall) : Act World DeviceError Unit := do
  match ← Act.reads (·.recorders[recorder]?) with
  | none => throw (.entryMissing "")
  | some r => do
    let block ← if r.style = .block then some <$> Act.ofExcept (c.argumentBlock (addresses c))
      else pure none
    note recorder c block
    if r.style = .fail then throw (.entryMissing r.name)
    World.onHeap (Act.changes (work r.style c))

/-- The entry that a recorder stands for. -/
def entry (w : World) (recorder : Nat) : NativeEntry :=
  ⟨((w.recorders[recorder]?).map Recorder.name).getD "", execute recorder⟩

/-- The log of a recorder, which is empty afterwards. -/
def takeLog (recorder : Nat) (w : World) : List RecordedCall × World :=
  (((w.recorders[recorder]?).map log).getD [], { w with
    recorders := w.recorders.modify recorder fun r ↦ { r with log := [] } })

end Recorder

/-- Native entries by name. -/
structure Registry where
  /-- The entries; no two have one name. -/
  entries : List NativeEntry := []

namespace Registry

/-- The registry with a further entry, which takes the place of one of its name. -/
def register (r : Registry) (entry : NativeEntry) : Registry :=
  ⟨entry :: r.entries.filter (·.name ≠ entry.name)⟩

/-- The entry with a name. -/
def find (r : Registry) (name : String) : Except DeviceError NativeEntry :=
  match r.entries.find? (·.name = name) with
  | some entry => .ok entry
  | none => .error (.entryMissing name)

/-- The names in order. -/
def names (r : Registry) : List String :=
  (r.entries.map NativeEntry.name).mergeSort fun a b ↦ a ≤ b

end Registry

end KernelForge
