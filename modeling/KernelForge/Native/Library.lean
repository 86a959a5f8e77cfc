import KernelForge.Binary.Arithmetic
import KernelForge.Tensor.Heap

/-!
# Kernel libraries

A kernel library is a table from symbols to kernels. A kernel reads its argument block and works on
the storages that the words of the block point into. The machine code of a library is known by its
name.
-/

namespace KernelForge

/-- A kernel. -/
inductive KernelCode where
  /-- Three singles, times a factor, plus a bias. -/
  | scale
  /-- Sums of four singles. -/
  | add
  /-- Differences of four singles. -/
  | subtract
  /-- Copies words of its block. -/
  | dump
  /-- Counts its calls. -/
  | count
  /-- Nothing. -/
  | idle
  deriving DecidableEq

namespace KernelCode

/-- The number at an address, of the given width in bytes. -/
def load (h : Heap) (address : UInt64) (width : Nat) : Nat :=
  let (id, offset) := Heap.locate address
  Bytes.ofLittleEndian (((h.bytes id).drop offset).take width)

/-- Stores a number of the given width at an address. -/
def store (h : Heap) (address : UInt64) (width n : Nat) : Heap :=
  let (id, offset) := Heap.locate address
  h.write id offset (Bytes.littleEndian width n)

/-- The single at place `i` from an address. -/
def loadSingle (h : Heap) (address : UInt64) (i : Nat) : Single :=
  ⟨UInt32.ofNat (load h (address + UInt64.ofNat (4 * i)) 4)⟩

/-- Stores a single at place `i` from an address. -/
def storeSingle (h : Heap) (address : UInt64) (i : Nat) (x : Single) : Heap :=
  store h (address + UInt64.ofNat (4 * i)) 4 x.bits.toNat

/-- Works on the places below `count`, one after the other. -/
def forPlaces (count : Nat) (h : Heap) (f : Heap → Nat → Heap) : Heap :=
  (List.range count).foldl f h

/-- Runs a kernel on an argument block: the storages and the counter of its library afterwards. -/
def run (code : KernelCode) (block : List UInt64) (counter : Nat) (h : Heap) : Heap × Nat :=
  let slot (i : Nat) := block.getD i 0
  let pairwise (f : Single → Single → Single) := forPlaces 4 h fun h i ↦
    storeSingle h (slot 2) i (f (loadSingle h (slot 0) i) (loadSingle h (slot 1) i))
  match code with
  | scale =>
    let factor := (Double.mk (slot 1)).toSingle
    let bias := Single.ofInt64 (slot 2).toInt64
    (forPlaces 3 h fun h i ↦
      storeSingle h (slot 3) i (((loadSingle h (slot 0) i).mul factor).add bias), counter)
  | add => (pairwise Single.add, counter)
  | subtract => (pairwise Single.sub, counter)
  | dump => (forPlaces (min (slot 1).toNat (block.length - 2)) h fun h i ↦
      store h (slot 0 + UInt64.ofNat (8 * i)) 8 (slot (2 + i)).toNat, counter)
  | count => (store h (slot 0) 8 (counter + 1), counter + 1)
  | idle => (h, counter)

end KernelCode

/-- A table from symbols to kernels. -/
structure Library where
  /-- The symbols with their kernels. -/
  symbols : List (String × KernelCode)
  deriving DecidableEq

namespace Library

/-- The kernel of a symbol. One zero character at the end of a symbol does not count, others are in
no symbol. -/
def find? (l : Library) (symbol : String) : Option KernelCode :=
  let symbol := match symbol.toList.getLast? with
    | some '\x00' => String.ofList symbol.toList.dropLast
    | _ => symbol
  l.symbols.lookup symbol

/-- The library that adds. -/
def plain : Library :=
  ⟨[("scale_kernel", .scale), ("add_kernel", .add), ("dump_kernel", .dump),
    ("count_kernel", .count), ("nop_kernel", .idle)]⟩

/-- The library that subtracts where the other adds. -/
def contrary : Library :=
  ⟨[("scale_kernel", .scale), ("add_kernel", .subtract), ("dump_kernel", .dump),
    ("count_kernel", .count)]⟩

/-- The library with a name. -/
def named? (name : String) : Option Library :=
  if name == "a" then some plain else if name == "b" then some contrary else none

end Library

end KernelForge
