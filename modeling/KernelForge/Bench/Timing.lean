/-!
# Measurements

A measurement is a duration. Of a list of measurements the least, the greatest and the mean are
told. The mean is the total divided by the number of measurements, which is taken as a word of 32
bits; where this word is zero, or where the total is no duration, there is none.
-/

namespace KernelForge

/-- A duration in nanoseconds. -/
structure Duration where
  /-- The number of nanoseconds. -/
  nanoseconds : Nat
  deriving DecidableEq

namespace Duration

/-- The least number of nanoseconds that is too long: a duration has 64 bits of seconds. -/
def limit : Nat := UInt64.size * 1000000000

/-- The sum of durations, if it is a duration. -/
def total? (runs : List Duration) : Option Duration :=
  let n := runs.foldl (fun n d ↦ n + d.nanoseconds) 0
  if n < limit then some ⟨n⟩ else none

/-- The quotient by a word of 32 bits, rounded down. -/
def dividedBy? (d : Duration) (n : UInt32) : Option Duration :=
  if n = 0 then none else some ⟨d.nanoseconds / n.toNat⟩

/-- The text of a duration. -/
def text (d : Duration) : String := toString d.nanoseconds ++ "ns"

end Duration

/-- What is told of a list of measurements. -/
structure Timing where
  /-- The least. -/
  least : Duration
  /-- The mean, rounded down. -/
  mean : Duration
  /-- The greatest. -/
  greatest : Duration
  /-- All measurements. -/
  runs : List Duration
  deriving DecidableEq

namespace Timing

/-- What is told of `runs`, if they have a mean. -/
def ofRuns? (runs : List Duration) : Option Timing := do
  let total ← Duration.total? runs
  let mean ← total.dividedBy? (UInt32.ofNat (max runs.length 1))
  let ns := runs.map Duration.nanoseconds
  some ⟨⟨ns.min?.getD 0⟩, mean, ⟨ns.max?.getD 0⟩, runs⟩

/-- Whether the mean lies between the least and the greatest. -/
def isOrdered (t : Timing) : Bool :=
  t.least.nanoseconds ≤ t.mean.nanoseconds && t.mean.nanoseconds ≤ t.greatest.nanoseconds

end Timing

end KernelForge
