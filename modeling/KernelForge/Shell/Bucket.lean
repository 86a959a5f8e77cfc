/-!
# Names in buckets

Names are kept in a number of buckets, which their characters decide on. They are listed bucket by
bucket, and within one in the order they came in.
-/

namespace KernelForge.Shell

/-- The bucket of a name among so many. -/
def bucketOf (buckets : Nat) (name : List Char) : Nat :=
  (name.foldl (fun n c ↦ n + c.toNat) ((name.head?.map Char.toNat).getD 0 * 16)) % 0x8000 % buckets

/-- Entries bucket by bucket; `name` tells the name of one. -/
def inBuckets {α : Type} (buckets : Nat) (name : α → List Char) (entries : List α) : List α :=
  (List.range buckets).flatMap fun i ↦ entries.filter fun e ↦ bucketOf buckets (name e) == i

end KernelForge.Shell
