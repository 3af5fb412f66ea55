/-!
# Allocators

Batches are written into buffers that an allocator provides.  An allocator
answers each request with a buffer of exactly the requested length or refuses
it, and may let the answer depend on the requests it has had before.
-/

namespace TensorPipeline

/-- A provider of buffers.  `serve` sees the earlier requests, the latest one
first, and the number of bytes asked for. -/
structure Allocator where
  name : String
  serve : List UInt64 -> UInt64 -> Option (List UInt8)
  exact_length : forall {earlier : List UInt64} {n : UInt64} {buffer : List UInt8},
    serve earlier n = some buffer -> buffer.length = n.toNat

namespace Allocator

/-- The size in bytes from which no machine can grant a request. -/
def unservable : UInt64 := 0x4000000000000000

def heap : Allocator where
  name := "heap"
  serve _ n := if n < unservable then some (List.replicate n.toNat 0) else none
  exact_length h := by
    split at h
    · cases h
      exact List.length_replicate
    · cases h

def limited (limit : UInt64) : Allocator where
  name := "limited"
  serve earlier n := if limit < n then none else heap.serve earlier n
  exact_length h := by
    split at h
    · cases h
    · exact heap.exact_length h

def refusals (limit : UInt64) (requests : List UInt64) : Nat :=
  requests.countP fun n => limit < n

end Allocator

end TensorPipeline
