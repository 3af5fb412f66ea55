import TensorPipeline.Allocator
import TensorPipeline.Pool

/-!
# What a run shares

All iterators of a run share a context, which no operation changes, and a
record of what they have used so far: the requests made to the allocator and
the tallies of the counting layers.
-/

namespace TensorPipeline

/-- Numbered counts of 64 bits; adding one to the largest gives zero. -/
structure Tallies where
  counts : List UInt64
deriving DecidableEq, Repr, Inhabited

namespace Tallies

def empty : Tallies := ⟨[]⟩

def fresh (t : Tallies) : Tallies × Nat := (⟨t.counts ++ [0]⟩, t.counts.length)

def count (t : Tallies) (tally : Nat) : UInt64 := t.counts.getD tally 0

def bump (t : Tallies) (tally : Nat) : Tallies := ⟨t.counts.modify tally (· + 1)⟩

end Tallies

structure Context where
  allocator : Allocator
  pool : Pool

namespace Context

def default : Context := ⟨Allocator.heap, Pool.shared⟩

def toText? (c : Context) : Option String :=
  c.pool.threads.map fun threads =>
    "IteratorContext \x7b allocator: \"" ++ c.allocator.name ++ "\", pool: " ++
      Pool.dedicatedText threads ++ " \x7d"

end Context

/-- The requests made to the allocator, the latest first, and the tallies. -/
structure Usage where
  requests : List UInt64
  tallies : Tallies
deriving DecidableEq, Repr, Inhabited

namespace Usage

def empty : Usage := ⟨[], Tallies.empty⟩

def request (u : Usage) (bytes : UInt64) : Usage :=
  { u with requests := bytes :: u.requests }

def bump (u : Usage) (tally : Nat) : Usage :=
  { u with tallies := u.tallies.bump tally }

end Usage

def Context.allocate (c : Context) (u : Usage) (bytes : UInt64) :
    Option (List UInt8) × Usage :=
  (c.allocator.serve u.requests bytes, u.request bytes)

end TensorPipeline
