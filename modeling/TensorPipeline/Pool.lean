/-!
# Worker pools

The copies that fill one buffer may be handed to a pool of workers, which runs
all of them to the end but in an order of its own.  A schedule fixes that
order; it may depend on everything that happened before, which the list of
earlier requests stands for, since every round of copies is preceded by a
request of its own.
-/

namespace TensorPipeline

/-- An order for the `n` copies of each round. -/
structure Schedule where
  order : List UInt64 -> Nat -> List Nat
  complete : forall (earlier : List UInt64) (n : Nat),
    (order earlier n).Perm (List.range n)

namespace Schedule

def inOrder : Schedule where
  order _ n := List.range n
  complete _ n := List.Perm.refl (List.range n)

end Schedule

/-- Workers for copies: a dedicated number of threads, or those that all
pipelines share. -/
structure Pool where
  threads : Option Nat
  schedule : Schedule

namespace Pool

def shared : Pool := ⟨none, Schedule.inOrder⟩

def dedicated (threads : Nat) : Pool := ⟨some (max threads 1), Schedule.inOrder⟩

def sumOfUnits (pool : Pool) (units : Nat) : Nat :=
  (pool.schedule.order [] units).foldl (· + ·) 0

def dedicatedText (threads : Nat) : String :=
  "WorkerPool \x7b dedicated: true, threads: " ++ toString threads ++ " \x7d"

end Pool

end TensorPipeline
