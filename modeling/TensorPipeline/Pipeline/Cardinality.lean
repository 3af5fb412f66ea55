/-!
# Cardinality

The number of elements that a pipeline promises to deliver, in 64 bits: a
number, no end at all, or not known.
-/

namespace TensorPipeline

inductive Cardinality where
  | finite (count : UInt64)
  | infinite
  | unknown
deriving DecidableEq, Repr, Inhabited

namespace Cardinality

def toText : Cardinality -> String
  | finite n => toString n.toNat
  | infinite => "infinite"
  | unknown => "unknown"

def batchCount (n size : UInt64) (dropRemainder : Bool) : UInt64 :=
  n / size + if n % size != 0 && !dropRemainder then 1 else 0

def batched (c : Cardinality) (size : UInt64) (dropRemainder : Bool) : Cardinality :=
  match c with
  | finite n => finite (batchCount n size dropRemainder)
  | infinite => infinite
  | unknown => unknown

end Cardinality

end TensorPipeline
