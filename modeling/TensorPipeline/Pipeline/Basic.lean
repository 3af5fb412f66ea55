import TensorPipeline.Batch.Stage
import TensorPipeline.Pipeline.TensorSource

/-!
# Pipelines

A pipeline is a source under any number of layers: batch stages, layers that
count the pulls made on them, and layers that fail on one chosen pull.  The
source is a range of integers or a fixed list of elements.

What a pipeline promises about its elements is computed from its definition
alone.  Counting and failing layers have no name, path or promise of their
own; they pass on those of their input.
-/

namespace TensorPipeline

inductive Pipeline where
  | range (start : Int64) (stop : Option Int64)
  | tensors (source : TensorSource)
  | counting (tally : Nat) (input : Pipeline)
  | faulty (failAt : UInt64) (input : Pipeline)
  | batch (stage : Stage) (input : Pipeline)

namespace Pipeline

def dtypes : Pipeline -> List DType
  | range _ _ => [.int64]
  | tensors source => source.dtypes
  | counting _ input => input.dtypes
  | faulty _ input => input.dtypes
  | batch _ input => input.dtypes

end Pipeline

/-- What a stage knows of the leading dimension of its batches: the batch size,
unless the last batch may be short. -/
def Stage.leading (s : Stage) : PartialShape :=
  PartialShape.ofDims
    [if s.dropRemainder then Dim.known (UInt64.ofNat s.size) else Dim.unknown]

namespace Pipeline

def shapes : Pipeline -> List PartialShape
  | range _ _ => [PartialShape.ofDims []]
  | tensors source => source.shapes
  | counting _ input => input.shapes
  | faulty _ input => input.shapes
  | batch stage input => input.shapes.map stage.leading.concat

def cardinality : Pipeline -> Cardinality
  | range start (some stop) => .finite (UInt64.ofNat (stop.toInt - start.toInt).toNat)
  | range _ none => .infinite
  | tensors source => source.cardinality
  | counting _ input => input.cardinality
  | faulty _ input => input.cardinality
  | batch stage input =>
      input.cardinality.batched (UInt64.ofNat stage.size) stage.dropRemainder

def description : Pipeline -> String
  | range start stop =>
      Naming.description "Range" 1
        [toString start.toInt, (stop.map fun n => toString n.toInt).getD "inf"]
  | tensors source => Naming.description "Tensors" 1 [toString source.elements.length]
  | counting _ input => input.description
  | faulty _ input => input.description
  | batch stage _ => stage.description

def pathUnder : Pipeline -> String -> String
  | range _ _, parent => Naming.pathUnder "Range" parent 1
  | tensors _, parent => Naming.pathUnder "Tensors" parent 1
  | counting _ input, parent => input.pathUnder parent
  | faulty _ input, parent => input.pathUnder parent
  | batch stage _, parent => stage.pathUnder parent

end Pipeline

end TensorPipeline
