/-!
# Cost models

What an iterator tells a tuner about itself: that it is a source, that it
consumes a known number of inputs for each output, or that the ratio is not
known.  The cost of an output is shared equally among its inputs where there
are any.
-/

namespace TensorPipeline

inductive Consumption where
  | source
  | known (ratio : Float)
  | unknown

structure CostModel where
  name : String
  consumption : Consumption

namespace CostModel

def ratio? (m : CostModel) : Option Float :=
  match m.consumption with
  | .source => some 0.0
  | .known ratio => some ratio
  | .unknown => none

/-- The share of an output's cost that falls to each input; there is none
unless the ratio is known to be positive. -/
def costPerInput? (m : CostModel) (outputCost : Float) : Option Float :=
  match m.ratio? with
  | some ratio => if ratio > 0.0 then some (outputCost / ratio) else none
  | none => none

end CostModel

end TensorPipeline
