import TensorPipeline.Pipeline.Basic
import TensorPipeline.Table

/-!
# Plans

A plan describes pipelines as a graph of named operations.  Each node has the
number of nodes added before it as its id, lists the nodes it reads from, and
carries plain values: the scalars are inputs of the operation, the attributes
configure it.  A pipeline adds one node for its source and one for each batch
stage, the source first; counting and failing layers leave no trace.
-/

namespace TensorPipeline

inductive PlanValue where
  | bool (value : Bool)
  | int (value : Int64)
  | text (value : String)
deriving DecidableEq, Repr, Inhabited

structure PlanNode where
  id : UInt64
  op : String
  inputs : List UInt64
  scalars : Table PlanValue
  attrs : Table PlanValue
deriving DecidableEq

structure Plan where
  nodes : List PlanNode
  output : Option UInt64
deriving DecidableEq

namespace Plan

def node? (p : Plan) (id : UInt64) : Option PlanNode :=
  p.nodes.find? fun n => n.id == id

def outputOp? (p : Plan) : Option String := do
  let id <- p.output
  let node <- p.node? id
  return node.op

end Plan

structure PlanBuilder where
  nodes : List PlanNode
deriving DecidableEq

namespace PlanBuilder

def empty : PlanBuilder := ⟨[]⟩

/-- Adds an operation and tells its id.  Of two scalars or attributes of one
name the later counts. -/
def add (b : PlanBuilder) (op : String) (inputs : List UInt64)
    (scalars attrs : List (String × PlanValue)) : PlanBuilder × UInt64 :=
  let id := UInt64.ofNat b.nodes.length
  (⟨b.nodes ++ [⟨id, op, inputs, Table.ofPairs scalars, Table.ofPairs attrs⟩]⟩, id)

def finish (b : PlanBuilder) (output : UInt64) : Plan := ⟨b.nodes, some output⟩

end PlanBuilder

/-- The scalars of a stage's node; the first version of the operation has no
scalar about short last batches. -/
def Stage.planScalars (s : Stage) : List (String × PlanValue) :=
  ("batch_size", .int (Int64.ofNat s.size)) ::
    match s.version with
    | .v1 => []
    | .v2 => [("drop_remainder", .bool s.dropRemainder)]

def Pipeline.addTo : Pipeline -> PlanBuilder -> PlanBuilder × UInt64
  | .range start stop, b =>
      b.add "RangeDataset" []
        (("start", .int start) ::
          match stop with
          | none => []
          | some stop => [("stop", .int stop)])
        []
  | .tensors source, b =>
      b.add "TensorsDataset" []
        [("num_elements", .int (Int64.ofNat source.elements.length))] []
  | .counting _ input, b => input.addTo b
  | .faulty _ input, b => input.addTo b
  | .batch stage input, b =>
      let (b, id) := input.addTo b
      b.add stage.version.opName [id] stage.planScalars
        [("parallel_copy", .bool stage.parallelCopy)]

def Pipeline.plan (p : Pipeline) : Plan :=
  let (b, id) := p.addTo PlanBuilder.empty
  b.finish id

end TensorPipeline
