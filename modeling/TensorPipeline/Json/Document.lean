import TensorPipeline.Json.Basic
import TensorPipeline.Plan
import TensorPipeline.Store

/-!
# Documents

How the values of the library are written as JSON and read back.

Records are written as objects with their fields in a fixed order.  They are
read from objects, in any order, with unknown members skipped and a repeated
known one refused, and also from arrays of the fields in order.  An optional
field may be missing from an object.

A choice without content is written as its name, one with content as an object
whose one member is named after the choice.  The plain values of a plan are
written without any name and told apart by their kind.
-/

namespace TensorPipeline

class Document (α : Type) where
  toJson : α -> Json
  ofJson? : Json -> Option α

export Document (toJson ofJson?)

namespace Json

/-- The fields of a record, by name from an object or by position from an
array, which must have at least `atLeast` of them.  Names that cannot be read
are refused. -/
def fields? (names : List String) (atLeast : Nat) : Json -> Option (List (Option Json))
  | object members =>
      if members.any fun member => member.1.isNone then none
      else
        names.mapM fun name =>
          match members.filter fun member => member.1 == some name with
          | [] => some none
          | [(_, value)] => some (some value)
          | _ => none
  | array items =>
      if atLeast ≤ items.length ∧ items.length ≤ names.length then
        some ((List.range names.length).map fun i => items[i]?)
      else none
  | _ => none

def choice? : Json -> Option (String × Option Json)
  | text (some name) => some (name, none)
  | object [(some name, content)] => some (name, some content)
  | _ => none

def noContent : Option Json -> Bool
  | none => true
  | some null => true
  | some _ => false

def ofChoice (name : String) (content : Json) : Json := ofMembers [(name, content)]

end Json

def requiredField? {α : Type} [Document α] (field : Option Json) : Option α :=
  field.bind ofJson?

/-!
## Plain values
-/

instance : Document Bool where
  toJson b := .bool b
  ofJson?
    | .bool b => some b
    | _ => none

instance : Document String where
  toJson s := Json.ofString s
  ofJson?
    | .text s => s
    | _ => none

instance : Document UInt64 where
  toJson n := .int n.toNat
  ofJson?
    | .int n =>
        if 0 ≤ n ∧ n < 0x10000000000000000 then some (UInt64.ofNat n.toNat) else none
    | _ => none

instance : Document Int64 where
  toJson n := .int n.toInt
  ofJson?
    | .int n =>
        if -0x8000000000000000 ≤ n ∧ n < 0x8000000000000000 then some (Int64.ofInt n) else none
    | _ => none

instance {α : Type} [Document α] : Document (Option α) where
  toJson
    | none => .null
    | some a => toJson a
  ofJson?
    | .null => some none
    | j => (ofJson? j).map some

instance {α : Type} [Document α] : Document (List α) where
  toJson items := .array (items.map toJson)
  ofJson?
    | .array items => items.mapM ofJson?
    | _ => none

def memberOfJson? {α : Type} [Document α] (member : Option String × Json) :
    Option (String × α) := do
  let key <- member.1
  let value <- ofJson? member.2
  return (key, value)

instance {α : Type} [Document α] : Document (Table α) where
  toJson t := Json.ofMembers (t.entries.map fun e => (e.1, toJson e.2))
  ofJson?
    | .object members => (members.mapM memberOfJson?).map Table.ofPairs
    | _ => none

def optionalField? {α : Type} [Document α] : Option Json -> Option (Option α)
  | none => some none
  | some j => ofJson? j

/-!
## Tensors and shapes
-/

def DType.documentName : DType -> String
  | bool => "Bool"
  | uint8 => "U8"
  | int32 => "I32"
  | int64 => "I64"
  | float32 => "F32"
  | float64 => "F64"

def DType.ofDocumentName? (name : String) : Option DType :=
  DType.all.find? fun d => d.documentName = name

instance : Document DType where
  toJson d := Json.ofString d.documentName
  ofJson? j := do
    let (name, content) <- j.choice?
    if Json.noContent content then DType.ofDocumentName? name else none

instance : Document Shape where
  toJson s := toJson s.dims
  ofJson? j := (ofJson? j).map Shape.mk

instance : Document Dim where
  toJson
    | .known n => Json.ofChoice "Known" (toJson n)
    | .unknown => Json.ofString "Unknown"
  ofJson? j := do
    match <- j.choice? with
    | ("Known", some content) => (ofJson? content).map Dim.known
    | ("Unknown", content) => if Json.noContent content then some Dim.unknown else none
    | _ => none

instance : Document PartialShape where
  toJson p := Json.ofMembers [("dims", toJson p.dims)]
  ofJson? j := do
    match <- j.fields? ["dims"] 1 with
    | [dims] => (optionalField? dims).map PartialShape.mk
    | _ => none

instance : Document Cardinality where
  toJson
    | .finite n => Json.ofChoice "Finite" (toJson n)
    | .infinite => Json.ofString "Infinite"
    | .unknown => Json.ofString "Unknown"
  ofJson? j := do
    match <- j.choice? with
    | ("Finite", some content) => (ofJson? content).map Cardinality.finite
    | ("Infinite", content) =>
        if Json.noContent content then some Cardinality.infinite else none
    | ("Unknown", content) =>
        if Json.noContent content then some Cardinality.unknown else none
    | _ => none

/-!
## Stored state
-/

instance : Document StateValue where
  toJson
    | .int n => Json.ofChoice "Int" (toJson n)
    | .text s => Json.ofChoice "Str" (toJson s)
  ofJson? j := do
    match <- j.choice? with
    | ("Int", some content) => (ofJson? content).map StateValue.int
    | ("Str", some content) => (ofJson? content).map StateValue.text
    | _ => none

structure StoreRecord where
  store : Store

instance : Document StoreRecord where
  toJson r := Json.ofMembers [("entries", toJson r.store)]
  ofJson? j := do
    match <- j.fields? ["entries"] 1 with
    | [entries] => (requiredField? entries).map StoreRecord.mk
    | _ => none

/-!
## Plans
-/

instance : Document PlanValue where
  toJson
    | .bool b => toJson b
    | .int n => toJson n
    | .text s => toJson s
  ofJson?
    | .bool b => some (.bool b)
    | .text s => s.map PlanValue.text
    | j => (ofJson? j).map PlanValue.int

instance : Document PlanNode where
  toJson n :=
    Json.ofMembers
      [("id", toJson n.id), ("op", toJson n.op), ("inputs", toJson n.inputs),
        ("scalars", toJson n.scalars), ("attrs", toJson n.attrs)]
  ofJson? j := do
    match <- j.fields? ["id", "op", "inputs", "scalars", "attrs"] 5 with
    | [id, op, inputs, scalars, attrs] =>
        return {
          id := <- requiredField? id
          op := <- requiredField? op
          inputs := <- requiredField? inputs
          scalars := <- requiredField? scalars
          attrs := <- requiredField? attrs }
    | _ => none

instance : Document Plan where
  toJson p := Json.ofMembers [("nodes", toJson p.nodes), ("output", toJson p.output)]
  ofJson? j := do
    match <- j.fields? ["nodes", "output"] 2 with
    | [nodes, output] =>
        return { nodes := <- requiredField? nodes, output := <- optionalField? output }
    | _ => none

/-!
## Options of a batch stage
-/

instance : Document Options where
  toJson o :=
    Json.ofMembers
      [("op", toJson o.op), ("batch_size", toJson o.size),
        ("drop_remainder", toJson o.dropRemainder), ("parallel_copy", toJson o.parallelCopy)]
  ofJson? j := do
    match <- j.fields? ["op", "batch_size", "drop_remainder", "parallel_copy"] 2 with
    | [op, size, dropRemainder, parallelCopy] =>
        return {
          op := <- (match op with
            | none => some Options.defaultOp
            | some op => ofJson? op)
          size := <- requiredField? size
          dropRemainder := <- optionalField? dropRemainder
          parallelCopy := <- optionalField? parallelCopy }
    | _ => none

end TensorPipeline
