import TensorPipeline.Pipeline.Cardinality
import TensorPipeline.Tensor.Basic

/-!
# Tensor sources

A source that delivers a fixed list of elements, at least one.  The shapes it
promises are either declared, and then checked against every element, or
inferred: the shapes of the first element, widened by every later one.
Components that an element lacks or has in excess are left out of both.
-/

namespace TensorPipeline

inductive SourceError where
  | noElements
  | shapeCount (declared components : Nat)
  | notAdmitted (index : Nat) (shape : Shape) (declared : PartialShape)
deriving DecidableEq, Repr

def SourceError.message : SourceError -> String
  | noElements => "TensorsDataset needs at least one element"
  | shapeCount declared components =>
      "declared " ++ toString declared ++ " shapes for " ++ toString components ++ " components"
  | notAdmitted index shape declared =>
      "element " ++ toString index ++ " has shape " ++ shape.toText ++
        " which is not compatible with " ++ declared.toText

def widenShapes : List PartialShape -> Element -> List PartialShape
  | p :: shapes, t :: tensors => p.widen t.shape :: widenShapes shapes tensors
  | shapes, _ => shapes

def inferShapes (first : Element) (rest : List Element) : List PartialShape :=
  rest.foldl widenShapes (first.map fun t => PartialShape.ofShape t.shape)

def firstNotAdmitted (shapes : List PartialShape) (e : Element) :
    Option (PartialShape × Tensor) :=
  (shapes.zip e).find? fun pair => !pair.1.admits pair.2.shape

def checkElements (shapes : List PartialShape) :
    Nat -> List Element -> Except SourceError Unit
  | _, [] => .ok ()
  | index, e :: rest =>
      match firstNotAdmitted shapes e with
      | some (declared, t) => .error (.notAdmitted index t.shape declared)
      | none => checkElements shapes (index + 1) rest

/-- Checks declared shapes: one for each component of the first element, and
every element admitted. -/
def checkShapes (first : Element) (rest : List Element) (shapes : List PartialShape) :
    Except SourceError Unit :=
  if shapes.length = first.length then checkElements shapes 0 (first :: rest)
  else .error (.shapeCount shapes.length first.length)

/-- A fixed list of elements with the shapes promised for them. -/
structure TensorSource where
  first : Element
  rest : List Element
  declared : Option (List PartialShape)
  declared_ok : forall shapes : List PartialShape,
    declared = some shapes -> checkShapes first rest shapes = .ok ()
  sized : Bool

namespace TensorSource

def elements (s : TensorSource) : List Element := s.first :: s.rest

def ofElements : List Element -> Except SourceError TensorSource
  | [] => .error .noElements
  | first :: rest => .ok ⟨first, rest, none, (fun _ h => nomatch h), true⟩

def declare (s : TensorSource) (shapes : List PartialShape) :
    Except SourceError TensorSource :=
  match h : checkShapes s.first s.rest shapes with
  | .error e => .error e
  | .ok () =>
      .ok
        { s with
          declared := some shapes
          declared_ok := fun _ heq => Option.some.inj heq ▸ h }

def unsized (s : TensorSource) : TensorSource := { s with sized := false }

def dtypes (s : TensorSource) : List DType := s.first.map Tensor.dtype

def shapes (s : TensorSource) : List PartialShape :=
  s.declared.getD (inferShapes s.first s.rest)

def cardinality (s : TensorSource) : Cardinality :=
  if s.sized then .finite (UInt64.ofNat s.elements.length) else .unknown

end TensorSource

end TensorPipeline
