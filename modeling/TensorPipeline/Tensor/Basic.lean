import TensorPipeline.Tensor.PartialShape

/-!
# Tensors

A tensor is a type, a shape and the stored bytes of its values in row-major
order.  Every way of building one from outside data checks that the bytes are
exactly as many as the type and the shape ask for; `Tensor.WellFormed` states
that balance.
-/

namespace TensorPipeline

inductive TensorError where
  | bytesTooLarge (dtype : DType) (shape : Shape)
  | byteCount (dtype : DType) (shape : Shape) (expected : UInt64) (actual : Nat)
  | shapeTooLarge (shape : Shape)
  | valueCount (shape : Shape) (expected : UInt64) (actual : Nat)
  | wrongType (stored requested : DType)
  | slotSize (index component : Nat) (actual slot : Nat)
deriving DecidableEq, Repr

namespace TensorError

def message : TensorError -> String
  | bytesTooLarge d s => d.name ++ " tensor of shape " ++ s.toText ++ " is too large"
  | byteCount d s expected actual =>
      d.name ++ " tensor of shape " ++ s.toText ++ " needs " ++
        toString expected.toNat ++ " bytes, got " ++ toString actual
  | shapeTooLarge s => "shape " ++ s.toText ++ " is too large"
  | valueCount s expected actual =>
      "shape " ++ s.toText ++ " holds " ++ toString expected.toNat ++
        " values, got " ++ toString actual
  | wrongType stored requested =>
      "cannot read " ++ stored.name ++ " tensor as " ++ requested.name
  | slotSize index component actual slot =>
      "element " ++ toString index ++ " of component " ++ toString component ++
        " has " ++ toString actual ++ " bytes but its batch slice has " ++ toString slot

end TensorError

structure Tensor where
  dtype : DType
  shape : Shape
  data : List UInt8
deriving DecidableEq, Repr, Inhabited

namespace Tensor

/-- The buffer has exactly the bytes that the type and the shape ask for. -/
def WellFormed (t : Tensor) : Prop :=
  (t.shape.byteSize? t.dtype).map UInt64.toNat = some t.data.length

instance (t : Tensor) : Decidable t.WellFormed :=
  inferInstanceAs (Decidable ((t.shape.byteSize? t.dtype).map UInt64.toNat = some t.data.length))

theorem WellFormed.byteSize?_eq
    {t : Tensor} (h : t.WellFormed) :
    exists bytes : UInt64,
      t.shape.byteSize? t.dtype = some bytes ∧ bytes.toNat = t.data.length :=
  Option.map_eq_some_iff.mp h

def ofBytes (dtype : DType) (shape : Shape) (data : List UInt8) :
    Except TensorError Tensor :=
  match shape.byteSize? dtype with
  | none => .error (.bytesTooLarge dtype shape)
  | some expected =>
      if data.length = expected.toNat then .ok ⟨dtype, shape, data⟩
      else .error (.byteCount dtype shape expected data.length)

def ofValues (dtype : DType) (shape : Shape) (values : List dtype.Value) :
    Except TensorError Tensor :=
  match shape.size? with
  | none => .error (.shapeTooLarge shape)
  | some expected =>
      if values.length = expected.toNat then
        .ok ⟨dtype, shape, values.flatMap dtype.encode⟩
      else .error (.valueCount shape expected values.length)

def ofScalar (dtype : DType) (value : dtype.Value) : Tensor :=
  ⟨dtype, Shape.scalar, dtype.encode value⟩

/-- The values of a tensor, read at its own type; bytes after the last whole
value are left out. -/
def storedValues (t : Tensor) : List t.dtype.Value :=
  ((pieces t.dtype.width t.data).filter fun p => p.length == t.dtype.width).map t.dtype.decode

def values (t : Tensor) (requested : DType) :
    Except TensorError (List requested.Value) :=
  if h : t.dtype = requested then .ok (h ▸ t.storedValues)
  else .error (.wrongType t.dtype requested)

end Tensor

/-- One record of a pipeline: a tensor for each component. -/
abbrev Element := List Tensor

end TensorPipeline
