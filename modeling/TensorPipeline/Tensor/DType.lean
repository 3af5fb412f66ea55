import TensorPipeline.Bytes

/-!
# Element types

The six types of value that a tensor can hold, the width of one value in
bytes, and the values themselves.  Floats are bit patterns throughout: a
pipeline copies them and never computes with them, so a NaN keeps its payload.

The stored form of a value is little-endian and has exactly the width of its
type, with one byte for a truth value: `0` for false, `1` for true,
and any other byte read as true.
-/

namespace TensorPipeline

inductive DType where
  | bool
  | uint8
  | int32
  | int64
  | float32
  | float64
deriving DecidableEq, Repr, Inhabited

namespace DType

def all : List DType :=
  [.bool, .uint8, .int32, .int64, .float32, .float64]

def width : DType -> Nat
  | bool => 1
  | uint8 => 1
  | int32 => 4
  | int64 => 8
  | float32 => 4
  | float64 => 8

def name : DType -> String
  | bool => "bool"
  | uint8 => "uint8"
  | int32 => "int32"
  | int64 => "int64"
  | float32 => "float"
  | float64 => "double"

theorem width_pos (d : DType) : 0 < d.width := by
  cases d <;> decide

/-- The values of a type; a float is its bit pattern. -/
def Value : DType -> Type
  | bool => Bool
  | uint8 => UInt8
  | int32 => Int32
  | int64 => Int64
  | float32 => UInt32
  | float64 => UInt64

end DType

namespace DType

def encode : (d : DType) -> d.Value -> List UInt8
  | bool, v => [bif v then 1 else 0]
  | uint8, v => [v]
  | int32, v => littleEndian 4 (Int32.toUInt32 v).toNat
  | int64, v => littleEndian 8 (Int64.toUInt64 v).toNat
  | float32, v => littleEndian 4 (UInt32.toNat v)
  | float64, v => littleEndian 8 (UInt64.toNat v)

def decode : (d : DType) -> List UInt8 -> d.Value
  | bool, bytes => !(bytes.headD 0 == (0 : UInt8))
  | uint8, bytes => bytes.headD (0 : UInt8)
  | int32, bytes => (UInt32.ofNat (ofLittleEndian bytes)).toInt32
  | int64, bytes => (UInt64.ofNat (ofLittleEndian bytes)).toInt64
  | float32, bytes => UInt32.ofNat (ofLittleEndian bytes)
  | float64, bytes => UInt64.ofNat (ofLittleEndian bytes)

@[simp] theorem length_encode (d : DType) (v : d.Value) :
    (d.encode v).length = d.width := by
  cases d with
  | bool => rfl
  | uint8 => rfl
  | int32 => exact length_littleEndian 4 _
  | int64 => exact length_littleEndian 8 _
  | float32 => exact length_littleEndian 4 _
  | float64 => exact length_littleEndian 8 _

end DType

end TensorPipeline
