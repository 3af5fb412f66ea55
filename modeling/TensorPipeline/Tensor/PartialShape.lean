import TensorPipeline.Tensor.Shape

/-!
# Partial shapes

What a pipeline knows about the shapes of its tensors before it runs: nothing
at all, or the rank together with some of the dimensions.  A partial shape
admits the concrete shapes that agree with everything it knows.
-/

namespace TensorPipeline

inductive Dim where
  | known (size : UInt64)
  | unknown
deriving DecidableEq, Repr, Inhabited

namespace Dim

def admits : Dim -> UInt64 -> Bool
  | known k, n => k == n
  | unknown, _ => true

def toText : Dim -> String
  | known k => toString k.toNat
  | unknown => "?"

def widen : Dim -> UInt64 -> Dim
  | known k, n => if k = n then known k else unknown
  | unknown, _ => unknown

end Dim

/-- What is known of a shape: `none` when not even the rank is. -/
structure PartialShape where
  dims : Option (List Dim)
deriving DecidableEq, Repr, Inhabited

namespace PartialShape

def unknownRank : PartialShape := ⟨none⟩

def ofDims (dims : List Dim) : PartialShape := ⟨some dims⟩

def ofShape (s : Shape) : PartialShape := ofDims (s.dims.map Dim.known)

/-- The dimensions of one shape followed by those of another; an unknown rank
on either side leaves the rank unknown. -/
def concat : PartialShape -> PartialShape -> PartialShape
  | ⟨some a⟩, ⟨some b⟩ => ⟨some (a ++ b)⟩
  | _, _ => unknownRank

def admits (p : PartialShape) (s : Shape) : Bool :=
  match p.dims with
  | none => true
  | some dims =>
      dims.length == s.rank && (dims.zip s.dims).all fun pair => pair.1.admits pair.2

def widen (p : PartialShape) (s : Shape) : PartialShape :=
  match p.dims with
  | none => unknownRank
  | some dims =>
      if dims.length = s.rank then ofDims (List.zipWith Dim.widen dims s.dims)
      else unknownRank

def rank? (p : PartialShape) : Option Nat := p.dims.map List.length

def toText (p : PartialShape) : String :=
  match p.dims with
  | none => "<unknown>"
  | some dims => "[" ++ ",".intercalate (dims.map Dim.toText) ++ "]"

end PartialShape

end TensorPipeline
