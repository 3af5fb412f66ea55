import TensorPipeline.Tensor.DType

/-!
# Shapes

A shape lists the dimensions of a tensor, outermost first.  Its size is the
product of the dimensions; sizes live in 64 bits, and a size that does not fit
is reported as `none`.  A zero dimension makes the size zero before any product
is formed, so an empty tensor has a size however large its other dimensions
are.
-/

namespace TensorPipeline

/-- The product of two 64-bit numbers, unless it needs more than 64 bits. -/
def checkedMul (a b : UInt64) : Option UInt64 :=
  if a.toNat * b.toNat < 0x10000000000000000 then some (a * b) else none

theorem checkedMul_eq_some_iff {a b c : UInt64} :
    checkedMul a b = some c <-> a.toNat * b.toNat = c.toNat := by
  unfold checkedMul
  constructor
  · intro h
    split at h
    · next hlt =>
        cases h
        rw [UInt64.toNat_mul, Nat.mod_eq_of_lt hlt]
    · cases h
  · intro h
    have hlt : a.toNat * b.toNat < 0x10000000000000000 := h ▸ c.toNat_lt
    rw [if_pos hlt]
    congr 1
    apply UInt64.toNat_inj.mp
    rw [UInt64.toNat_mul, Nat.mod_eq_of_lt hlt, h]

structure Shape where
  dims : List UInt64
deriving DecidableEq, Repr, Inhabited

namespace Shape

def scalar : Shape := ⟨[]⟩

def rank (s : Shape) : Nat := s.dims.length

def size? (s : Shape) : Option UInt64 :=
  if s.dims.contains 0 then some 0 else s.dims.foldlM checkedMul 1

def byteSize? (s : Shape) (d : DType) : Option UInt64 := do
  checkedMul (<- s.size?) (UInt64.ofNat d.width)

def stacked (n : UInt64) (s : Shape) : Shape := ⟨n :: s.dims⟩

def toText (s : Shape) : String :=
  "[" ++ ",".intercalate (s.dims.map fun d => toString d.toNat) ++ "]"

end Shape

end TensorPipeline
