import TensorPipeline.Tensor.Basic
import TensorPipeline.Usage

/-!
# Allocated tensors

A tensor whose buffer comes from the allocator.  No request is made for a shape
whose size does not fit.
-/

namespace TensorPipeline
namespace Tensor

def allocate (ctx : Context) (usage : Usage) (dtype : DType) (shape : Shape) :
    Option Tensor × Usage :=
  match shape.byteSize? dtype with
  | none => (none, usage)
  | some bytes =>
      let (buffer, usage) := ctx.allocate usage bytes
      (buffer.map fun data => ⟨dtype, shape, data⟩, usage)

end Tensor
end TensorPipeline
