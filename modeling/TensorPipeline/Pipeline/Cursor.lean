import TensorPipeline.Error
import TensorPipeline.Pipeline.Basic

/-!
# Cursors

A cursor is a position in a pipeline: one position for every layer that has
one.  Ranges and batch stages keep theirs behind a lock, which a crash leaves
poisoned for good.  A batch stage holds the cursor of its input until the input
reports its end, and nothing after that.

The type of a cursor follows the layers of its pipeline, so a cursor always
fits the pipeline that it belongs to.
-/

namespace TensorPipeline

structure Guarded (α : Type) where
  content : α
  poisoned : Bool

def Guarded.ofContent {α : Type} (content : α) : Guarded α := ⟨content, false⟩

/-- The input of a batch stage: a cursor, or nothing once it is used up. -/
inductive Feed (α : Type) where
  | active (cursor : α)
  | drained

structure FaultyCursor (α : Type) where
  pulls : UInt64
  input : α

def Cursor : Pipeline -> Type
  | .range _ _ => Guarded Int64
  | .tensors _ => UInt64
  | .counting _ input => Cursor input
  | .faulty _ input => FaultyCursor (Cursor input)
  | .batch _ input => Guarded (Feed (Cursor input))

namespace Pipeline

def start : (p : Pipeline) -> Cursor p
  | range first _ => Guarded.ofContent first
  | tensors _ => (0 : UInt64)
  | counting _ input => input.start
  | faulty _ input => ⟨0, input.start⟩
  | batch _ input => Guarded.ofContent (Feed.active input.start)

/-- A bound on the elements that a cursor can still deliver: no layer delivers
more than its input does, and a range cannot count past the largest integer. -/
def remaining : (p : Pipeline) -> Cursor p -> Nat
  | range _ stop, cell =>
      let next : Int64 := cell.content
      ((stop.map Int64.toInt).getD 0x8000000000000000 - next.toInt).toNat
  | tensors source, (next : UInt64) => source.elements.length - next.toNat
  | counting _ input, cursor => input.remaining cursor
  | faulty _ input, cursor => input.remaining cursor.input
  | batch _ input, cell =>
      match cell.content with
      | Feed.active cursor => input.remaining cursor
      | Feed.drained => 0

end Pipeline

end TensorPipeline
