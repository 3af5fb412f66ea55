import TensorPipeline.Error
import TensorPipeline.Tensor.Allocation

/-!
# Stacking

The elements of a window become one batch: for each component a tensor whose
outermost dimension counts the elements, and whose buffer is cut into one slot
for each element.  All elements must have as many components as the first, and
in each component its shape and its type.

The components are stacked one after another and the first one that fails
decides the error.  Within a component the buffer is requested first; then a
shape that differs stops the work at once, while a type that differs is noted
and the other copies go on, the first one noted being the error in the end.
Copies may run in turn or be handed to a pool, which runs those handed out
before a shape that differs, in an order of its own.
-/

namespace TensorPipeline

def copyToSlot (component : Nat) (dtype : DType) (index : Nat) (t : Tensor)
    (slot : List UInt8) : Except Error (List UInt8) :=
  if t.dtype ≠ dtype then .error (.typeMismatch component index dtype t.dtype)
  else if t.data.length ≠ slot.length then
    .error (.tensor (.slotSize index component t.data.length slot.length))
  else .ok t.data

abbrev Placement := List (Tensor × List UInt8)

structure Copied where
  slots : List (List UInt8)
  noted : Option Error

/-- Runs the copies from number `index` on in turn; `done` holds the slots
already passed, the latest first. -/
def copyInTurn (component : Nat) (dtype : DType) (shape : Shape) :
    Nat -> Placement -> List (List UInt8) -> Option Error -> Except Error Copied
  | _, [], done, noted => .ok ⟨done.reverse, noted⟩
  | index, (t, slot) :: rest, done, noted =>
      if t.shape ≠ shape then .error (.shapeMismatch component shape index t.shape)
      else
        match copyToSlot component dtype index t slot with
        | .ok bytes => copyInTurn component dtype shape (index + 1) rest (bytes :: done) noted
        | .error e =>
            copyInTurn component dtype shape (index + 1) rest (slot :: done) (noted.or (some e))

def runCopy (component : Nat) (dtype : DType) (placement : Array (Tensor × List UInt8))
    (state : Array (List UInt8) × Option Error) (index : Nat) :
    Array (List UInt8) × Option Error :=
  match placement[index]? with
  | none => state
  | some (t, slot) =>
      match copyToSlot component dtype index t slot with
      | .ok bytes => (state.1.setIfInBounds index bytes, state.2)
      | .error e => (state.1, state.2.or (some e))

/-- Hands the copies out and runs them in the order that `order` gives for
their number. -/
def copyAtOnce (component : Nat) (dtype : DType) (shape : Shape) (order : Nat -> List Nat)
    (placement : Placement) : Except Error Copied :=
  let started := placement.takeWhile fun pair => pair.1.shape = shape
  let slots := (placement.map Prod.snd).toArray
  let state :=
    (order started.length).foldl (runCopy component dtype placement.toArray) (slots, none)
  match placement[started.length]? with
  | some (t, _) => .error (.shapeMismatch component shape started.length t.shape)
  | none => .ok ⟨state.1.toList, state.2⟩

def cutSlots (width : Nat) (buffer : List UInt8) : Except Crash (List (List UInt8)) :=
  if width = 0 then .error .emptySlot else .ok (pieces width buffer)

/-- The slots of a buffer for `n` elements; slots of no bytes need no buffer. -/
def slotsOf (n width : Nat) (buffer : List UInt8) : Except Crash (List (List UInt8)) :=
  if width = 0 then .ok (List.replicate n []) else cutSlots width buffer

def fillBuffer (ctx : Context) (earlier : List UInt64) (parallel : Bool) (component : Nat)
    (first : Tensor) (column : List Tensor) (batchShape : Shape) (width : Nat)
    (buffer : List UInt8) : Except Failure Tensor :=
  match slotsOf column.length width buffer with
  | .error c => .error (.crash c)
  | .ok slots =>
      let copied :=
        if parallel then
          copyAtOnce component first.dtype first.shape (ctx.pool.schedule.order earlier)
            (column.zip slots)
        else copyInTurn component first.dtype first.shape 0 (column.zip slots) [] none
      match copied with
      | .error e => .error (.error e)
      | .ok ⟨_, some e⟩ => .error (.error e)
      | .ok ⟨slots, none⟩ =>
          .ok ⟨first.dtype, batchShape, if width = 0 then buffer else slots.flatten⟩

def stackColumn (ctx : Context) (parallel : Bool) (component : Nat) (usage : Usage) :
    List Tensor -> Except Failure Tensor × Usage
  | [] => (.error (.crash .emptyWindow), usage)
  | first :: rest =>
      let column := first :: rest
      let batchShape := first.shape.stacked (UInt64.ofNat column.length)
      match batchShape.byteSize? first.dtype, first.shape.byteSize? first.dtype with
      | some bytes, some width =>
          match ctx.allocate usage bytes with
          | (none, usage) => (.error (.error (.exhausted component bytes)), usage)
          | (some buffer, usage) =>
              (fillBuffer ctx usage.requests parallel component first column batchShape
                  width.toNat buffer,
                usage)
      | _, _ => (.error (.error (.exhausted component 0xffffffffffffffff)), usage)

def stackColumns (ctx : Context) (parallel : Bool) :
    Nat -> Usage -> List (List Tensor) -> Except Failure Element × Usage
  | _, usage, [] => (.ok [], usage)
  | component, usage, column :: rest =>
      match stackColumn ctx parallel component usage column with
      | (.error f, usage) => (.error f, usage)
      | (.ok t, usage) =>
          match stackColumns ctx parallel (component + 1) usage rest with
          | (.error f, usage) => (.error f, usage)
          | (.ok batch, usage) => (.ok (t :: batch), usage)

def firstOtherCount (expected : Nat) : Nat -> List Element -> Option (Nat × Nat)
  | _, [] => none
  | index, e :: rest =>
      if e.length = expected then firstOtherCount expected (index + 1) rest
      else some (index, e.length)

def columns (n : Nat) (window : List Element) : List (List Tensor) :=
  (List.range n).map fun c => window.filterMap fun e => e[c]?

def stack (ctx : Context) (parallel : Bool) (usage : Usage) :
    List Element -> Except Failure Element × Usage
  | [] => (.error (.crash .emptyWindow), usage)
  | first :: rest =>
      let window := first :: rest
      match firstOtherCount first.length 0 window with
      | some (index, actual) =>
          (.error (.error (.componentCount first.length index actual)), usage)
      | none => stackColumns ctx parallel 0 usage (columns first.length window)

/-!
## What each step comes to
-/

section

variable {ctx : Context} {parallel : Bool} {component : Nat} {usage usage' : Usage}

theorem stackColumn_cons (first : Tensor) (rest : List Tensor) :
    stackColumn ctx parallel component usage (first :: rest) =
      match (first.shape.stacked (UInt64.ofNat (first :: rest).length)).byteSize? first.dtype,
        first.shape.byteSize? first.dtype with
      | some bytes, some width =>
          match ctx.allocator.serve usage.requests bytes with
          | none => (.error (.error (.exhausted component bytes)), usage.request bytes)
          | some buffer =>
              (fillBuffer ctx (usage.request bytes).requests parallel component first
                  (first :: rest) (first.shape.stacked (UInt64.ofNat (first :: rest).length))
                  width.toNat buffer,
                usage.request bytes)
      | _, _ => (.error (.error (.exhausted component 0xffffffffffffffff)), usage) := by
  unfold stackColumn Context.allocate
  simp only
  split
  · split <;> simp_all
  · rfl

theorem stackColumns_of_error
    {column : List Tensor} {f : Failure}
    (h : stackColumn ctx parallel component usage column = (.error f, usage'))
    (rest : List (List Tensor)) :
    stackColumns ctx parallel component usage (column :: rest) = (.error f, usage') := by
  rw [stackColumns, h]

theorem stackColumns_of_ok
    {column : List Tensor} {t : Tensor}
    (h : stackColumn ctx parallel component usage column = (.ok t, usage'))
    (rest : List (List Tensor)) :
    stackColumns ctx parallel component usage (column :: rest) =
      ((stackColumns ctx parallel (component + 1) usage' rest).1.map (t :: ·),
        (stackColumns ctx parallel (component + 1) usage' rest).2) := by
  rw [stackColumns, h]
  simp only
  rcases stackColumns ctx parallel (component + 1) usage' rest with ⟨_ | batch, usage''⟩
  · rfl
  · rfl

theorem stack_of_other_count
    {first : Element} {rest : List Element} {index actual : Nat}
    (h : firstOtherCount first.length 0 (first :: rest) = some (index, actual)) :
    stack ctx parallel usage (first :: rest) =
      (.error (.error (.componentCount first.length index actual)), usage) := by
  simp only [stack, h]

theorem stack_of_equal_counts
    {first : Element} {rest : List Element}
    (h : firstOtherCount first.length 0 (first :: rest) = none) :
    stack ctx parallel usage (first :: rest) =
      stackColumns ctx parallel 0 usage (columns first.length (first :: rest)) := by
  simp only [stack, h]

end

end TensorPipeline
