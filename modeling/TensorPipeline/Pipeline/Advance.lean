import TensorPipeline.Batch.Stack
import TensorPipeline.Pipeline.Cursor

/-!
# Advancing a cursor

One pull on a pipeline gives an element, the end, or a failure, together with
the cursor after it and what it used.

A batch stage works in two phases.  Under its lock it pulls elements of its
input until it has enough of them, the input ends or the input fails; the
elements of a window that failed are lost.  After that, and without the lock,
it stacks what it has pulled.  The end of the input is remembered, so the input
is never pulled again, and a short last window is stacked or dropped.  A crash
while the lock is held leaves it poisoned.
-/

namespace TensorPipeline

structure Step (γ : Type) where
  result : Except Failure (Option Element)
  cursor : γ
  usage : Usage

inductive Pulled where
  | full (window : List Element)
  | ended (window : List Element)
  | failed (cause : Failure)

/-- Pulls up to `room` more elements with `advance`; `taken` holds those
already pulled, the latest first. -/
def pullWindow {γ : Type} (advance : Usage -> γ -> Step γ) :
    Nat -> List Element -> Usage -> γ -> Pulled × γ × Usage
  | 0, taken, usage, cursor => (.full taken.reverse, cursor, usage)
  | room + 1, taken, usage, cursor =>
      match advance usage cursor with
      | ⟨.ok (some e), cursor, usage⟩ =>
          pullWindow advance room (e :: taken) usage cursor
      | ⟨.ok none, cursor, usage⟩ => (.ended taken.reverse, cursor, usage)
      | ⟨.error f, cursor, usage⟩ => (.failed f, cursor, usage)

def Failure.poisons : Failure -> Bool
  | error _ => false
  | crash _ => true

namespace Stage

/-- The first phase of a pull on a batch stage at `path`: the elements of the
next window, which is empty once the input is used up. -/
def pull {γ : Type} (s : Stage) (path : String) (advance : Usage -> γ -> Step γ)
    (usage : Usage) (cell : Guarded (Feed γ)) :
    Except Failure (List Element) × Guarded (Feed γ) × Usage :=
  if cell.poisoned then (.error (.error (.stagePoisoned path)), cell, usage)
  else
    match cell.content with
    | .drained => (.ok [], cell, usage)
    | .active cursor =>
        if windowLimit < s.size then
          (.error (.crash .capacityOverflow), { cell with poisoned := true }, usage)
        else
          match pullWindow advance s.size [] usage cursor with
          | (.full window, cursor, usage) =>
              (.ok window, Guarded.ofContent (.active cursor), usage)
          | (.ended window, _, usage) =>
              (.ok window, Guarded.ofContent .drained, usage)
          | (.failed f, cursor, usage) =>
              (.error f, ⟨.active cursor, f.poisons⟩, usage)

/-- The second phase: a window becomes a batch, or the end if it is empty or
too short to be kept. -/
def deliver (s : Stage) (ctx : Context) (usage : Usage) (window : List Element) :
    Except Failure (Option Element) × Usage :=
  if window.isEmpty then (.ok none, usage)
  else if s.dropRemainder && window.length < s.size then (.ok none, usage)
  else
    match stack ctx s.parallelCopy usage window with
    | (.ok batch, usage) => (.ok (some batch), usage)
    | (.error f, usage) => (.error f, usage)

theorem pull_of_poisoned
    {γ : Type} {s : Stage} {path : String} {advance : Usage -> γ -> Step γ} {usage : Usage}
    {cell : Guarded (Feed γ)} (h : cell.poisoned = true) :
    s.pull path advance usage cell = (.error (.error (.stagePoisoned path)), cell, usage) := by
  rw [pull, if_pos h]

theorem pull_of_drained
    {γ : Type} (s : Stage) (path : String) (advance : Usage -> γ -> Step γ)
    (usage : Usage) :
    s.pull path advance usage (Guarded.ofContent .drained) =
      (.ok [], Guarded.ofContent .drained, usage) :=
  rfl

theorem pull_of_active
    {γ : Type} {s : Stage} (hsize : s.size ≤ windowLimit) (path : String)
    (advance : Usage -> γ -> Step γ) (usage : Usage) (cursor : γ) :
    s.pull path advance usage (Guarded.ofContent (.active cursor)) =
      match pullWindow advance s.size [] usage cursor with
      | (.full window, cursor, usage) =>
          (.ok window, Guarded.ofContent (.active cursor), usage)
      | (.ended window, _, usage) => (.ok window, Guarded.ofContent .drained, usage)
      | (.failed f, cursor, usage) => (.error f, ⟨.active cursor, f.poisons⟩, usage) := by
  unfold pull
  simp only [Guarded.ofContent, Bool.false_eq_true, if_false, if_neg (Nat.not_lt.mpr hsize)]

theorem pull_of_large
    {γ : Type} {s : Stage} (hsize : windowLimit < s.size) (path : String)
    (advance : Usage -> γ -> Step γ) (usage : Usage) (cursor : γ) :
    s.pull path advance usage (Guarded.ofContent (.active cursor)) =
      (.error (.crash .capacityOverflow), ⟨.active cursor, true⟩, usage) := by
  unfold pull
  simp only [Guarded.ofContent, Bool.false_eq_true, if_false, if_pos hsize]

theorem deliver_of_full
    {s : Stage} {window : List Element} (hfull : window.length = s.size)
    (ctx : Context) (usage : Usage) :
    (s.deliver ctx usage window).1 =
      (stack ctx s.parallelCopy usage window).1.map some := by
  have hne : window.isEmpty = false := by
    rw [List.isEmpty_eq_false_iff, ← List.length_pos_iff, hfull]
    exact s.size_pos
  have hlong : ¬ window.length < s.size := by omega
  simp only [deliver, hne, hlong, decide_false, Bool.and_false, Bool.false_eq_true, if_false]
  rcases stack ctx s.parallelCopy usage window with ⟨_ | batch, usage'⟩
  · rfl
  · rfl

theorem deliver_of_short
    {s : Stage} {window : List Element} (hshort : window.length < s.size)
    (ctx : Context) (usage : Usage) :
    (s.deliver ctx usage window).1 =
      if window.isEmpty || s.dropRemainder then .ok none
      else (stack ctx s.parallelCopy usage window).1.map some := by
  unfold deliver
  cases hempty : window.isEmpty with
  | true => rfl
  | false =>
      cases hdrop : s.dropRemainder with
      | true => simp [hshort]
      | false =>
          simp only [Bool.false_and, Bool.false_or, Bool.false_eq_true, if_false]
          rcases stack ctx s.parallelCopy usage window with ⟨_ | batch, usage'⟩
          · rfl
          · rfl

end Stage

namespace Pipeline

/-- One pull on a range at `path`.  The counter moves past an element before
the element is delivered, so the largest integer is never delivered. -/
def advanceRange (stop : Option Int64) (path : String) (usage : Usage)
    (cell : Guarded Int64) : Step (Guarded Int64) :=
  if cell.poisoned then ⟨.error (.error (.sourcePoisoned path)), cell, usage⟩
  else if stop.any fun bound => bound ≤ cell.content then ⟨.ok none, cell, usage⟩
  else if cell.content = Int64.maxValue then
    ⟨.error (.crash .counterOverflow), { cell with poisoned := true }, usage⟩
  else
    ⟨.ok (some [Tensor.ofScalar .int64 cell.content]),
      Guarded.ofContent (cell.content + 1), usage⟩

def advanceTensors (source : TensorSource) (usage : Usage) (next : UInt64) : Step UInt64 :=
  match source.elements[next.toNat]? with
  | some e => ⟨.ok (some e), next + 1, usage⟩
  | none => ⟨.ok none, next, usage⟩

def advance (ctx : Context) :
    (p : Pipeline) -> String -> Usage -> Cursor p -> Step (Cursor p)
  | range _ stop, path, usage, cell => advanceRange stop path usage cell
  | tensors source, _, usage, next => advanceTensors source usage next
  | counting tally input, path, usage, cursor =>
      input.advance ctx path (usage.bump tally) cursor
  | faulty failAt input, path, usage, cursor =>
      if cursor.pulls = failAt then
        ⟨.error (.error (.injected cursor.pulls)),
          ⟨cursor.pulls + 1, cursor.input⟩, usage⟩
      else
        let step := input.advance ctx path usage cursor.input
        ⟨step.result, ⟨cursor.pulls + 1, step.cursor⟩, step.usage⟩
  | batch stage input, path, usage, cell =>
      match stage.pull path (input.advance ctx (input.pathUnder path)) usage cell with
      | (.error f, cell, usage) => ⟨.error f, cell, usage⟩
      | (.ok window, cell, usage) =>
          let (result, usage) := stage.deliver ctx usage window
          ⟨result, cell, usage⟩

theorem advance_faulty
    (ctx : Context) (failAt : UInt64) (input : Pipeline) (path : String) (usage : Usage)
    (cursor : FaultyCursor (Cursor input)) :
    (faulty failAt input).advance ctx path usage cursor =
      if cursor.pulls = failAt then
        ⟨.error (.error (.injected cursor.pulls)), ⟨cursor.pulls + 1, cursor.input⟩, usage⟩
      else
        let step := input.advance ctx path usage cursor.input
        ⟨step.result, ⟨cursor.pulls + 1, step.cursor⟩, step.usage⟩ :=
  rfl

theorem advance_batch
    (ctx : Context) (stage : Stage) (input : Pipeline) (path : String) (usage : Usage)
    (cell : Guarded (Feed (Cursor input))) :
    (batch stage input).advance ctx path usage cell =
      match stage.pull path (input.advance ctx (input.pathUnder path)) usage cell with
      | (.error f, cell, usage) => ⟨.error f, cell, usage⟩
      | (.ok window, cell, usage) =>
          let (result, usage) := stage.deliver ctx usage window
          ⟨result, cell, usage⟩ :=
  rfl

theorem advance_batch_of_window
    {ctx : Context} {stage : Stage} {input : Pipeline} {path : String} {usage usage' : Usage}
    {cell cell' : Guarded (Feed (Cursor input))} {window : List Element}
    (h : stage.pull path (input.advance ctx (input.pathUnder path)) usage cell =
      (.ok window, cell', usage')) :
    (batch stage input).advance ctx path usage cell =
      ⟨(stage.deliver ctx usage' window).1, cell', (stage.deliver ctx usage' window).2⟩ := by
  rw [advance_batch, h]

theorem advance_batch_of_failure
    {ctx : Context} {stage : Stage} {input : Pipeline} {path : String} {usage : Usage}
    {cell : Guarded (Feed (Cursor input))} {f : Failure}
    (h : (stage.pull path (input.advance ctx (input.pathUnder path)) usage cell).1 =
      .error f) :
    ((batch stage input).advance ctx path usage cell).result = .error f := by
  rw [advance_batch]
  rcases hp : stage.pull path (input.advance ctx (input.pathUnder path)) usage cell with
    ⟨result, cell', usage'⟩
  rw [hp] at h
  cases h
  rfl

theorem advance_batch_cursor
    (ctx : Context) (stage : Stage) (input : Pipeline) (path : String) (usage : Usage)
    (cell : Guarded (Feed (Cursor input))) :
    ((batch stage input).advance ctx path usage cell).cursor =
      (stage.pull path (input.advance ctx (input.pathUnder path)) usage cell).2.1 := by
  rw [advance_batch]
  rcases stage.pull path (input.advance ctx (input.pathUnder path)) usage cell with
    ⟨_ | window, cell', usage'⟩
  · rfl
  · rfl

end Pipeline

end TensorPipeline
