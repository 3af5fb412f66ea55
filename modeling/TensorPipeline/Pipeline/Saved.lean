import TensorPipeline.Pipeline.Cursor

/-!
# Saving and restoring cursors

A cursor is saved as entries of a store under keys made of the iterators'
paths.  A batch stage whose input is used up writes a marker, and nothing below
it is saved; any other stage leaves it to its input, down to the position of
the source.  Counting and failing layers save nothing of their own.

Restoring looks for the markers from the outside in and reads the position of
the source when there is none.  A cursor is restored either newly made or in
place; in place, a failing layer keeps its count of pulls, while everything
below a batch stage is made anew.  A restore that fails changes nothing.
-/

namespace TensorPipeline

def nextKey (path : String) : String := Naming.entryKey path Naming.nextEntry

def drainedKey (path : String) : String := Naming.entryKey path Naming.drainedEntry

def ofState {α : Type} (read : Except StateError α) : Except Error α :=
  read.mapError Error.state

namespace Pipeline

def save : (p : Pipeline) -> String -> Cursor p -> Store -> Except Error Store
  | range _ _, path, cell, store =>
      let cell : Guarded Int64 := cell
      if cell.poisoned then .error (.sourcePoisoned path)
      else .ok (store.write (nextKey path) (.int cell.content))
  | tensors _, path, next, store =>
      let next : UInt64 := next
      .ok (store.write (nextKey path) (.int next.toInt64))
  | counting _ input, path, cursor, store => input.save path cursor store
  | faulty _ input, path, cursor, store => input.save path cursor.input store
  | batch _ input, path, cell, store =>
      if cell.poisoned then .error (.stagePoisoned path)
      else
        match cell.content with
        | Feed.drained => .ok (store.write (drainedKey path) (.text ""))
        | Feed.active cursor => input.save (input.pathUnder path) cursor store

mutual

def restoreNew : (p : Pipeline) -> String -> Store -> Except Error (Cursor p)
  | range _ _, path, store => do
      let next <- ofState (store.readInt (nextKey path))
      return Guarded.ofContent next
  | tensors _, path, store => ofState (store.readPosition (nextKey path))
  | counting _ input, path, store => restoreNew input path store
  | faulty _ input, path, store => do
      let cursor <- restoreInPlace input path store input.start
      return ⟨0, cursor⟩
  | batch _ input, path, store =>
      if store.contains (drainedKey path) then
        .ok (Guarded.ofContent Feed.drained)
      else do
        let cursor <- restoreNew input (input.pathUnder path) store
        return Guarded.ofContent (Feed.active cursor)

def restoreInPlace :
    (p : Pipeline) -> String -> Store -> Cursor p -> Except Error (Cursor p)
  | range _ _, path, store, cell => do
      let next <- ofState (store.readInt (nextKey path))
      let cell : Guarded Int64 := cell
      if cell.poisoned then .error (.sourcePoisoned path)
      else return Guarded.ofContent next
  | tensors _, path, store, _ => ofState (store.readPosition (nextKey path))
  | counting _ input, path, store, cursor => restoreInPlace input path store cursor
  | faulty _ input, path, store, cursor => do
      let restored <- restoreInPlace input path store cursor.input
      return ⟨cursor.pulls, restored⟩
  | batch _ input, path, store, cell =>
      if cell.poisoned then .error (.stagePoisoned path)
      else if store.contains (drainedKey path) then
        .ok (Guarded.ofContent Feed.drained)
      else do
        let cursor <- restoreNew input (input.pathUnder path) store
        return Guarded.ofContent (Feed.active cursor)

end

theorem restoreNew_range
    {start : Int64} {stop : Option Int64} {path : String} {store : Store} {next : Int64}
    (h : store.readInt (nextKey path) = .ok next) :
    restoreNew (range start stop) path store = .ok (Guarded.ofContent next) := by
  rw [restoreNew, h]
  rfl

theorem restoreNew_tensors
    {source : TensorSource} {path : String} {store : Store} {next : UInt64}
    (h : store.readPosition (nextKey path) = .ok next) :
    restoreNew (tensors source) path store = .ok next :=
  congrArg ofState h

theorem restoreNew_batch_of_drained
    {stage : Stage} {input : Pipeline} {path : String} {store : Store}
    (h : store.contains (drainedKey path) = true) :
    restoreNew (batch stage input) path store = .ok (Guarded.ofContent Feed.drained) := by
  rw [restoreNew, h]
  rfl

theorem restoreNew_batch_of_active
    {stage : Stage} {input : Pipeline} {path : String} {store : Store} {cursor : Cursor input}
    (h : store.contains (drainedKey path) = false)
    (hinput : input.restoreNew (input.pathUnder path) store = .ok cursor) :
    restoreNew (batch stage input) path store =
      .ok (Guarded.ofContent (Feed.active cursor)) := by
  rw [restoreNew, h, hinput]
  rfl

theorem restoreInPlace_range
    {start : Int64} {stop : Option Int64} {path : String} {store : Store}
    {cell : Guarded Int64} (h : cell.poisoned = false) :
    restoreInPlace (range start stop) path store cell =
      restoreNew (range start stop) path store := by
  simp only [restoreInPlace, restoreNew, h]
  rfl

theorem restoreInPlace_batch
    {stage : Stage} {input : Pipeline} {path : String} {store : Store}
    {cell : Guarded (Feed (Cursor input))} (h : cell.poisoned = false) :
    restoreInPlace (batch stage input) path store cell =
      restoreNew (batch stage input) path store := by
  simp only [restoreInPlace, restoreNew, h]
  rfl

end Pipeline

end TensorPipeline
