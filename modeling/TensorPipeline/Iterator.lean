import TensorPipeline.Model
import TensorPipeline.Pipeline.Advance
import TensorPipeline.Pipeline.Saved

/-!
# Iterators

An iterator is a pipeline, a path and a cursor.  It is made at the first
element or restored from a store, delivers elements one at a time, and can be
saved and moved to a saved position at any time.
-/

namespace TensorPipeline

structure Iterator where
  pipeline : Pipeline
  path : String
  cursor : Cursor pipeline

namespace Iterator

def startAt (p : Pipeline) (path : String) : Iterator := ⟨p, path, p.start⟩

def startUnder (p : Pipeline) (parent : String) : Iterator :=
  startAt p (p.pathUnder parent)

def restoredUnder (p : Pipeline) (parent : String) (store : Store) : Except Error Iterator := do
  let path := p.pathUnder parent
  let cursor <- p.restoreNew path store
  return ⟨p, path, cursor⟩

def restore (it : Iterator) (store : Store) : Except Error Iterator := do
  let cursor <- it.pipeline.restoreInPlace it.path store it.cursor
  return { it with cursor := cursor }

def save (it : Iterator) (store : Store) : Except Error Store :=
  it.pipeline.save it.path it.cursor store

def next (ctx : Context) (it : Iterator) (usage : Usage) :
    Except Failure (Option Element) × Iterator × Usage :=
  let step := it.pipeline.advance ctx it.path usage it.cursor
  (step.result, { it with cursor := step.cursor }, step.usage)

/-- Pulls until `limit` elements are there, the end is seen or a pull fails;
`taken` holds the elements so far, the latest first. -/
def collect (ctx : Context) :
    (limit : Nat) -> List Element -> Iterator -> Usage ->
      Except Failure (List Element) × Iterator × Usage
  | 0, taken, it, usage => (.ok taken.reverse, it, usage)
  | limit + 1, taken, it, usage =>
      match it.next ctx usage with
      | (.ok (some e), it, usage) => collect ctx limit (e :: taken) it usage
      | (.ok none, it, usage) => (.ok taken.reverse, it, usage)
      | (.error f, it, usage) => (.error f, it, usage)

/-- At most `n` elements.  Room for all of them is set aside first. -/
def take (ctx : Context) (n : Nat) (it : Iterator) (usage : Usage) :
    Except Failure (List Element) × Iterator × Usage :=
  if Stage.windowLimit < n then (.error (.crash .capacityOverflow), it, usage)
  else collect ctx n [] it usage

/-- All elements up to the end.  One pull more than there can be elements is
enough to see the end. -/
def drain (ctx : Context) (it : Iterator) (usage : Usage) :
    Except Failure (List Element) × Iterator × Usage :=
  collect ctx (it.pipeline.remaining it.cursor + 1) [] it usage

def drained? : Iterator -> Option (Except Error Bool)
  | ⟨.batch _ _, path, cell⟩ =>
      some
        (if cell.poisoned then .error (.stagePoisoned path)
        else
          match cell.content with
          | Feed.drained => .ok true
          | Feed.active _ => .ok false)
  | _ => none

def model (it : Iterator) : CostModel :=
  match it.pipeline with
  | .range _ _ => ⟨it.path, .source⟩
  | .batch stage _ => ⟨it.path, .known (Float.ofNat stage.size)⟩
  | _ => ⟨it.path, .unknown⟩

theorem restoredUnder_of_restoreNew
    {p : Pipeline} {parent : String} {store : Store} {c : Cursor p}
    (h : p.restoreNew (p.pathUnder parent) store = .ok c) :
    restoredUnder p parent store = .ok ⟨p, p.pathUnder parent, c⟩ := by
  rw [restoredUnder, h]
  rfl

theorem restoredUnder_eq_ok_iff
    {p : Pipeline} {parent : String} {store : Store} {c : Cursor p} :
    restoredUnder p parent store = .ok ⟨p, p.pathUnder parent, c⟩ <->
      p.restoreNew (p.pathUnder parent) store = .ok c := by
  refine ⟨fun h => ?_, restoredUnder_of_restoreNew⟩
  cases hnew : p.restoreNew (p.pathUnder parent) store with
  | ok d =>
      rw [restoredUnder_of_restoreNew hnew] at h
      cases h
      rfl
  | error e =>
      rw [restoredUnder, hnew] at h
      cases h

theorem restore_of_restoreInPlace
    {p : Pipeline} {path : String} {store : Store} {other c : Cursor p}
    (h : p.restoreInPlace path store other = .ok c) :
    restore ⟨p, path, other⟩ store = .ok ⟨p, path, c⟩ := by
  rw [restore, h]
  rfl

end Iterator

/-!
## Looking at batches
-/

def batchValues (component : Nat) (dtype : DType) :
    Nat -> List Element -> Except Error (List (List dtype.Value))
  | _, [] => .ok []
  | index, batch :: rest =>
      match batch[component]? with
      | none => .error (.missingComponent index component)
      | some t => do
          let values <- (t.values dtype).mapError Error.tensor
          let more <- batchValues component dtype (index + 1) rest
          return values :: more

inductive BatchDifference where
  | count
  | components (batch : Nat)
  | dtype (batch component : Nat)
  | shape (batch component : Nat)
  | bytes (batch component : Nat)
deriving DecidableEq, Repr

namespace BatchDifference

def message (d : BatchDifference) : String :=
  let place (batch component : Nat) :=
    "batch " ++ toString batch ++ " component " ++ toString component
  "assertion `left == right` failed: " ++
    match d with
    | count => "number of batches differs"
    | components batch => "batch " ++ toString batch ++ ": component count differs"
    | dtype batch component => place batch component ++ ": dtype differs"
    | shape batch component => place batch component ++ ": shape differs"
    | bytes batch component => place batch component ++ ": bytes differ"

def ofTensors? (batch component : Nat) (a b : Tensor) : Option BatchDifference :=
  if a.dtype ≠ b.dtype then some (dtype batch component)
  else if a.shape ≠ b.shape then some (shape batch component)
  else if a.data ≠ b.data then some (bytes batch component)
  else none

def ofComponents? (batch : Nat) : Nat -> Element -> Element -> Option BatchDifference
  | component, a :: as, b :: bs =>
      (ofTensors? batch component a b).or (ofComponents? batch (component + 1) as bs)
  | _, _, _ => none

def ofBatches? : Nat -> List Element -> List Element -> Option BatchDifference
  | batch, a :: as, b :: bs =>
      if a.length ≠ b.length then some (components batch)
      else (ofComponents? batch 0 a b).or (ofBatches? (batch + 1) as bs)
  | _, _, _ => none

def between? (actual expected : List Element) : Option BatchDifference :=
  if actual.length ≠ expected.length then some count
  else ofBatches? 0 actual expected

end BatchDifference

end TensorPipeline
