import TensorPipeline.Proofs.Resumption

/-!
# Restoring from any store

What a store says of an iterator is read off its keys alone: the outermost batch
stage whose marker is there, whatever stands under it, and if there is none the
position under the key of the source.  Both ways of restoring lead exactly
there, and fail exactly when the store says nothing; what lies below a stage
that is used up plays no part.

A cursor is pinned down by what can be seen of it: where it stands, and the
pulls that its failing layers have counted.  Layers made anew have counted none,
those around the outermost batch stage keep their count when they are restored
in place, so restoring pulls nothing.
-/

namespace TensorPipeline

/-- Where a cursor stands: the number of the outermost batch stage that is used
up, counted from the outside, and if there is none the position of the source. -/
inductive Standing where
  | drained (level : Nat)
  | reading (position : Int64)
deriving DecidableEq, Repr

def Standing.deeper : Standing -> Standing
  | drained level => drained (level + 1)
  | reading position => reading position

theorem Standing.deeper_inj {a b : Standing} (h : a.deeper = b.deeper) : a = b := by
  cases a with
  | drained level =>
      cases b with
      | drained level' =>
          cases h
          rfl
      | reading position => cases h
  | reading position =>
      cases b with
      | drained level => cases h
      | reading position' =>
          cases h
          rfl

theorem Standing.deeper_ne_drained_zero (a : Standing) : a.deeper ≠ drained 0 := by
  intro h
  cases a with
  | drained level => cases h
  | reading position => cases h

namespace Pipeline

/-!
## What can be seen of a cursor
-/

def standing : (p : Pipeline) -> Cursor p -> Standing
  | range _ _, cell =>
      let cell : Guarded Int64 := cell
      .reading cell.content
  | tensors _, next =>
      let next : UInt64 := next
      .reading next.toInt64
  | counting _ input, cursor => input.standing cursor
  | faulty _ input, cursor => input.standing cursor.input
  | batch _ input, cell =>
      match cell.content with
      | Feed.drained => .drained 0
      | Feed.active cursor => (input.standing cursor).deeper

def counts : (p : Pipeline) -> Cursor p -> List UInt64
  | range _ _, _ => []
  | tensors _, _ => []
  | counting _ input, cursor => input.counts cursor
  | faulty _ input, cursor => cursor.pulls :: input.counts cursor.input
  | batch _ input, cell =>
      match cell.content with
      | Feed.drained => []
      | Feed.active cursor => input.counts cursor

def outerCounts : (p : Pipeline) -> Cursor p -> List UInt64
  | range _ _, _ => []
  | tensors _, _ => []
  | counting _ input, cursor => input.outerCounts cursor
  | faulty _ input, cursor => cursor.pulls :: input.outerCounts cursor.input
  | batch _ _, _ => []

def Unpoisoned : (p : Pipeline) -> Cursor p -> Prop
  | range _ _, cell => cell.poisoned = false
  | tensors _, _ => True
  | counting _ input, cursor => input.Unpoisoned cursor
  | faulty _ input, cursor => input.Unpoisoned cursor.input
  | batch _ input, cell => cell.poisoned = false ∧ cell.content.Holds input.Unpoisoned

theorem unpoisoned_eq (p : Pipeline) : p.Unpoisoned = p.SoundAt fun _ _ => True := by
  induction p with
  | range first stop => rfl
  | tensors source => rfl
  | counting tally input ih => exact ih
  | faulty failAt input ih => exact funext fun cursor => congrFun ih cursor.input
  | batch stage input ih =>
      funext cell
      rw [Unpoisoned, SoundAt, ih]

theorem unpoisoned_start (p : Pipeline) : p.Unpoisoned p.start := by
  rw [unpoisoned_eq]
  exact soundAt_start (fun _ => trivial) p

theorem advance_keeps_unpoisoned (ctx : Context) (p : Pipeline) (path : String) :
    Keeps p.Unpoisoned (p.advance ctx path) := by
  rw [unpoisoned_eq]
  exact advance_keeps_soundAt (fun _ _ _ _ => trivial) ctx p path

theorem length_counts_eq
    {p : Pipeline} {c d : Cursor p} (h : p.standing c = p.standing d) :
    (p.counts c).length = (p.counts d).length := by
  induction p with
  | range first stop => rfl
  | tensors source => rfl
  | counting tally input ih => exact ih h
  | faulty failAt input ih => exact congrArg (· + 1) (ih h)
  | batch stage input ih =>
      rcases c with ⟨feed, poisoned⟩
      rcases d with ⟨feed', poisoned'⟩
      cases feed with
      | drained =>
          cases feed' with
          | drained => rfl
          | active d => exact absurd h.symm (Standing.deeper_ne_drained_zero _)
      | active c =>
          cases feed' with
          | drained => exact absurd h (Standing.deeper_ne_drained_zero _)
          | active d => exact ih (Standing.deeper_inj h)

theorem eq_of_standing_eq
    {p : Pipeline} {c d : Cursor p} (hstanding : p.standing c = p.standing d)
    (hcounts : p.counts c = p.counts d) (hc : p.Unpoisoned c) (hd : p.Unpoisoned d) :
    c = d := by
  induction p with
  | range first stop =>
      rcases c with ⟨next, poisoned⟩
      rcases d with ⟨next', poisoned'⟩
      cases hc
      cases hd
      cases hstanding
      rfl
  | tensors source =>
      have hposition : UInt64.toInt64 c = UInt64.toInt64 d := Standing.reading.inj hstanding
      rw [← UInt64.toUInt64_toInt64 c, hposition, UInt64.toUInt64_toInt64 d]
  | counting tally input ih => exact ih hstanding hcounts hc hd
  | faulty failAt input ih =>
      rcases c with ⟨pulls, c⟩
      rcases d with ⟨pulls', d⟩
      rcases List.cons.inj hcounts with ⟨hpulls, hcounts⟩
      cases hpulls
      cases ih hstanding hcounts hc hd
      rfl
  | batch stage input ih =>
      rcases c with ⟨feed, poisoned⟩
      rcases d with ⟨feed', poisoned'⟩
      rcases hc with ⟨hpoisoned, hc⟩
      rcases hd with ⟨hpoisoned', hd⟩
      cases hpoisoned
      cases hpoisoned'
      cases feed with
      | drained =>
          cases feed' with
          | drained => rfl
          | active d => exact absurd hstanding.symm (Standing.deeper_ne_drained_zero _)
      | active c =>
          cases feed' with
          | drained => exact absurd hstanding (Standing.deeper_ne_drained_zero _)
          | active d =>
              cases ih (Standing.deeper_inj hstanding) hcounts hc hd
              rfl

/-- A cursor restored to a place: no lock is poisoned, some counts are kept from
before, and every other failing layer has counted nothing. -/
structure RestoredTo (p : Pipeline) (place : Standing) (kept : List UInt64)
    (c : Cursor p) : Prop where
  standing_eq : p.standing c = place
  counts_eq : exists n : Nat, p.counts c = kept ++ List.replicate n 0
  unpoisoned : p.Unpoisoned c

theorem RestoredTo.unique
    {p : Pipeline} {place : Standing} {kept : List UInt64} {c d : Cursor p}
    (hc : p.RestoredTo place kept c) (hd : p.RestoredTo place kept d) : c = d := by
  have hstanding : p.standing c = p.standing d := hc.standing_eq.trans hd.standing_eq.symm
  have hlength := length_counts_eq hstanding
  rcases hc.counts_eq with ⟨n, hn⟩
  rcases hd.counts_eq with ⟨m, hm⟩
  have hcounts : p.counts c = p.counts d := by
    rw [hn, hm, List.length_append, List.length_append, List.length_replicate,
      List.length_replicate] at hlength
    rw [hn, hm, Nat.add_left_cancel hlength]
  exact eq_of_standing_eq hstanding hcounts hc.unpoisoned hd.unpoisoned

/-!
## What a store says
-/

def markers : Pipeline -> String -> List String
  | range _ _, _ => []
  | tensors _, _ => []
  | counting _ input, path => input.markers path
  | faulty _ input, path => input.markers path
  | batch _ input, path => drainedKey path :: input.markers (input.pathUnder path)

def sourceKey : Pipeline -> String -> String
  | range _ _, path => nextKey path
  | tensors _, path => nextKey path
  | counting _ input, path => input.sourceKey path
  | faulty _ input, path => input.sourceKey path
  | batch _ input, path => input.sourceKey (input.pathUnder path)

def admitsPosition : Pipeline -> Int64 -> Bool
  | range _ _, _ => true
  | tensors _, position => 0 ≤ position
  | counting _ input, position => input.admitsPosition position
  | faulty _ input, position => input.admitsPosition position
  | batch _ input, position => input.admitsPosition position

def sourcePlace (p : Pipeline) (key : String) : Option StateValue -> Except StateError Standing
  | none => .error (.missing key)
  | some (.text found) => .error (.notInteger found)
  | some (.int position) =>
      if p.admitsPosition position then .ok (.reading position)
      else .error (.negativePosition position)

/-- Where a store says that the iterator at a path stands. -/
def recorded (p : Pipeline) (path : String) (store : Store) : Except StateError Standing :=
  match (p.markers path).findIdx? store.contains with
  | some level => .ok (.drained level)
  | none => p.sourcePlace (p.sourceKey path) (store.get? (p.sourceKey path))

theorem map_deeper_sourcePlace (p : Pipeline) (key : String) (entry : Option StateValue) :
    (p.sourcePlace key entry).map Standing.deeper = p.sourcePlace key entry := by
  cases entry with
  | none => rfl
  | some value =>
      cases value with
      | text found => rfl
      | int position =>
          simp only [sourcePlace]
          split
          · rfl
          · rfl

theorem recorded_batch_of_drained
    {stage : Stage} {input : Pipeline} {path : String} {store : Store}
    (h : store.contains (drainedKey path) = true) :
    (batch stage input).recorded path store = .ok (.drained 0) := by
  unfold recorded
  rw [markers, List.findIdx?_cons, h]
  rfl

theorem recorded_batch_of_active
    {stage : Stage} {input : Pipeline} {path : String} {store : Store}
    (h : store.contains (drainedKey path) = false) :
    (batch stage input).recorded path store =
      (input.recorded (input.pathUnder path) store).map Standing.deeper := by
  unfold recorded
  rw [markers, List.findIdx?_cons, h]
  simp only [Bool.false_eq_true, if_false]
  cases (input.markers (input.pathUnder path)).findIdx? store.contains with
  | some level => rfl
  | none => exact (input.map_deeper_sourcePlace _ _).symm

/-!
## Restoring leads there
-/

inductive Leads (p : Pipeline) (kept : List UInt64) :
    Except StateError Standing -> Except Error (Cursor p) -> Prop where
  | restored {place : Standing} {c : Cursor p} :
      p.RestoredTo place kept c -> Leads p kept (.ok place) (.ok c)
  | refused (e : StateError) : Leads p kept (.error e) (.error (.state e))

section Results

variable {p : Pipeline} {kept : List UInt64} {result result' : Except Error (Cursor p)}

theorem Leads.of_ok
    {place : Standing} (h : p.Leads kept (.ok place) result) :
    exists c : Cursor p, result = .ok c ∧ p.RestoredTo place kept c := by
  cases h with
  | restored hc => exact ⟨_, rfl, hc⟩

theorem Leads.of_error
    {e : StateError} (h : p.Leads kept (.error e) result) : result = .error (.state e) := by
  cases h with
  | refused e => rfl

theorem Leads.unique
    {said : Except StateError Standing} (h : p.Leads kept said result)
    (h' : p.Leads kept said result') : result = result' := by
  cases said with
  | ok place =>
      rcases h.of_ok with ⟨c, hc, hplace⟩
      rcases h'.of_ok with ⟨d, hd, hplace'⟩
      rw [hc, hd, hplace.unique hplace']
  | error e => rw [h.of_error, h'.of_error]

end Results

theorem unlocked_start (p : Pipeline) : p.Unlocked p.start := by
  induction p with
  | range first stop => rfl
  | tensors source => trivial
  | counting tally input ih => exact ih
  | faulty failAt input ih => exact ih
  | batch stage input ih => rfl

theorem outerCounts_start (p : Pipeline) :
    exists n : Nat, p.outerCounts p.start = List.replicate n 0 := by
  induction p with
  | range first stop => exact ⟨0, rfl⟩
  | tensors source => exact ⟨0, rfl⟩
  | counting tally input ih => exact ih
  | faulty failAt input ih =>
      rcases ih with ⟨n, hn⟩
      exact ⟨n + 1, congrArg (0 :: ·) hn⟩
  | batch stage input ih => exact ⟨0, rfl⟩

theorem leads_range
    (start : Int64) (stop : Option Int64) (path : String) (store : Store) :
    (range start stop).Leads [] ((range start stop).recorded path store)
      (restoreNew (range start stop) path store) := by
  have hrecorded : (range start stop).recorded path store =
      (range start stop).sourcePlace (nextKey path) (store.get? (nextKey path)) := rfl
  rw [hrecorded, restoreNew, Store.readInt, Store.read]
  cases store.get? (nextKey path) with
  | none => exact Leads.refused _
  | some value =>
      cases value with
      | text found => exact Leads.refused _
      | int position => exact Leads.restored ⟨rfl, ⟨0, rfl⟩, rfl⟩

theorem leads_tensors (source : TensorSource) (path : String) (store : Store) :
    (tensors source).Leads [] ((tensors source).recorded path store)
      (restoreNew (tensors source) path store) := by
  have hrecorded : (tensors source).recorded path store =
      (tensors source).sourcePlace (nextKey path) (store.get? (nextKey path)) := rfl
  rw [hrecorded, restoreNew, Store.readPosition, Store.readInt, Store.read]
  cases store.get? (nextKey path) with
  | none => exact Leads.refused _
  | some value =>
      cases value with
      | text found => exact Leads.refused _
      | int position =>
          show (tensors source).Leads []
            (if (decide (0 ≤ position)) = true then .ok (.reading position)
              else .error (.negativePosition position))
            (ofState (if position < 0 then .error (.negativePosition position)
              else .ok position.toUInt64))
          by_cases hnegative : position < 0
          · have hnot : ¬ decide (0 ≤ position) = true := by
              rw [decide_eq_true_eq, Int64.not_le]
              exact hnegative
            rw [if_pos hnegative, if_neg hnot]
            exact Leads.refused _
          · have hle : decide (0 ≤ position) = true := by
              rw [decide_eq_true_eq]
              exact Int64.not_lt.mp hnegative
            rw [if_neg hnegative, if_pos hle]
            refine Leads.restored ⟨?_, ⟨0, rfl⟩, trivial⟩
            exact congrArg Standing.reading (Int64.toInt64_toUInt64 position)

section Layers

variable {input : Pipeline} {kept : List UInt64} {said : Except StateError Standing}
  {result : Except Error (Cursor input)}

theorem Leads.counting (h : input.Leads kept said result) (tally : Nat) :
    (counting tally input).Leads kept said result := by
  cases h with
  | restored hc => exact Leads.restored ⟨hc.standing_eq, hc.counts_eq, hc.unpoisoned⟩
  | refused e => exact Leads.refused e

theorem Leads.faulty
    (h : input.Leads kept said result) (failAt pulls : UInt64) :
    (faulty failAt input).Leads (pulls :: kept) said
      (result.map fun c => (⟨pulls, c⟩ : FaultyCursor (Cursor input))) := by
  cases h with
  | restored hc =>
      rcases hc.counts_eq with ⟨n, hn⟩
      exact Leads.restored ⟨hc.standing_eq, ⟨n, congrArg (pulls :: ·) hn⟩, hc.unpoisoned⟩
  | refused e => exact Leads.refused e

theorem Leads.batch
    (h : input.Leads [] said result) (stage : Stage) :
    (batch stage input).Leads [] (said.map Standing.deeper)
      (result.map fun c => Guarded.ofContent (Feed.active c)) := by
  cases h with
  | restored hc =>
      exact Leads.restored ⟨congrArg Standing.deeper hc.standing_eq, hc.counts_eq,
        rfl, hc.unpoisoned⟩
  | refused e => exact Leads.refused e

theorem Leads.of_zeros
    {n : Nat} (h : input.Leads (List.replicate n 0) said result) :
    input.Leads [] said result := by
  cases h with
  | restored hc =>
      rcases hc.counts_eq with ⟨m, hm⟩
      rw [List.replicate_append_replicate] at hm
      exact Leads.restored ⟨hc.standing_eq, ⟨n + m, hm⟩, hc.unpoisoned⟩
  | refused e => exact Leads.refused e

end Layers

/-- Both ways of restoring at once: a failing layer is restored by making it
anew and then moving it in place. -/
theorem leads (p : Pipeline) (path : String) (store : Store) :
    p.Leads [] (p.recorded path store) (p.restoreNew path store) ∧
      forall other : Cursor p, p.Unlocked other ->
        p.Leads (p.outerCounts other) (p.recorded path store)
          (p.restoreInPlace path store other) := by
  induction p generalizing path with
  | range start stop =>
      have hnew := leads_range start stop path store
      constructor
      · exact hnew
      · intro other hother
        rw [restoreInPlace_range hother]
        exact hnew
  | tensors source =>
      have hnew := leads_tensors source path store
      constructor
      · exact hnew
      · intro other _
        exact hnew
  | counting tally input ih =>
      rcases ih path with ⟨hnew, hplace⟩
      constructor
      · exact hnew.counting tally
      · intro other hother
        exact (hplace other hother).counting tally
  | faulty failAt input ih =>
      have hplace := (ih path).2
      constructor
      · rcases input.outerCounts_start with ⟨n, hn⟩
        have hstart := hplace input.start input.unlocked_start
        rw [hn] at hstart
        have hlayer := hstart.faulty failAt 0
        rw [← List.replicate_succ] at hlayer
        exact hlayer.of_zeros
      · intro other hother
        exact (hplace other.input hother).faulty failAt other.pulls
  | batch stage input ih =>
      have hnew : (batch stage input).Leads [] ((batch stage input).recorded path store)
          (restoreNew (batch stage input) path store) := by
        cases hdrained : store.contains (drainedKey path) with
        | true =>
            rw [recorded_batch_of_drained hdrained, restoreNew_batch_of_drained hdrained]
            exact Leads.restored ⟨rfl, ⟨0, rfl⟩, rfl, trivial⟩
        | false =>
            have hlayer := (ih (input.pathUnder path)).1.batch stage
            rw [recorded_batch_of_active hdrained, restoreNew, hdrained]
            exact hlayer
      constructor
      · exact hnew
      · intro other hother
        rw [restoreInPlace_batch hother]
        exact hnew

/-!
## In place, write by write

A layer is moved by overwriting what it holds.  Each does so only after all that
can fail has been done, so nothing has to be undone: the writes leave either the
restored cursor or the one that was there.
-/

/-- What is left of a cursor after moving it all at once or not at all. -/
def settled {γ : Type} (before : γ) : Except Error γ -> Except Error Unit × γ
  | .ok after => (.ok (), after)
  | .error e => (.error e, before)

def overwrite :
    (p : Pipeline) -> String -> Store -> Cursor p -> Except Error Unit × Cursor p
  | range _ _, path, store, cell =>
      let cell : Guarded Int64 := cell
      match ofState (store.readInt (nextKey path)) with
      | .error e => (.error e, cell)
      | .ok next =>
          if cell.poisoned then (.error (.sourcePoisoned path), cell)
          else (.ok (), Guarded.ofContent next)
  | tensors _, path, store, next =>
      match ofState (store.readPosition (nextKey path)) with
      | .error e => (.error e, next)
      | .ok position => (.ok (), position)
  | counting _ input, path, store, cursor => input.overwrite path store cursor
  | faulty _ input, path, store, cursor =>
      let (result, moved) := input.overwrite path store cursor.input
      (result, ⟨cursor.pulls, moved⟩)
  | batch _ input, path, store, cell =>
      if cell.poisoned then (.error (.stagePoisoned path), cell)
      else if store.contains (drainedKey path) then (.ok (), Guarded.ofContent Feed.drained)
      else
        match restoreNew input (input.pathUnder path) store with
        | .error e => (.error e, cell)
        | .ok cursor => (.ok (), Guarded.ofContent (Feed.active cursor))

theorem overwrite_eq
    (p : Pipeline) (path : String) (store : Store) (other : Cursor p) :
    p.overwrite path store other = settled other (p.restoreInPlace path store other) := by
  induction p generalizing path with
  | range start stop =>
      unfold overwrite restoreInPlace
      cases ofState (store.readInt (nextKey path)) with
      | error e => rfl
      | ok next =>
          rcases other with ⟨content, poisoned⟩
          cases poisoned with
          | true => rfl
          | false => rfl
  | tensors source =>
      have hplace : restoreInPlace (tensors source) path store other =
          (ofState (store.readPosition (nextKey path)) : Except Error UInt64) := rfl
      rw [hplace, overwrite]
      cases (ofState (store.readPosition (nextKey path)) : Except Error UInt64) with
      | error e => rfl
      | ok position => rfl
  | counting tally input ih =>
      rw [overwrite, restoreInPlace]
      exact ih path other
  | faulty failAt input ih =>
      rw [overwrite, restoreInPlace, ih path other.input]
      cases input.restoreInPlace path store other.input with
      | error e => rfl
      | ok c => rfl
  | batch stage input ih =>
      unfold overwrite restoreInPlace
      rcases other with ⟨feed, poisoned⟩
      cases poisoned with
      | true => rfl
      | false =>
          cases store.contains (drainedKey path) with
          | true => rfl
          | false =>
              simp only [Bool.false_eq_true, if_false]
              cases input.restoreNew (input.pathUnder path) store with
              | error e => rfl
              | ok c => rfl

theorem recorded_eq_drained_of_agree
    {p : Pipeline} {path : String} {store store' : Store} {level : Nat}
    (h : p.recorded path store = .ok (.drained level))
    (hagree : forall key : String, key ∈ (p.markers path).take (level + 1) ->
      store'.contains key = store.contains key) :
    p.recorded path store' = .ok (.drained level) := by
  have hfound : (p.markers path).findIdx? store.contains = some level := by
    unfold recorded at h
    cases hfind : (p.markers path).findIdx? store.contains with
    | some found =>
        rw [hfind] at h
        cases h
        rfl
    | none =>
        rw [hfind] at h
        cases hentry : store.get? (p.sourceKey path) with
        | none =>
            rw [hentry] at h
            cases h
        | some value =>
            rw [hentry] at h
            cases value with
            | text found => cases h
            | int position =>
                simp only [sourcePlace] at h
                split at h
                · cases h
                · cases h
  rcases List.findIdx?_eq_some_iff_getElem.mp hfound with ⟨hlt, hmarker, hbefore⟩
  have hsame (i : Nat) (hi : i ≤ level) (hlength : i < (p.markers path).length) :
      store'.contains (p.markers path)[i] = store.contains (p.markers path)[i] := by
    apply hagree
    rw [List.mem_take_iff_getElem]
    exact ⟨i, by omega, rfl⟩
  have hfound' : (p.markers path).findIdx? store'.contains = some level := by
    rw [List.findIdx?_eq_some_iff_getElem]
    refine ⟨hlt, ?_, ?_⟩
    · rw [hsame level (Nat.le_refl level) hlt]
      exact hmarker
    · intro j hj
      rw [hsame j (Nat.le_of_lt hj) (Nat.lt_trans hj hlt)]
      exact hbefore j hj
  unfold recorded
  rw [hfound']

end Pipeline

/-- Restoring from any store whatever leads where the store says, made anew or in
place on any cursor behind a sound lock, and is refused exactly when the store
says nothing; a refusal leaves the cursor untouched.  The place and the counts of
the failing layers pin the restored cursor down: those around the outermost batch
stage are kept in place, all others are zero.  Of a store that has a marker, no
key beyond the first marker matters. -/
theorem restore_leads_where_recorded
    (p : Pipeline) (parent : String) (store : Store) :
    let path := p.pathUnder parent
    (forall place : Standing, p.recorded path store = .ok place ->
      (exists c : Cursor p,
        Iterator.restoredUnder p parent store = .ok ⟨p, path, c⟩ ∧ p.RestoredTo place [] c) ∧
      forall other : Cursor p, p.Unlocked other -> exists c : Cursor p,
        Iterator.restore ⟨p, path, other⟩ store = .ok ⟨p, path, c⟩ ∧
        p.overwrite path store other = (.ok (), c) ∧
        p.RestoredTo place (p.outerCounts other) c) ∧
    (forall e : StateError, p.recorded path store = .error e ->
      Iterator.restoredUnder p parent store = .error (.state e) ∧
      forall other : Cursor p, p.Unlocked other ->
        Iterator.restore ⟨p, path, other⟩ store = .error (.state e) ∧
        p.overwrite path store other = (.error (.state e), other)) ∧
    (forall (place : Standing) (kept : List UInt64) (c d : Cursor p),
      p.RestoredTo place kept c -> p.RestoredTo place kept d -> c = d) ∧
    (forall (level : Nat) (store' : Store), p.recorded path store = .ok (.drained level) ->
      (forall key : String, key ∈ (p.markers path).take (level + 1) ->
        store'.contains key = store.contains key) ->
      Iterator.restoredUnder p parent store' = Iterator.restoredUnder p parent store ∧
      forall other : Cursor p, p.Unlocked other ->
        Iterator.restore ⟨p, path, other⟩ store' = Iterator.restore ⟨p, path, other⟩ store) := by
  intro path
  rcases p.leads path store with ⟨hnew, hmoved⟩
  refine ⟨?_, ?_, fun place kept c d hc hd => hc.unique hd, ?_⟩
  · intro place hplace
    rw [hplace] at hnew hmoved
    rcases hnew.of_ok with ⟨c, hc, hrestored⟩
    refine ⟨⟨c, Iterator.restoredUnder_of_restoreNew hc, hrestored⟩, ?_⟩
    intro other hother
    rcases (hmoved other hother).of_ok with ⟨d, hd, hrestored'⟩
    refine ⟨d, Iterator.restore_of_restoreInPlace hd, ?_, hrestored'⟩
    rw [p.overwrite_eq, hd]
    rfl
  · intro e he
    rw [he] at hnew hmoved
    constructor
    · rw [Iterator.restoredUnder, hnew.of_error]
      rfl
    · intro other hother
      have hplace := (hmoved other hother).of_error
      constructor
      · rw [Iterator.restore, hplace]
        rfl
      · rw [p.overwrite_eq, hplace]
        rfl
  · intro level store' hlevel hagree
    have hsaid : p.recorded path store = p.recorded path store' :=
      hlevel.trans (Pipeline.recorded_eq_drained_of_agree hlevel hagree).symm
    rcases p.leads path store' with ⟨hnew', hmoved'⟩
    rw [hsaid] at hnew hmoved
    constructor
    · rw [Iterator.restoredUnder, Iterator.restoredUnder, hnew'.unique hnew]
    · intro other hother
      rw [Iterator.restore, Iterator.restore,
        (hmoved' other hother).unique (hmoved other hother)]

def layeredPairs : Pipeline :=
  .faulty 9 (.batch Stage.singles
    (.counting 0 (.faulty 7
      (.batch { Stage.pairs with version := .v1 } (.faulty 5 (.range 0 (some 3)))))))

def mixedEntries : List (String × StateValue) :=
  [("Iterator::BatchV2::Batch:input_impl_empty", .int 7),
    ("Iterator::BatchV2::Batch::Range:next", .text "3")]

theorem restore_leads_where_recorded_between_stages :
    let other : Cursor layeredPairs :=
      (⟨4, Pipeline.start _⟩ : FaultyCursor (Cursor (.batch Stage.singles _)))
    layeredPairs.Unlocked other ∧
      (exists c : Cursor layeredPairs,
        layeredPairs.overwrite "Iterator::BatchV2" (Table.ofPairs mixedEntries) other =
          (.ok (), c) ∧
        layeredPairs.RestoredTo (.drained 1) [4] c) ∧
      layeredPairs.overwrite "Iterator::BatchV2" (Table.ofPairs (mixedEntries.drop 1)) other =
        (.error (.state (.notInteger "3")), other) := by
  intro other
  have hother : layeredPairs.Unlocked other := rfl
  have hplace : layeredPairs.recorded (layeredPairs.pathUnder "Iterator")
      (Table.ofPairs mixedEntries) = .ok (.drained 1) := by
    with_unfolding_all rfl
  have hrefused : layeredPairs.recorded (layeredPairs.pathUnder "Iterator")
      (Table.ofPairs (mixedEntries.drop 1)) = .error (.notInteger "3") := by
    with_unfolding_all rfl
  rcases (restore_leads_where_recorded layeredPairs "Iterator"
    (Table.ofPairs mixedEntries)).1 _ hplace with ⟨_, hmoved⟩
  rcases hmoved other hother with ⟨c, _, hc, hrestored⟩
  rcases (restore_leads_where_recorded layeredPairs "Iterator"
    (Table.ofPairs (mixedEntries.drop 1))).2.1 _ hrefused with ⟨_, hkept⟩
  exact ⟨hother, ⟨c, hc, hrestored⟩, (hkept other hother).2⟩

end TensorPipeline
