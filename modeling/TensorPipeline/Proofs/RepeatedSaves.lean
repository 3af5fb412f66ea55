import TensorPipeline.Proofs.Requests

/-!
# Saving over and over into one store

Saving writes one entry and removes none, so a store that is used again holds what
was saved before as well.  Old positions of the source are overwritten.  Old markers
stay, and restoring stops at the first one: what has just been saved is found again
exactly if no stage that is still in use had its marker in the store already.

In a run of one iterator there is no such marker.  A stage that is used up stays so,
and a marker is written only for the outermost one, so whatever a run has marked
lies at that stage or further in.
-/

namespace TensorPipeline
namespace Pipeline

/-!
## Markers of stages in use
-/

/-- The markers of the stages around the outermost one that is used up, or of all
stages if there is none. -/
def activeMarkers : (p : Pipeline) -> String -> Cursor p -> List String
  | range _ _, _, _ => []
  | tensors _, _, _ => []
  | counting _ input, path, cursor => input.activeMarkers path cursor
  | faulty _ input, path, cursor => input.activeMarkers path cursor.input
  | batch _ input, path, cell =>
      match cell.content with
      | Feed.drained => []
      | Feed.active cursor =>
          drainedKey path :: input.activeMarkers (input.pathUnder path) cursor

def Unmarked (p : Pipeline) (store : Store) (path : String) (c : Cursor p) : Prop :=
  forall key : String, key ∈ p.activeMarkers path c -> store.contains key = false

section

variable {ctx : Context} {p : Pipeline} {path : String} {c : Cursor p} {store : Store}

theorem unmarked_batch_iff
    {stage : Stage} {input : Pipeline} (cell : Guarded (Feed (Cursor input))) :
    (batch stage input).Unmarked store path cell <->
      cell.content.Holds fun c =>
        store.contains (drainedKey path) = false ∧
          input.Unmarked store (input.pathUnder path) c := by
  rcases cell with ⟨feed, poisoned⟩
  cases feed with
  | drained => exact ⟨fun _ => trivial, fun _ _ hkey => absurd hkey List.not_mem_nil⟩
  | active c => exact List.forall_mem_cons

theorem unmarked_empty (p : Pipeline) (path : String) (c : Cursor p) :
    p.Unmarked Table.empty path c :=
  fun _ _ => rfl

theorem advance_unmarked (ctx : Context) (p : Pipeline) (store : Store) (path : String) :
    Stays (p.Unmarked store path) (p.advance ctx path) := by
  induction p generalizing path with
  | range start stop =>
      intro usage cell _ key hkey
      exact absurd hkey List.not_mem_nil
  | tensors source =>
      intro usage next _ key hkey
      exact absurd hkey List.not_mem_nil
  | counting tally input ih => exact stays_counting (ih path) tally
  | faulty failAt input ih => exact stays_faulty (ih path) failAt
  | batch stage input ih =>
      intro usage cell h
      rcases cell with ⟨feed, poisoned⟩
      rw [advance_batch_cursor]
      have hstays : Stays (fun c => store.contains (drainedKey path) = false ∧
          input.Unmarked store (input.pathUnder path) c)
          (input.advance ctx (input.pathUnder path)) :=
        fun usage _ hc => ⟨hc.1, ih (input.pathUnder path) usage hc.2⟩
      apply (unmarked_batch_iff _).mpr
      exact Stage.pull_stays hstays stage path usage ((unmarked_batch_iff _).mp h)

theorem savedEntry_key_not_mem_activeMarkers (p : Pipeline) (path : String) (c : Cursor p) :
    (p.savedEntry path c).1 ∉ p.activeMarkers path c := by
  induction p generalizing path with
  | range start stop => exact List.not_mem_nil
  | tensors source => exact List.not_mem_nil
  | counting tally input ih => exact ih path c
  | faulty failAt input ih => exact ih path c.input
  | batch stage input ih =>
      rcases c with ⟨feed, poisoned⟩
      cases feed with
      | drained => exact List.not_mem_nil
      | active c =>
          intro hkey
          rcases List.mem_cons.mp hkey with hmarker | hbelow
          · exact input.drainedKey_ne_savedEntry_key path c hmarker.symm
          · exact ih (input.pathUnder path) c hbelow

/-!
## What is found after saving
-/

theorem of_save {written : Store} (h : p.save path c store = .ok written) :
    p.Unlocked c ∧ written = p.savedOver path c store := by
  induction p generalizing path with
  | range start stop =>
      rcases c with ⟨next, poisoned⟩
      cases poisoned with
      | true => cases h
      | false =>
          cases h
          exact ⟨rfl, rfl⟩
  | tensors source =>
      cases h
      exact ⟨trivial, rfl⟩
  | counting tally input ih => exact ih h
  | faulty failAt input ih => exact ih h
  | batch stage input ih =>
      rcases c with ⟨feed, poisoned⟩
      cases poisoned with
      | true => cases h
      | false =>
          cases feed with
          | drained =>
              cases h
              exact ⟨rfl, rfl⟩
          | active c => exact ⟨rfl, (ih h).2⟩

theorem contains_savedOver {key : String} (h : store.contains key = true) :
    (p.savedOver path c store).contains key = true := by
  rw [Table.contains]
  by_cases hkey : key = (p.savedEntry path c).1
  · rw [hkey, get?_savedOver_key]
    rfl
  · rw [get?_savedOver_of_ne hkey]
    exact h

theorem Unmarked.savedOver (h : p.Unmarked store path c) :
    p.Unmarked (p.savedOver path c store) path c := by
  intro key hkey
  rw [Table.contains, get?_savedOver_of_ne]
  · exact h key hkey
  · intro heq
    rw [heq] at hkey
    exact p.savedEntry_key_not_mem_activeMarkers path c hkey

theorem recorded_batch_eq_deeper_iff
    {stage : Stage} {input : Pipeline} {place : Standing} :
    (batch stage input).recorded path store = .ok place.deeper <->
      store.contains (drainedKey path) = false ∧
        input.recorded (input.pathUnder path) store = .ok place := by
  cases hmarker : store.contains (drainedKey path) with
  | true =>
      rw [recorded_batch_of_drained hmarker]
      constructor
      · intro h
        exact absurd (Except.ok.inj h).symm (Standing.deeper_ne_drained_zero place)
      · intro h
        cases h.1
  | false =>
      rw [recorded_batch_of_active hmarker]
      cases input.recorded (input.pathUnder path) store with
      | error e =>
          constructor
          · intro h
            cases h
          · intro h
            cases h.2
      | ok found =>
          constructor
          · intro h
            exact ⟨rfl, congrArg Except.ok (Standing.deeper_inj (Except.ok.inj h))⟩
          · intro h
            cases h.2
            rfl

theorem recorded_savedOver_iff
    (hadmits : p.Admits (p.standing c)) (path : String) (store : Store) :
    p.recorded path (p.savedOver path c store) = .ok (p.standing c) <->
      p.Unmarked store path c := by
  induction p generalizing path with
  | range start stop =>
      have hentry := get?_savedOver_key (range start stop) path c store
      constructor
      · exact fun _ _ hkey => absurd hkey List.not_mem_nil
      · intro _
        exact congrArg ((range start stop).sourcePlace (nextKey path)) hentry
  | tensors source =>
      have hentry := get?_savedOver_key (tensors source) path c store
      constructor
      · exact fun _ _ hkey => absurd hkey List.not_mem_nil
      · intro _
        apply (congrArg ((tensors source).sourcePlace (nextKey path)) hentry).trans
        exact if_pos (hadmits _ rfl)
  | counting tally input ih => exact ih hadmits path
  | faulty failAt input ih => exact ih hadmits path
  | batch stage input ih =>
      rcases c with ⟨feed, poisoned⟩
      cases feed with
      | drained =>
          have hentry := get?_savedOver_key (batch stage input) path ⟨.drained, poisoned⟩ store
          constructor
          · exact fun _ _ hkey => absurd hkey List.not_mem_nil
          · intro _
            exact recorded_batch_of_drained (congrArg Option.isSome hentry)
      | active c =>
          have hinput : input.Admits (input.standing c) := fun position hposition =>
            hadmits position (congrArg Standing.deeper hposition)
          show (batch stage input).recorded path
            (input.savedOver (input.pathUnder path) c store) =
              .ok (input.standing c).deeper <-> _
          rw [recorded_batch_eq_deeper_iff, contains_drainedKey_savedOver,
            ih hinput (input.pathUnder path)]
          exact (unmarked_batch_iff ⟨.active c, poisoned⟩).symm

theorem counts_of_faultFree (hfree : p.FaultFree) (c : Cursor p) : p.counts c = [] := by
  induction p with
  | range start stop => rfl
  | tensors source => rfl
  | counting tally input ih => exact ih hfree c
  | faulty failAt input ih => exact hfree.elim
  | batch stage input ih =>
      rcases c with ⟨feed, poisoned⟩
      cases feed with
      | drained => rfl
      | active c => exact ih hfree c

/-- What has been saved is found again exactly if no stage in use was marked. -/
theorem restoreNew_savedOver_iff
    (hfree : p.FaultFree) (hunpoisoned : p.Unpoisoned c) (hadmits : p.Admits (p.standing c))
    (path : String) (store : Store) :
    p.restoreNew path (p.savedOver path c store) = .ok c <-> p.Unmarked store path c := by
  rw [← recorded_savedOver_iff hadmits path store]
  have hleads := (p.leads path (p.savedOver path c store)).1
  constructor
  · intro h
    rcases hleads.restoredFrom h with ⟨place, kept, hplace, hrestored⟩
    rw [hplace, hrestored.standing_eq]
  · intro h
    rw [h] at hleads
    rcases hleads.of_ok with ⟨d, hd, hrestored⟩
    have hsame : p.RestoredTo (p.standing c) [] c :=
      ⟨rfl, ⟨0, counts_of_faultFree hfree c⟩, hunpoisoned⟩
    rw [hd, hrestored.unique hsame]

end

end Pipeline

/-!
## One iterator and one store
-/

inductive Action where
  | next (usage : Usage)
  | save

structure Session (p : Pipeline) where
  cursor : Cursor p
  store : Store
  saved : Option (Cursor p)

namespace Session

def start (p : Pipeline) : Session p := ⟨p.start, Table.empty, none⟩

variable {p : Pipeline}

def step (ctx : Context) (path : String) (s : Session p) : Action -> Session p
  | .next usage => { s with cursor := (p.advance ctx path usage s.cursor).cursor }
  | .save =>
      match p.save path s.cursor s.store with
      | .ok store => ⟨s.cursor, store, some s.cursor⟩
      | .error _ => s

def run (ctx : Context) (path : String) (s : Session p) (actions : List Action) : Session p :=
  actions.foldl (step ctx path) s

/-- What was saved last is what the store leads to, and no stage in use is marked. -/
structure Consistent (ctx : Context) (path : String) (s : Session p) : Prop where
  reachable : p.Reachable ctx path s.cursor
  unmarked : p.Unmarked s.store path s.cursor
  restores : forall c : Cursor p, s.saved = some c -> p.restoreNew path s.store = .ok c

variable {ctx : Context} {path : String} {s : Session p}

theorem step_save_of_unlocked
    (hreachable : p.Reachable ctx path s.cursor) (hlock : p.Unlocked s.cursor) :
    s.step ctx path .save =
      ⟨s.cursor, p.savedOver path s.cursor s.store, some s.cursor⟩ := by
  rw [step, Pipeline.save_of_soundAt (hreachable.soundAt hlock)]
  rfl

theorem step_save_cases (ctx : Context) (path : String) (s : Session p) :
    (p.Unlocked s.cursor ∧ s.step ctx path .save =
      ⟨s.cursor, p.savedOver path s.cursor s.store, some s.cursor⟩) ∨
    s.step ctx path .save = s := by
  rw [step]
  cases hsave : p.save path s.cursor s.store with
  | ok store =>
      rcases Pipeline.of_save hsave with ⟨hlock, hstore⟩
      rw [hstore]
      exact Or.inl ⟨hlock, rfl⟩
  | error e => exact Or.inr rfl

theorem start_consistent : (start p).Consistent ctx path where
  reachable := .start
  unmarked := p.unmarked_empty path _
  restores _ h := nomatch h

theorem Consistent.step
    (hfree : p.FaultFree) (haddr : p.Addressable) (h : s.Consistent ctx path) (action : Action) :
    (s.step ctx path action).Consistent ctx path := by
  cases action with
  | next usage =>
      exact ⟨h.reachable.request (.next usage),
        p.advance_unmarked ctx s.store path usage h.unmarked, h.restores⟩
  | save =>
      rcases step_save_cases ctx path s with ⟨hlock, hstep⟩ | hstep
      · have hadmits := Pipeline.admits_standing_of_soundAt (h.reachable.soundAt hlock) haddr
        rw [hstep]
        refine ⟨h.reachable, h.unmarked.savedOver, ?_⟩
        intro c hc
        cases hc
        exact (Pipeline.restoreNew_savedOver_iff hfree (h.reachable.unpoisoned hlock) hadmits
          path s.store).mpr h.unmarked
      · rw [hstep]
        exact h

theorem Consistent.run
    (hfree : p.FaultFree) (haddr : p.Addressable) (h : s.Consistent ctx path)
    (actions : List Action) : (s.run ctx path actions).Consistent ctx path := by
  induction actions generalizing s with
  | nil => exact h
  | cons action actions ih => exact ih (h.step hfree haddr action)

theorem contains_step
    {key : String} (h : s.store.contains key = true) (action : Action) :
    (s.step ctx path action).store.contains key = true := by
  cases action with
  | next usage => exact h
  | save =>
      rcases step_save_cases ctx path s with ⟨_, hstep⟩ | hstep
      · rw [hstep]
        exact Pipeline.contains_savedOver h
      · rw [hstep]
        exact h

theorem contains_run
    {key : String} (h : s.store.contains key = true) (actions : List Action) :
    (s.run ctx path actions).store.contains key = true := by
  induction actions generalizing s with
  | nil => exact h
  | cons action actions ih => exact ih (contains_step h action)

end Session

/-- Whatever a store held before, an iterator that is saved into it is restored from
it exactly as it was, if and only if the store had no marker of a stage that is still
in use.  An iterator that pulls and saves into one store all along, empty at first,
never finds such a marker: at any time after a save the store leads to the cursor of
the last one, although no key is ever removed.  Behind a sound lock saving succeeds. -/
theorem save_over_store_restores_last
    {p : Pipeline} (hfree : p.FaultFree) (haddr : p.Addressable) (ctx : Context)
    (parent : String) :
    let path := p.pathUnder parent
    (forall c : Cursor p, p.Reachable ctx path c -> p.Unlocked c -> forall store : Store,
      exists written : Store,
        Iterator.save ⟨p, path, c⟩ store = .ok written ∧
        (Iterator.restoredUnder p parent written = .ok ⟨p, path, c⟩ <->
          forall key : String, key ∈ p.activeMarkers path c -> store.contains key = false)) ∧
    forall actions : List Action,
      let s := (Session.start p).run ctx path actions
      (forall c : Cursor p, s.saved = some c ->
        Iterator.restoredUnder p parent s.store = .ok ⟨p, path, c⟩) ∧
      (p.Unlocked s.cursor -> (s.step ctx path .save).saved = some s.cursor) ∧
      forall (key : String) (later : List Action), s.store.contains key = true ->
        (s.run ctx path later).store.contains key = true := by
  intro path
  constructor
  · intro c hreachable hlock store
    have hsound := hreachable.soundAt hlock
    refine ⟨p.savedOver path c store, Pipeline.save_of_soundAt hsound path store, ?_⟩
    rw [Iterator.restoredUnder_eq_ok_iff]
    exact Pipeline.restoreNew_savedOver_iff hfree (hreachable.unpoisoned hlock)
      (Pipeline.admits_standing_of_soundAt hsound haddr) path store
  · intro actions s
    have hconsistent : s.Consistent ctx path :=
      Session.start_consistent.run hfree haddr actions
    refine ⟨?_, ?_, fun key later h => Session.contains_run h later⟩
    · intro c hc
      exact Iterator.restoredUnder_of_restoreNew (hconsistent.restores c hc)
    · intro hlock
      rw [Session.step_save_of_unlocked hconsistent.reachable hlock]

theorem save_over_store_restores_last_of_two :
    let path := "Iterator::BatchV2"
    let marked := Table.ofPairs [("Iterator::BatchV2::Batch:input_impl_empty", .text "")]
    let pull := Action.next Usage.empty
    let s := (Session.start singlesOfPairs).run Context.default path
      [.save, pull, pull, .save, pull]
    singlesOfPairs.FaultFree ∧ singlesOfPairs.Addressable ∧
      (exists written : Store,
        Iterator.save ⟨singlesOfPairs, path, singlesOfPairs.start⟩ marked = .ok written ∧
        Iterator.restoredUnder singlesOfPairs "Iterator" written ≠
          .ok ⟨singlesOfPairs, path, singlesOfPairs.start⟩) ∧
      s.store.entries =
        [("Iterator::BatchV2::Batch::Range:next", .int 0),
          ("Iterator::BatchV2::Batch:input_impl_empty", .text "")] ∧
      singlesOfPairs.standing s.cursor = .drained 0 ∧
      exists c : Cursor singlesOfPairs,
        singlesOfPairs.standing c = .drained 1 ∧
        Iterator.restoredUnder singlesOfPairs "Iterator" s.store =
          .ok ⟨singlesOfPairs, path, c⟩ := by
  intro path marked pull s
  have hfree : singlesOfPairs.FaultFree := trivial
  have haddr : singlesOfPairs.Addressable := trivial
  rcases save_over_store_restores_last hfree haddr Context.default "Iterator" with ⟨hsave, hrun⟩
  refine ⟨hfree, haddr, ?_, by with_unfolding_all rfl, by with_unfolding_all rfl, ?_⟩
  · rcases hsave singlesOfPairs.start .start singlesOfPairs.unlocked_start marked with
      ⟨written, hwritten, hfound⟩
    refine ⟨written, hwritten, fun hrestored => ?_⟩
    have hmarker := hfound.mp hrestored "Iterator::BatchV2::Batch:input_impl_empty"
      (List.mem_cons_of_mem _ List.mem_cons_self)
    revert hmarker
    decide
  · have hsaved : exists c : Cursor singlesOfPairs,
        s.saved = some c ∧ singlesOfPairs.standing c = .drained 1 :=
      ⟨Guarded.ofContent (Feed.active (Guarded.ofContent Feed.drained)),
        by with_unfolding_all rfl, rfl⟩
    rcases hsaved with ⟨c, hc, hstanding⟩
    exact ⟨c, hstanding, (hrun [.save, pull, pull, .save, pull]).1 c hc⟩

end TensorPipeline
