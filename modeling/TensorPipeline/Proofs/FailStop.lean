import TensorPipeline.Proofs.Requests

/-!
# Crashes stop an iterator

Whether an iterator can crash at all is decided by its pipeline alone.  Where every
range has a bound and every stage a window that memory can hold, nothing does,
whatever positions are restored, and no lock is ever poisoned.

Anywhere else a crash ends the matter.  It unwinds through all the stages above, each
of which has its lock at that moment, so poison spreads outwards and never leaves a
stage sound above one that is poisoned.  From then on the outermost stage refuses
everything with one and the same error, and nothing behind it is touched.
-/

namespace TensorPipeline
namespace Pipeline

/-!
## Pipelines that cannot crash
-/

/-- Every range has a bound, and room can be set aside for the windows of every
stage. -/
def Bounded : Pipeline -> Prop
  | range _ stop => stop ≠ none
  | tensors _ => True
  | counting _ input => input.Bounded
  | faulty _ input => input.Bounded
  | batch stage input => stage.size ≤ Stage.windowLimit ∧ input.Bounded

example : Stage.windowLimit = 384307168202282325 := by decide

theorem Bounded.not_mayCrash {p : Pipeline} (h : p.Bounded) (cause : Crash) :
    ¬ p.MayCrash cause := by
  induction p with
  | range start stop => exact fun hcrash => h hcrash.1
  | tensors source => exact id
  | counting tally input ih => exact ih h
  | faulty failAt input ih => exact ih h
  | batch stage input ih =>
      rintro (⟨hlarge, _⟩ | hinput)
      · exact absurd h.1 (Nat.not_le.mpr hlarge)
      · exact ih h.2 hinput

theorem Bounded.quiet
    {p : Pipeline} (h : p.Bounded) (ctx : Context) (path : String) (usage : Usage)
    (c : Cursor p) : Quiet (p.advance ctx path usage c).result :=
  fun cause hcrash => h.not_mayCrash cause (crash_of_advance hcrash).1

theorem RestoredFrom.unpoisoned
    {p : Pipeline} {path : String} {store : Store} {c : Cursor p}
    (h : p.RestoredFrom path store c) : p.Unpoisoned c := by
  rcases h with ⟨place, kept, _, hrestored⟩
  exact hrestored.unpoisoned

theorem Unpoisoned.unlocked {p : Pipeline} {c : Cursor p} (h : p.Unpoisoned c) :
    p.Unlocked c := by
  induction p with
  | range start stop => exact h
  | tensors source => trivial
  | counting tally input ih => exact ih h
  | faulty failAt input ih => exact ih h
  | batch stage input ih => exact h.1

theorem Bounded.unpoisoned
    {ctx : Context} {p : Pipeline} {path : String} {c : Cursor p} (h : p.Bounded)
    (hreachable : p.Reachable ctx path c) : p.Unpoisoned c := by
  apply hreachable.invariant
  · exact p.unpoisoned_start
  · intro store c hrestored
    exact hrestored.unpoisoned
  · intro usage c hc
    exact advance_keeps_unpoisoned ctx p path usage hc (h.quiet ctx path usage c)

theorem Leads.answers
    {p : Pipeline} {kept : List UInt64} {said : Except StateError Standing}
    {result : Except Error (Cursor p)} (h : p.Leads kept said result) :
    (exists c : Cursor p, result = .ok c ∧ p.Unpoisoned c) ∨
      exists e : StateError, result = .error (.state e) := by
  cases h with
  | restored hc => exact Or.inl ⟨_, rfl, hc.unpoisoned⟩
  | refused e => exact Or.inr ⟨e, rfl⟩

end Pipeline

/-- Where ranges have bounds and windows fit memory, no request to an iterator comes
to a crash: no counter overflows, no room is asked for that cannot be had, nothing is
looked for in an empty window or column, and no buffer is cut into slots of no width.
That holds wherever runs lead, and restoring may read any store.  No lock is ever
poisoned, so saving succeeds, and restoring fails only for what the store says.
Bytes are copied only over as many, and a position in a list counts on without
wrapping around. -/
theorem bounded_pipelines_never_crash
    {ctx : Context} {p : Pipeline} {path : String} {c : Cursor p} (hbounded : p.Bounded)
    (hreachable : p.Reachable ctx path c) :
    p.Unpoisoned c ∧
    (forall (usage : Usage) (cause : Crash),
      (p.advance ctx path usage c).result ≠ .error (.crash cause)) ∧
    (forall store : Store, exists written : Store, p.save path c store = .ok written) ∧
    (forall store : Store,
      (exists moved : Cursor p,
        p.restoreInPlace path store c = .ok moved ∧ p.Unpoisoned moved) ∨
      exists e : StateError, p.restoreInPlace path store c = .error (.state e)) ∧
    (forall store : Store,
      (exists made : Cursor p, p.restoreNew path store = .ok made ∧ p.Unpoisoned made) ∨
      exists e : StateError, p.restoreNew path store = .error (.state e)) ∧
    (forall (component : Nat) (dtype : DType) (index : Nat) (t : Tensor)
      (slot bytes : List UInt8), copyToSlot component dtype index t slot = .ok bytes ->
        bytes = t.data ∧ t.data.length = slot.length) ∧
    (forall (source : TensorSource) (usage : Usage) (next : UInt64) (e : Element),
      source.elements.length < 2 ^ 63 ->
      (Pipeline.advanceTensors source usage next).result = .ok (some e) ->
        (Pipeline.advanceTensors source usage next).cursor.toNat = next.toNat + 1) := by
  have hunpoisoned := hbounded.unpoisoned hreachable
  refine ⟨hunpoisoned, fun usage => hbounded.quiet ctx path usage c, ?_, ?_, ?_, ?_, ?_⟩
  · intro store
    rw [Pipeline.unpoisoned_eq] at hunpoisoned
    exact ⟨_, Pipeline.save_of_soundAt hunpoisoned path store⟩
  · intro store
    exact ((p.leads path store).2 c hunpoisoned.unlocked).answers
  · intro store
    exact (p.leads path store).1.answers
  · intro component dtype index t slot bytes
    exact Stacking.length_eq_of_copyToSlot
  · intro source usage next e hlength
    exact Pipeline.advanceTensors_counts hlength

def largestPairs (stop : Option Int64) : Pipeline :=
  .batch Stage.pairs (.range 0 stop)

def largestEntries : List (String × StateValue) :=
  [("Iterator::BatchV2::Range:next", .int (Int64.maxValue - 1))]

theorem bounded_pipelines_never_crash_below_largest :
    let p := largestPairs (some Int64.maxValue)
    let path := p.pathUnder "Iterator"
    let store := Table.ofPairs largestEntries
    p.Bounded ∧
      (exists c : Cursor p,
        p.restoreNew path store = .ok c ∧ p.standing c = .reading (Int64.maxValue - 1) ∧
        p.Unpoisoned c ∧
        forall (usage : Usage) (cause : Crash),
          (p.advance Context.default path usage c).result ≠ .error (.crash cause)) ∧
      exists c : Cursor (largestPairs none),
        (largestPairs none).restoreNew path store = .ok c ∧
        ((largestPairs none).advance Context.default path Usage.empty c).result =
          .error (.crash .counterOverflow) := by
  intro p path store
  have hbounded : p.Bounded := ⟨by decide, fun h => nomatch h⟩
  have hrestored : p.restoreNew path store = .ok (Guarded.ofContent (Feed.active
      (Guarded.ofContent (Int64.maxValue - 1)))) := by
    with_unfolding_all rfl
  have hreachable : p.Reachable Context.default path _ := Pipeline.Reachable.restored hrestored
  rcases bounded_pipelines_never_crash hbounded hreachable with ⟨hunpoisoned, hnever, _⟩
  refine ⟨hbounded, ⟨_, hrestored, rfl, hunpoisoned, hnever⟩, ?_⟩
  refine ⟨Guarded.ofContent (Feed.active (Guarded.ofContent (Int64.maxValue - 1))), ?_, ?_⟩
  · with_unfolding_all rfl
  · with_unfolding_all rfl

namespace Pipeline

/-!
## Poison spreads outwards
-/

/-- The locks of a cursor from the outside in, each with whether it is poisoned.  A
range has a lock of its own below those of the stages. -/
def locks : (p : Pipeline) -> Cursor p -> List Bool
  | range _ _, cell => [cell.poisoned]
  | tensors _, _ => []
  | counting _ input, cursor => input.locks cursor
  | faulty _ input, cursor => input.locks cursor.input
  | batch _ input, cell =>
      cell.poisoned ::
        match cell.content with
        | Feed.drained => []
        | Feed.active cursor => input.locks cursor

def ClosedOutwards (p : Pipeline) (c : Cursor p) : Prop :=
  (p.locks c).Pairwise fun outer inner => inner = true -> outer = true

theorem unpoisoned_iff {p : Pipeline} {c : Cursor p} :
    p.Unpoisoned c <-> forall lock : Bool, lock ∈ p.locks c -> lock = false := by
  induction p with
  | range start stop =>
      constructor
      · intro h lock hlock
        rw [List.mem_singleton.mp hlock]
        exact h
      · intro h
        exact h _ (List.mem_singleton.mpr rfl)
  | tensors source => exact ⟨fun _ _ hlock => absurd hlock List.not_mem_nil, fun _ => trivial⟩
  | counting tally input ih => exact ih
  | faulty failAt input ih => exact ih
  | batch stage input ih =>
      rcases c with ⟨feed, poisoned⟩
      cases feed with
      | drained =>
          constructor
          · rintro ⟨h, _⟩ lock hlock
            rw [List.mem_singleton.mp hlock]
            exact h
          · intro h
            exact ⟨h _ (List.mem_singleton.mpr rfl), trivial⟩
      | active c =>
          constructor
          · rintro ⟨h, hinput⟩ lock hlock
            rcases List.mem_cons.mp hlock with rfl | hlock
            · exact h
            · exact ih.mp hinput lock hlock
          · intro h
            refine ⟨h _ List.mem_cons_self, ih.mpr fun lock hlock => ?_⟩
            exact h lock (List.mem_cons_of_mem _ hlock)

theorem Unpoisoned.closedOutwards {p : Pipeline} {c : Cursor p} (h : p.Unpoisoned c) :
    p.ClosedOutwards c := by
  apply List.pairwise_of_forall_mem_list
  intro outer _ inner hinner hpoisoned
  cases (unpoisoned_iff.mp h inner hinner).symm.trans hpoisoned

theorem ClosedOutwards.unpoisoned
    {stage : Stage} {input : Pipeline} {feed : Feed (Cursor input)}
    (h : (batch stage input).ClosedOutwards ⟨feed, false⟩) :
    (batch stage input).Unpoisoned ⟨feed, false⟩ := by
  apply unpoisoned_iff.mpr
  intro lock hlock
  rcases List.mem_cons.mp hlock with rfl | hlock
  · rfl
  · apply eq_false_of_ne_true
    intro hpoisoned
    cases (List.pairwise_cons.mp h).1 lock hlock hpoisoned

theorem closedOutwards_of_poisoned
    {stage : Stage} {input : Pipeline} {cell : Guarded (Feed (Cursor input))}
    (hpoisoned : cell.poisoned = true) (h : cell.content.Holds input.ClosedOutwards) :
    (batch stage input).ClosedOutwards cell := by
  rcases cell with ⟨feed, poisoned⟩
  cases hpoisoned
  refine List.pairwise_cons.mpr ⟨fun _ _ _ => rfl, ?_⟩
  cases feed with
  | drained => exact List.Pairwise.nil
  | active c => exact h

theorem ClosedOutwards.holds
    {stage : Stage} {input : Pipeline} {cell : Guarded (Feed (Cursor input))}
    (h : (batch stage input).ClosedOutwards cell) : cell.content.Holds input.ClosedOutwards := by
  rcases cell with ⟨feed, poisoned⟩
  cases feed with
  | drained => trivial
  | active c => exact (List.pairwise_cons.mp h).2

theorem advance_closedOutwards (ctx : Context) (p : Pipeline) (path : String) :
    Stays p.ClosedOutwards (p.advance ctx path) := by
  induction p generalizing path with
  | range start stop =>
      intro usage cell _
      exact List.pairwise_singleton _ _
  | tensors source =>
      intro usage next _
      exact List.Pairwise.nil
  | counting tally input ih => exact stays_counting (ih path) tally
  | faulty failAt input ih => exact stays_faulty (ih path) failAt
  | batch stage input ih =>
      intro usage cell h
      rcases cell with ⟨feed, poisoned⟩
      cases poisoned with
      | true =>
          rw [advance_batch, Stage.pull_of_poisoned rfl]
          exact h
      | false =>
          rw [advance_batch_cursor]
          by_cases hquiet : Quiet
            (stage.pull path (input.advance ctx (input.pathUnder path)) usage ⟨feed, false⟩).1
          · -- nothing has crashed, so all locks are as sound as before
            have hkept := Stage.pull_keeps
              (advance_keeps_unpoisoned ctx input (input.pathUnder path))
              stage path usage h.unpoisoned.2 hquiet
            exact Unpoisoned.closedOutwards hkept
          · rcases Classical.not_forall.mp hquiet with ⟨cause, hcrash⟩
            rw [Classical.not_not] at hcrash
            exact closedOutwards_of_poisoned (Stage.pull_of_crash hcrash).1
              (Stage.pull_stays (ih (input.pathUnder path)) stage path usage h.holds)

theorem Reachable.closedOutwards
    {ctx : Context} {p : Pipeline} {path : String} {c : Cursor p}
    (h : p.Reachable ctx path c) : p.ClosedOutwards c := by
  apply h.invariant
  · exact p.unpoisoned_start.closedOutwards
  · intro store c hrestored
    exact hrestored.unpoisoned.closedOutwards
  · intro usage c hc
    exact advance_closedOutwards ctx p path usage hc

end Pipeline

/-!
## After a crash
-/

def Iterator.Request.refused (e : Error) : Iterator.Request -> Iterator.Reply
  | .next usage => .delivered (.error (.error e)) usage
  | .save _ => .saved (.error e)
  | .restore _ => .restored (.error e)
  | .tellDrained => .drained (some (.error e))

namespace Pipeline

variable {ctx : Context} {stage : Stage} {input : Pipeline} {path : String}

theorem advance_of_poisoned
    {cell : Cursor (batch stage input)} (h : Guarded.poisoned cell = true) (usage : Usage) :
    (batch stage input).advance ctx path usage cell =
      ⟨.error (.error (.stagePoisoned path)), cell, usage⟩ := by
  apply (advance_batch ctx stage input path usage cell).trans
  rw [Stage.pull_of_poisoned h]

theorem respond_of_poisoned
    {cell : Cursor (batch stage input)} (h : Guarded.poisoned cell = true)
    (request : Iterator.Request) :
    (batch stage input).respond ctx path cell request =
      (request.refused (.stagePoisoned path), cell) := by
  cases request with
  | next usage =>
      rw [respond, advance_of_poisoned h]
      rfl
  | save store =>
      rcases cell with ⟨feed, poisoned⟩
      cases h
      rfl
  | restore store =>
      rcases cell with ⟨feed, poisoned⟩
      cases h
      rfl
  | tellDrained =>
      rcases cell with ⟨feed, poisoned⟩
      cases h
      rfl

theorem after_of_poisoned
    {cell : Cursor (batch stage input)} (h : Guarded.poisoned cell = true)
    (requests : List Iterator.Request) :
    (batch stage input).after ctx path cell requests = cell := by
  induction requests with
  | nil => rfl
  | cons request requests ih => rw [after_cons, respond_of_poisoned h, ih]

end Pipeline

/-- A pull on a stage crashes only because a range without a bound has counted too
far, or because a stage is too large for its window.  Whatever is asked of the
iterator after that, and however often, is refused with the same error, naming the
path of the iterator: no element, no end and no position comes out of it any more,
and neither its cursor nor what has been used changes.  Wherever runs lead, poison is
closed outwards. -/
theorem crash_stops_stage_for_good
    {ctx : Context} {stage : Stage} {input : Pipeline} {path : String}
    {c : Cursor (.batch stage input)}
    (hreachable : (Pipeline.batch stage input).Reachable ctx path c) :
    let p := Pipeline.batch stage input
    (Error.stagePoisoned path).message = "batch iterator " ++ path ++ " lock poisoned" ∧
    p.ClosedOutwards c ∧
    forall (usage : Usage) (cause : Crash),
      (p.advance ctx path usage c).result = .error (.crash cause) ->
      p.MayCrash cause ∧
      forall (later : List Iterator.Request) (request : Iterator.Request),
        let stopped := p.after ctx path (p.advance ctx path usage c).cursor later
        stopped = (p.advance ctx path usage c).cursor ∧
        p.respond ctx path stopped request =
          (request.refused (.stagePoisoned path), stopped) := by
  intro p
  refine ⟨rfl, hreachable.closedOutwards, ?_⟩
  intro usage cause hcrash
  rcases Pipeline.crash_of_advance hcrash with ⟨hcause, hlocked⟩
  refine ⟨hcause, ?_⟩
  intro later request
  have hpoisoned : Guarded.poisoned (p.advance ctx path usage c).cursor = true :=
    eq_true_of_ne_false hlocked
  rw [Pipeline.after_of_poisoned hpoisoned]
  exact ⟨rfl, Pipeline.respond_of_poisoned hpoisoned request⟩

def endlessPairs : Pipeline :=
  .batch Stage.pairs (.counting 0 (.batch Stage.singles (.range (Int64.maxValue - 1) none)))

theorem crash_stops_stage_for_good_over_endless_range :
    let path := endlessPairs.pathUnder "Iterator"
    let crashed :=
      (endlessPairs.advance Context.default path Usage.empty endlessPairs.start).cursor
    let store := Table.ofPairs [("Iterator::BatchV2::BatchV2::Range:next", .int 0)]
    endlessPairs.Reachable Context.default path endlessPairs.start ∧
      (endlessPairs.advance Context.default path Usage.empty endlessPairs.start).result =
        .error (.crash .counterOverflow) ∧
      endlessPairs.locks crashed = [true, true, true] ∧
      (endlessPairs.respond Context.default path crashed (.restore store)).1 =
        .restored (.error (.stagePoisoned "Iterator::BatchV2")) ∧
      forall usage : Usage,
        (endlessPairs.respond Context.default path
          (endlessPairs.after Context.default path crashed [.restore store]) (.next usage)).1 =
          .delivered (.error (.error (.stagePoisoned "Iterator::BatchV2"))) usage := by
  intro path crashed store
  have hstart : endlessPairs.Reachable Context.default path endlessPairs.start :=
    Pipeline.Reachable.start
  have hcrash : (endlessPairs.advance Context.default path Usage.empty endlessPairs.start).result =
      .error (.crash .counterOverflow) := by
    with_unfolding_all rfl
  have hlater := ((crash_stops_stage_for_good hstart).2.2 Usage.empty .counterOverflow hcrash).2
  refine ⟨hstart, hcrash, by with_unfolding_all rfl, ?_, ?_⟩
  · exact congrArg Prod.fst (hlater [] (.restore store)).2
  · intro usage
    exact congrArg Prod.fst (hlater [.restore store] (.next usage)).2

end TensorPipeline
