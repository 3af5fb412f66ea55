import TensorPipeline.Proofs.Resumption
import TensorPipeline.Proofs.Stacking.Columns
import TensorPipeline.Proofs.Stacking.Copies

/-!
# Where crashes come from

Only two things crash a pull.  A range without a bound counts past the largest
integer, or a stage is to set aside room for a window that is too large for
memory.  Both happen while the locks of all stages above are held.  Stacking, which
runs without a lock, does not crash at all: a window that is stacked holds an
element, each of its columns a tensor for each element, and slots of no width are
never cut from a buffer.
-/

namespace TensorPipeline

theorem quiet_error {α : Type} (e : Error) : Quiet (.error (.error e) : Except Failure α) := by
  intro c hcrash
  cases hcrash

theorem Quiet.of_mapError {α : Type} (result : Except Error α) :
    Quiet (result.mapError Failure.error) := by
  cases result with
  | ok value => exact quiet_ok value
  | error e => exact quiet_error e

theorem Quiet.map {α β : Type} {result : Except Failure α} (h : Quiet result) (f : α -> β) :
    Quiet (result.map f) := by
  cases result with
  | ok value => exact quiet_ok (f value)
  | error cause =>
      intro c hcrash
      cases hcrash
      exact h c rfl

/-!
## Stacking
-/

namespace Stacking

theorem exists_slotsOf (n width : Nat) (buffer : List UInt8) :
    exists slots : List (List UInt8), slotsOf n width buffer = .ok slots := by
  unfold slotsOf cutSlots
  by_cases hwidth : width = 0
  · rw [if_pos hwidth]
    exact ⟨_, rfl⟩
  · rw [if_neg hwidth, if_neg hwidth]
    exact ⟨_, rfl⟩

theorem length_eq_of_copyToSlot
    {component : Nat} {dtype : DType} {index : Nat} {t : Tensor} {slot bytes : List UInt8}
    (h : copyToSlot component dtype index t slot = .ok bytes) :
    bytes = t.data ∧ t.data.length = slot.length := by
  unfold copyToSlot at h
  split at h
  · cases h
  · split at h
    · cases h
    · next hlength =>
        cases h
        exact ⟨rfl, Decidable.not_not.mp hlength⟩

variable {ctx : Context} {parallel : Bool} {usage : Usage}

theorem fillBuffer_quiet
    (earlier : List UInt64) (component : Nat) (first : Tensor) (column : List Tensor)
    (batchShape : Shape) (width : Nat) (buffer : List UInt8) :
    Quiet (fillBuffer ctx earlier parallel component first column batchShape width buffer) := by
  rcases exists_slotsOf column.length width buffer with ⟨slots, hslots⟩
  rw [fillBuffer_eq ctx earlier parallel component first batchShape hslots]
  exact Quiet.of_mapError _

theorem stackColumn_quiet (component : Nat) {column : List Tensor} (h : column ≠ []) :
    Quiet (stackColumn ctx parallel component usage column).1 := by
  cases column with
  | nil => exact absurd rfl h
  | cons first rest =>
      rw [stackColumn_cons]
      split
      · split
        · exact quiet_error _
        · exact fillBuffer_quiet _ _ _ _ _ _ _
      · exact quiet_error _

theorem stackColumns_quiet
    (component : Nat) {columns : List (List Tensor)}
    (h : forall column : List Tensor, column ∈ columns -> column ≠ []) :
    Quiet (stackColumns ctx parallel component usage columns).1 := by
  intro cause hcrash
  rcases exists_of_stackColumns_error hcrash with ⟨c, usage', column, hmem, herror⟩
  exact stackColumn_quiet c (h column hmem) cause herror

theorem stack_quiet {window : List Element} (h : window ≠ []) :
    Quiet (stack ctx parallel usage window).1 := by
  cases window with
  | nil => exact absurd rfl h
  | cons first rest =>
      cases hother : firstOtherCount first.length 0 (first :: rest) with
      | some other =>
          rw [stack_of_other_count hother]
          exact quiet_error _
      | none =>
          rw [stack_of_equal_counts hother]
          exact stackColumns_quiet 0 fun column hmem => ne_nil_of_mem_columns hmem

end Stacking

theorem Stage.stack_of_deliver_error
    {s : Stage} {ctx : Context} {usage : Usage} {window : List Element} {f : Failure}
    (h : (s.deliver ctx usage window).1 = .error f) :
    (stack ctx s.parallelCopy usage window).1 = .error f := by
  unfold deliver at h
  split at h
  · cases h
  · split at h
    · cases h
    · split at h
      · cases h
      · next hstack =>
          cases h
          exact congrArg Prod.fst hstack

theorem Stage.deliver_quiet (s : Stage) (ctx : Context) (usage : Usage) (window : List Element) :
    Quiet (s.deliver ctx usage window).1 := by
  intro cause hcrash
  have hne : window ≠ [] := by
    rintro rfl
    cases hcrash
  exact Stacking.stack_quiet hne cause (stack_of_deliver_error hcrash)

/-!
## Pulling
-/

def Stays {γ : Type} (property : γ -> Prop) (advance : Usage -> γ -> Step γ) : Prop :=
  forall (usage : Usage) {cursor : γ}, property cursor -> property (advance usage cursor).cursor

section

variable {γ : Type} {property : γ -> Prop} {advance : Usage -> γ -> Step γ}

theorem pullWindow_stays
    (hstays : Stays property advance) (room : Nat) (taken : List Element) (usage : Usage)
    {cursor : γ} (hcursor : property cursor) :
    property (pullWindow advance room taken usage cursor).2.1 := by
  induction room generalizing taken usage cursor with
  | zero => exact hcursor
  | succ room ih =>
      have hstep := hstays usage hcursor
      unfold pullWindow
      rcases hs : advance usage cursor with ⟨result, cursor', usage'⟩
      rw [hs] at hstep
      cases result with
      | error f => exact hstep
      | ok answer =>
          cases answer with
          | none => exact hstep
          | some e => exact ih (e :: taken) usage' hstep

theorem Stage.pull_stays
    (hstays : Stays property advance) (s : Stage) (path : String) (usage : Usage)
    {cell : Guarded (Feed γ)} (hcell : cell.content.Holds property) :
    (s.pull path advance usage cell).2.1.content.Holds property := by
  unfold pull
  split
  · exact hcell
  · split
    · exact hcell
    · next cursor hactive =>
        rw [hactive] at hcell
        have hwindow := pullWindow_stays hstays s.size [] usage hcell
        split
        · rw [hactive]
          exact hcell
        · split
          · next hp =>
              rw [hp] at hwindow
              exact hwindow
          · trivial
          · next hp =>
              rw [hp] at hwindow
              exact hwindow

theorem exists_of_pullWindow_failed
    {room : Nat} {taken : List Element} {usage : Usage} {cursor : γ} {f : Failure}
    (h : (pullWindow advance room taken usage cursor).1 = .failed f) :
    exists (usage' : Usage) (cursor' : γ), (advance usage' cursor').result = .error f := by
  induction room generalizing taken usage cursor with
  | zero => cases h
  | succ room ih =>
      unfold pullWindow at h
      rcases hs : advance usage cursor with ⟨result, cursor', usage'⟩
      rw [hs] at h
      cases result with
      | error f' =>
          cases h
          exact ⟨usage, cursor, congrArg Step.result hs⟩
      | ok answer =>
          cases answer with
          | none => cases h
          | some e => exact ih h

theorem Stage.pull_of_crash
    {s : Stage} {path : String} {usage : Usage} {cell : Guarded (Feed γ)} {cause : Crash}
    (h : (s.pull path advance usage cell).1 = .error (.crash cause)) :
    (s.pull path advance usage cell).2.1.poisoned = true ∧
      ((windowLimit < s.size ∧ cause = .capacityOverflow) ∨
        exists (usage' : Usage) (cursor : γ),
          (advance usage' cursor).result = .error (.crash cause)) := by
  unfold pull at h ⊢
  split at h
  · cases h
  · next hlock =>
      rw [if_neg hlock]
      split at h
      · cases h
      · next cursor hactive =>
          rw [hactive]
          split at h
          · next hlarge =>
              cases h
              rw [if_pos hlarge]
              exact ⟨rfl, Or.inl ⟨hlarge, rfl⟩⟩
          · next hsmall =>
              rw [if_neg hsmall]
              rcases hp : pullWindow advance s.size [] usage cursor with
                ⟨pulled, cursor', usage'⟩
              rw [hp] at h
              cases pulled with
              | full window => cases h
              | ended window => cases h
              | failed f =>
                  cases h
                  exact ⟨rfl, Or.inr (exists_of_pullWindow_failed (congrArg Prod.fst hp))⟩

end

/-!
## Whole pipelines
-/

namespace Pipeline

section

variable {ctx : Context} {input : Pipeline} {path : String} {property : Cursor input -> Prop}

theorem stays_counting (h : Stays property (input.advance ctx path)) (tally : Nat) :
    Stays property ((counting tally input).advance ctx path) :=
  fun usage _ hcursor => h (usage.bump tally) hcursor

theorem stays_faulty (h : Stays property (input.advance ctx path)) (failAt : UInt64) :
    Stays (fun cursor : Cursor (faulty failAt input) => property cursor.input)
      ((faulty failAt input).advance ctx path) := by
  intro usage cursor hcursor
  rcases cursor with ⟨pulls, cursor⟩
  rw [advance_faulty]
  by_cases hpull : pulls = failAt
  · rw [if_pos hpull]
    exact hcursor
  · rw [if_neg hpull]
    exact h usage hcursor

end

/-- The crashes that a pull on a pipeline can come to: a range without a bound can
count too far, and a stage can be too large for its window. -/
def MayCrash : Pipeline -> Crash -> Prop
  | range _ stop, cause => stop = none ∧ cause = .counterOverflow
  | tensors _, _ => False
  | counting _ input, cause => input.MayCrash cause
  | faulty _ input, cause => input.MayCrash cause
  | batch stage input, cause =>
      (Stage.windowLimit < stage.size ∧ cause = .capacityOverflow) ∨ input.MayCrash cause

theorem stop_eq_none_of_crash
    {stop : Option Int64} {path : String} {usage : Usage} {cell : Guarded Int64} {cause : Crash}
    (h : (advanceRange stop path usage cell).result = .error (.crash cause)) :
    stop = none ∧ cause = .counterOverflow ∧
      (advanceRange stop path usage cell).cursor.poisoned = true := by
  unfold advanceRange at h ⊢
  split at h
  · cases h
  · next hlock =>
      rw [if_neg hlock]
      split at h
      · cases h
      · next hstop =>
          rw [if_neg hstop]
          split at h
          · next hlast =>
              rw [if_pos hlast]
              cases h
              refine ⟨?_, rfl, rfl⟩
              cases stop with
              | none => rfl
              | some bound =>
                  -- no bound lies behind the largest integer
                  have hle : bound ≤ cell.content := by
                    rw [hlast]
                    exact Int64.le_maxValue bound
                  exact absurd (decide_eq_true hle) hstop
          · cases h

theorem pull_of_advance_crash
    {ctx : Context} {stage : Stage} {input : Pipeline} {path : String} {usage : Usage}
    {cell : Guarded (Feed (Cursor input))} {cause : Crash}
    (h : ((batch stage input).advance ctx path usage cell).result = .error (.crash cause)) :
    (stage.pull path (input.advance ctx (input.pathUnder path)) usage cell).1 =
      .error (.crash cause) := by
  rw [advance_batch] at h
  rcases hpull : stage.pull path (input.advance ctx (input.pathUnder path)) usage cell with
    ⟨result, cell', usage'⟩
  rw [hpull] at h
  cases result with
  | error f =>
      cases h
      rfl
  | ok window => exact absurd h (stage.deliver_quiet ctx usage' window cause)

/-- A pull that crashes does so for a reason that lies in the pipeline, whatever
the cursor, and leaves its lock poisoned. -/
theorem crash_of_advance
    {ctx : Context} {p : Pipeline} {path : String} {usage : Usage} {cursor : Cursor p}
    {cause : Crash} (h : (p.advance ctx path usage cursor).result = .error (.crash cause)) :
    p.MayCrash cause ∧ ¬ p.Unlocked (p.advance ctx path usage cursor).cursor := by
  induction p generalizing path usage with
  | range start stop =>
      rcases stop_eq_none_of_crash h with ⟨hstop, hcause, hpoisoned⟩
      refine ⟨⟨hstop, hcause⟩, fun hunlocked => ?_⟩
      exact Bool.noConfusion (hpoisoned.symm.trans hunlocked)
  | tensors source =>
      exfalso
      revert h
      show (advanceTensors source usage cursor).result ≠ _
      unfold advanceTensors
      split
      · exact quiet_ok _ cause
      · exact quiet_ok _ cause
  | counting tally input ih => exact ih h
  | faulty failAt input ih =>
      rcases cursor with ⟨pulls, cursor⟩
      rw [advance_faulty] at h ⊢
      by_cases hpull : pulls = failAt
      · rw [if_pos hpull] at h
        cases h
      · rw [if_neg hpull] at h ⊢
        exact ih h
  | batch stage input ih =>
      rcases cursor with ⟨feed, poisoned⟩
      rcases Stage.pull_of_crash (pull_of_advance_crash h) with ⟨hpoisoned, hcause⟩
      constructor
      · rcases hcause with hlarge | ⟨usage', cursor', hinput⟩
        · exact Or.inl hlarge
        · exact Or.inr (ih hinput).1
      · intro hunlocked
        rw [advance_batch_cursor] at hunlocked
        exact Bool.noConfusion (hpoisoned.symm.trans hunlocked)

end Pipeline

end TensorPipeline
