import TensorPipeline.Pipeline.Advance

/-!
# Who counts

Only counting layers write to the tallies, each to its own.  A pull on a pipeline in
which no layer has a number leaves the count with that number as it was.
-/

namespace TensorPipeline

def Usage.reading (u : Usage) (tally : Nat) : Option UInt64 := u.tallies.counts[tally]?

theorem Usage.reading_bump (u : Usage) (tally other : Nat) :
    (u.bump other).reading tally =
      (u.reading tally).map fun count => if other = tally then count + 1 else count :=
  List.getElem?_modify _ _ _ _

theorem Usage.reading_bump_self {u : Usage} {tally : Nat} {v : UInt64}
    (h : u.reading tally = some v) : (u.bump tally).reading tally = some (v + 1) := by
  show (u.tallies.counts.modify tally (· + 1))[tally]? = _
  rw [List.getElem?_modify_eq]
  exact congrArg (Option.map (· + 1)) h

theorem Usage.reading_bump_of_ne (u : Usage) {tally other : Nat} (h : tally ≠ other) :
    (u.bump other).reading tally = u.reading tally :=
  List.getElem?_modify_ne _ _ (Ne.symm h)

theorem Usage.count_of_reading {u : Usage} {tally : Nat} {v : UInt64}
    (h : u.reading tally = some v) : u.tallies.count tally = v := by
  rw [Tallies.count, List.getD_eq_getElem?_getD]
  exact congrArg (fun count => count.getD 0) h

namespace Stacking

variable (ctx : Context) (parallel : Bool)

theorem stackColumn_tallies (component : Nat) (usage : Usage) (column : List Tensor) :
    (stackColumn ctx parallel component usage column).2.tallies = usage.tallies := by
  cases column with
  | nil => rfl
  | cons first rest =>
      rw [stackColumn_cons]
      split
      · split
        · rfl
        · rfl
      · rfl

theorem stackColumns_tallies (component : Nat) (usage : Usage) (columns : List (List Tensor)) :
    (stackColumns ctx parallel component usage columns).2.tallies = usage.tallies := by
  induction columns generalizing component usage with
  | nil => rfl
  | cons column rest ih =>
      have hcolumn := stackColumn_tallies ctx parallel component usage column
      rcases hresult : stackColumn ctx parallel component usage column with ⟨_ | t, usage'⟩
      · rw [stackColumns_of_error hresult]
        rw [hresult] at hcolumn
        exact hcolumn
      · rw [stackColumns_of_ok hresult]
        rw [hresult] at hcolumn
        exact (ih (component + 1) usage').trans hcolumn

theorem stack_tallies (usage : Usage) (window : List Element) :
    (stack ctx parallel usage window).2.tallies = usage.tallies := by
  cases window with
  | nil => rfl
  | cons first rest =>
      cases hother : firstOtherCount first.length 0 (first :: rest) with
      | some other => rw [stack_of_other_count hother]
      | none =>
          rw [stack_of_equal_counts hother]
          exact stackColumns_tallies ctx parallel 0 usage _

end Stacking

theorem Stage.deliver_tallies
    (s : Stage) (ctx : Context) (usage : Usage) (window : List Element) :
    (s.deliver ctx usage window).2.tallies = usage.tallies := by
  have hstack := Stacking.stack_tallies ctx s.parallelCopy usage window
  unfold deliver
  split
  · rfl
  · split
    · rfl
    · rcases hresult : stack ctx s.parallelCopy usage window with ⟨_ | batch, usage'⟩
      · rw [hresult] at hstack
        exact hstack
      · rw [hresult] at hstack
        exact hstack

def LeavesAlone {γ : Type} (tally : Nat) (advance : Usage -> γ -> Step γ) : Prop :=
  forall (usage : Usage) (cursor : γ),
    (advance usage cursor).usage.reading tally = usage.reading tally

section

variable {γ : Type} {tally : Nat} {advance : Usage -> γ -> Step γ}

theorem pullWindow_reading
    (h : LeavesAlone tally advance) (room : Nat) (taken : List Element) (usage : Usage)
    (cursor : γ) :
    (pullWindow advance room taken usage cursor).2.2.reading tally = usage.reading tally := by
  induction room generalizing taken usage cursor with
  | zero => rfl
  | succ room ih =>
      have hstep := h usage cursor
      unfold pullWindow
      rcases hs : advance usage cursor with ⟨result, cursor', usage'⟩
      rw [hs] at hstep
      cases result with
      | error f => exact hstep
      | ok answer =>
          cases answer with
          | none => exact hstep
          | some e => exact (ih (e :: taken) usage' cursor').trans hstep

theorem Stage.pull_reading
    (h : LeavesAlone tally advance) (s : Stage) (path : String) (usage : Usage)
    (cell : Guarded (Feed γ)) :
    (s.pull path advance usage cell).2.2.reading tally = usage.reading tally := by
  unfold pull
  split
  · rfl
  · split
    · rfl
    · next cursor hactive =>
        have hwindow := pullWindow_reading h s.size [] usage cursor
        split
        · rfl
        · split
          · next hp =>
              rw [hp] at hwindow
              exact hwindow
          · next hp =>
              rw [hp] at hwindow
              exact hwindow
          · next hp =>
              rw [hp] at hwindow
              exact hwindow

end

namespace Pipeline

def tallies : Pipeline -> List Nat
  | range _ _ => []
  | tensors _ => []
  | counting tally input => tally :: input.tallies
  | faulty _ input => input.tallies
  | batch _ input => input.tallies

theorem advanceRange_usage
    (stop : Option Int64) (path : String) (usage : Usage) (cell : Guarded Int64) :
    (advanceRange stop path usage cell).usage = usage := by
  unfold advanceRange
  split
  · rfl
  · split
    · rfl
    · split
      · rfl
      · rfl

theorem advanceTensors_usage (source : TensorSource) (usage : Usage) (next : UInt64) :
    (advanceTensors source usage next).usage = usage := by
  unfold advanceTensors
  split
  · rfl
  · rfl

theorem advance_batch_reading
    (ctx : Context) (stage : Stage) (input : Pipeline) (path : String) (usage : Usage)
    (cell : Guarded (Feed (Cursor input))) (tally : Nat) :
    ((batch stage input).advance ctx path usage cell).usage.reading tally =
      (stage.pull path (input.advance ctx (input.pathUnder path)) usage cell).2.2.reading
        tally := by
  rw [advance_batch]
  rcases stage.pull path (input.advance ctx (input.pathUnder path)) usage cell with
    ⟨_ | window, cell', usage'⟩
  · rfl
  · exact congrArg (fun t => t.counts[tally]?) (stage.deliver_tallies ctx usage' window)

theorem advance_leavesAlone
    (ctx : Context) {p : Pipeline} (path : String) {tally : Nat} (h : tally ∉ p.tallies) :
    LeavesAlone tally (p.advance ctx path) := by
  induction p generalizing path with
  | range start stop =>
      intro usage cell
      exact congrArg (fun u => u.reading tally) (advanceRange_usage stop path usage cell)
  | tensors source =>
      intro usage next
      exact congrArg (fun u => u.reading tally) (advanceTensors_usage source usage next)
  | counting other input ih =>
      intro usage cursor
      have hne : tally ≠ other := List.ne_of_not_mem_cons h
      have hinput := ih path (List.not_mem_of_not_mem_cons h) (usage.bump other) cursor
      exact hinput.trans (usage.reading_bump_of_ne hne)
  | faulty failAt input ih =>
      intro usage cursor
      rcases cursor with ⟨pulls, cursor⟩
      rw [advance_faulty]
      split
      · rfl
      · exact ih path h usage cursor
  | batch stage input ih =>
      intro usage cell
      have hinput := ih (input.pathUnder path) h
      exact (advance_batch_reading ctx stage input path usage cell tally).trans
        (stage.pull_reading hinput path usage cell)

end Pipeline

end TensorPipeline
