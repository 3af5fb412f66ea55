import TensorPipeline.Pipeline.Advance
import TensorPipeline.Proofs.Stacking.Columns
import TensorPipeline.Proofs.Stacking.InTurn

/-!
# What a pull delivers

An element that a pipeline delivers is an integer of its range, an element of
its list, what the input of a counting or failing layer has delivered, or a
batch that a stage has stacked from a window of its input.  A property that each
of these ways gives is one of everything that is delivered, wherever the cursor
stands: nothing is asked of the cursor, so the iterator may be fresh, restored or
anywhere between.
-/

namespace TensorPipeline

/-!
## Batches beside the first element of their window
-/

/-- A tensor of a batch beside the one in the first element: the type is that
one's, and the shape is that one's with the number of elements in front. -/
def Stacked (count : Nat) (first batch : Tensor) : Prop :=
  batch.dtype = first.dtype ∧ batch.shape = first.shape.stacked (UInt64.ofNat count)

namespace Stacking

theorem fillBuffer_stacked
    {ctx : Context} {earlier : List UInt64} {parallel : Bool} {component : Nat}
    {first : Tensor} {column : List Tensor} {batchShape : Shape} {width : Nat}
    {buffer : List UInt8} {batch : Tensor}
    (h : fillBuffer ctx earlier parallel component first column batchShape width buffer =
      .ok batch) :
    batch.dtype = first.dtype ∧ batch.shape = batchShape := by
  unfold fillBuffer at h
  cases hslots : slotsOf column.length width buffer with
  | error c =>
      rw [hslots] at h
      cases h
  | ok slots =>
      simp only [hslots] at h
      split at h
      · cases h
      · cases h
      · cases h
        exact ⟨rfl, rfl⟩

theorem stackColumn_stacked
    {ctx : Context} {parallel : Bool} {component : Nat} {usage usage' : Usage}
    {column : List Tensor} {batch : Tensor}
    (h : stackColumn ctx parallel component usage column = (.ok batch, usage')) :
    exists (first : Tensor) (rest : List Tensor),
      column = first :: rest ∧ Stacked column.length first batch := by
  cases column with
  | nil => cases h
  | cons first rest =>
      rw [stackColumn_cons] at h
      split at h
      · split at h
        · cases h
        · exact ⟨first, rest, rfl, fillBuffer_stacked (congrArg Prod.fst h)⟩
      · cases h

theorem stackColumns_stacked
    {ctx : Context} {parallel : Bool} {component : Nat} {usage : Usage}
    {columns : List (List Tensor)} {batch : Element}
    (h : (stackColumns ctx parallel component usage columns).1 = .ok batch) :
    List.Forall₂
      (fun (column : List Tensor) (t : Tensor) =>
        exists (first : Tensor) (rest : List Tensor),
          column = first :: rest ∧ Stacked column.length first t)
      columns batch := by
  refine (forall₂_of_stackColumns_ok h).imp ?_
  rintro column t ⟨c, before, after, hcolumn⟩
  exact stackColumn_stacked hcolumn

theorem forall₂_columns
    {first : Element} {rest : List Element}
    (hcount : forall e : Element, e ∈ first :: rest -> e.length = first.length) :
    List.Forall₂
      (fun (t : Tensor) (column : List Tensor) =>
        exists more : List Tensor,
          column = t :: more ∧ column.length = (first :: rest).length)
      first (columns first.length (first :: rest)) := by
  rw [List.forall₂_iff_get]
  constructor
  · rw [columns, List.length_map, List.length_range]
  · intro component hfirst hcolumns
    have hlength : (column (first :: rest) component).length = (first :: rest).length :=
      length_column fun e he => by
        rw [hcount e he]
        exact hfirst
    have hcolumn := column_cons (List.getElem?_eq_getElem hfirst) rest
    have hget : (columns first.length (first :: rest)).get ⟨component, hcolumns⟩ =
        column (first :: rest) component := by
      simp only [columns, List.get_eq_getElem, List.getElem_map, List.getElem_range]
      rfl
    rw [hget]
    exact ⟨column rest component, hcolumn, hlength⟩

theorem stack_stacked
    {ctx : Context} {parallel : Bool} {usage : Usage} {window : List Element}
    {batch : Element} (h : (stack ctx parallel usage window).1 = .ok batch) :
    exists (first : Element) (rest : List Element),
      window = first :: rest ∧ List.Forall₂ (Stacked window.length) first batch := by
  cases window with
  | nil => cases h
  | cons first rest =>
      refine ⟨first, rest, rfl, ?_⟩
      cases hother : firstOtherCount first.length 0 (first :: rest) with
      | some other =>
          rw [stack_of_other_count hother] at h
          cases h
      | none =>
          rw [stack_of_equal_counts hother] at h
          rw [firstOtherCount_eq, Option.map_eq_none_iff] at hother
          have hcount (e : Element) (he : e ∈ first :: rest) : e.length = first.length :=
            of_decide_eq_true (firstOther_eq_none_iff.mp hother e he)
          rcases List.forall₂_iff_get.mp (forall₂_columns hcount) with ⟨hcolumns, hcolumn⟩
          rcases List.forall₂_iff_get.mp (stackColumns_stacked h) with ⟨hbatch, hstacked⟩
          refine List.forall₂_iff_get.mpr ⟨hcolumns.trans hbatch, fun component ht hu => ?_⟩
          have hc := Nat.lt_of_lt_of_eq ht hcolumns
          rcases hcolumn component ht hc with ⟨more, hcut, hlength⟩
          rcases hstacked component hc hu with ⟨t, more', hcut', hstack⟩
          rw [hcut] at hcut'
          cases hcut'
          rw [hlength] at hstack
          exact hstack

end Stacking

/-!
## Windows
-/

def Pulled.window : Pulled -> List Element
  | .full window => window
  | .ended window => window
  | .failed _ => []

structure Stage.Accepts (s : Stage) (window : List Element) : Prop where
  ne_nil : window ≠ []
  length_le : window.length ≤ s.size
  length_eq : s.dropRemainder = true -> window.length = s.size

def Delivers {γ : Type} (property : Element -> Prop) (advance : Usage -> γ -> Step γ) : Prop :=
  forall (usage : Usage) (cursor : γ) (e : Element),
    (advance usage cursor).result = .ok (some e) -> property e

section

variable {γ : Type} {property : Element -> Prop} {advance : Usage -> γ -> Step γ}

theorem pullWindow_delivers
    (hdelivers : Delivers property advance) (room : Nat) {taken : List Element}
    (htaken : forall e : Element, e ∈ taken -> property e) (usage : Usage) (cursor : γ) :
    (forall e : Element, e ∈ (pullWindow advance room taken usage cursor).1.window ->
        property e) ∧
      (pullWindow advance room taken usage cursor).1.window.length ≤ taken.length + room := by
  induction room generalizing taken usage cursor with
  | zero =>
      constructor
      · intro e he
        exact htaken e (List.mem_reverse.mp he)
      · exact Nat.le_of_eq List.length_reverse
  | succ room ih =>
      have hstep := hdelivers usage cursor
      unfold pullWindow
      rcases hs : advance usage cursor with ⟨result, cursor', usage'⟩
      rw [hs] at hstep
      cases result with
      | error f =>
          constructor
          · intro e he
            cases he
          · exact Nat.zero_le _
      | ok answer =>
          cases answer with
          | none =>
              constructor
              · intro e he
                exact htaken e (List.mem_reverse.mp he)
              · show taken.reverse.length ≤ taken.length + (room + 1)
                rw [List.length_reverse]
                exact Nat.le_add_right _ _
          | some e =>
              have hmore : forall e' : Element, e' ∈ e :: taken -> property e' := by
                intro e' he'
                rcases List.mem_cons.mp he' with rfl | he'
                · exact hstep e' rfl
                · exact htaken e' he'
              have hwindow := ih hmore usage' cursor'
              rw [List.length_cons, Nat.add_assoc, Nat.add_comm 1] at hwindow
              exact hwindow

theorem Stage.pull_delivers
    (hdelivers : Delivers property advance) {s : Stage} {path : String} {usage usage' : Usage}
    {cell cell' : Guarded (Feed γ)} {window : List Element}
    (h : s.pull path advance usage cell = (.ok window, cell', usage')) :
    (forall e : Element, e ∈ window -> property e) ∧ window.length ≤ s.size := by
  unfold pull at h
  split at h
  · cases h
  · split at h
    · cases h
      exact ⟨fun e he => absurd he List.not_mem_nil, Nat.zero_le _⟩
    · next cursor _ =>
        have hwindow := pullWindow_delivers hdelivers s.size
          (fun e he => absurd he List.not_mem_nil) usage cursor
        rw [List.length_nil, Nat.zero_add] at hwindow
        split at h
        · cases h
        · split at h
          · next hp =>
              cases h
              rw [hp] at hwindow
              exact hwindow
          · next hp =>
              cases h
              rw [hp] at hwindow
              exact hwindow
          · cases h

end

theorem Stage.deliver_eq_some
    {s : Stage} {ctx : Context} {usage : Usage} {window : List Element} {batch : Element}
    (hlength : window.length ≤ s.size) (h : (s.deliver ctx usage window).1 = .ok (some batch)) :
    s.Accepts window ∧ (stack ctx s.parallelCopy usage window).1 = .ok batch := by
  unfold deliver at h
  split at h
  · cases h
  · next hempty =>
      split at h
      · cases h
      · next hshort =>
          have haccepts : s.Accepts window := by
            constructor
            · intro hnil
              rw [hnil] at hempty
              exact hempty rfl
            · exact hlength
            · intro hdrop
              rw [hdrop, Bool.true_and, decide_eq_true_eq] at hshort
              exact Nat.le_antisymm hlength (Nat.not_lt.mp hshort)
          refine ⟨haccepts, ?_⟩
          split at h
          · next hstack =>
              cases h
              rw [hstack]
          · cases h

/-!
## Whole pipelines
-/

/-- A property of elements, chosen for every pipeline, that each way of coming by
an element gives. -/
structure Inherited (ctx : Context) (property : Pipeline -> Element -> Prop) : Prop where
  range : forall (start : Int64) (stop : Option Int64) (value : Int64),
    property (.range start stop) [Tensor.ofScalar .int64 value]
  tensors : forall (source : TensorSource) (e : Element),
    e ∈ source.elements -> property (.tensors source) e
  counting : forall (tally : Nat) (input : Pipeline) (e : Element),
    property input e -> property (.counting tally input) e
  faulty : forall (failAt : UInt64) (input : Pipeline) (e : Element),
    property input e -> property (.faulty failAt input) e
  batch : forall (stage : Stage) (input : Pipeline) (usage : Usage) (window : List Element)
    (batch : Element),
    stage.Accepts window -> (forall e : Element, e ∈ window -> property input e) ->
      (stack ctx stage.parallelCopy usage window).1 = .ok batch ->
      property (.batch stage input) batch

section

variable {ctx : Context} {property : Pipeline -> Element -> Prop}

theorem advanceRange_delivers
    (h : Inherited ctx property) (start : Int64) (stop : Option Int64) (path : String) :
    Delivers (property (.range start stop)) (Pipeline.advanceRange stop path) := by
  intro usage cell e he
  unfold Pipeline.advanceRange at he
  split at he
  · cases he
  · split at he
    · cases he
    · split at he
      · cases he
      · cases he
        exact h.range start stop cell.content

theorem advanceTensors_delivers (h : Inherited ctx property) (source : TensorSource) :
    Delivers (property (.tensors source)) (Pipeline.advanceTensors source) := by
  intro usage next e he
  unfold Pipeline.advanceTensors at he
  split at he
  · next found hfound =>
      cases he
      exact h.tensors source e (List.mem_of_getElem? hfound)
  · cases he

theorem Inherited.advance (h : Inherited ctx property) (p : Pipeline) (path : String) :
    Delivers (property p) (p.advance ctx path) := by
  induction p generalizing path with
  | range start stop => exact advanceRange_delivers h start stop path
  | tensors source => exact advanceTensors_delivers h source
  | counting tally input ih =>
      intro usage cursor e he
      exact h.counting tally input e (ih path _ _ e he)
  | faulty failAt input ih =>
      intro usage cursor e he
      rcases cursor with ⟨pulls, cursor⟩
      rw [Pipeline.advance_faulty] at he
      split at he
      · cases he
      · exact h.faulty failAt input e (ih path _ _ e he)
  | batch stage input ih =>
      intro usage cell e he
      rcases cell with ⟨feed, poisoned⟩
      rw [Pipeline.advance_batch] at he
      rcases hpull : stage.pull path (input.advance ctx (input.pathUnder path)) usage
        ⟨feed, poisoned⟩ with ⟨result, cell', usage'⟩
      rw [hpull] at he
      cases result with
      | error f => cases he
      | ok window =>
          rcases Stage.pull_delivers (ih (input.pathUnder path)) hpull with ⟨hwindow, hlength⟩
          rcases Stage.deliver_eq_some hlength he with ⟨haccepts, hstack⟩
          exact h.batch stage input usage' window e haccepts hwindow hstack

end

end TensorPipeline
