import TensorPipeline.Proofs.Memoryless
import TensorPipeline.Proofs.Stacking.InTurn

/-!
# Stacking at once beside stacking in turn

Whether copies run in turn or are handed to a pool, and in whatever order the
pool runs them, a window comes to the same batch or to the same error; only when
several copies of one component fault may the fault that is named be another one.
The same then holds of every call on a pipeline, however its stages copy.
-/

namespace TensorPipeline
namespace Stacking

inductive CopyError (component : Nat) : Error -> Prop where
  | typeMismatch (index : Nat) (expected actual : DType) :
      CopyError component (.typeMismatch component index expected actual)
  | slotSize (index actual slot : Nat) :
      CopyError component (.tensor (.slotSize index component actual slot))

theorem copyError_of_fault
    {component index : Nat} {dtype : DType} {pair : Tensor × List UInt8} {e : Error}
    (h : fault component dtype index pair = some e) : CopyError component e := by
  unfold fault copyToSlot at h
  by_cases hdtype : pair.1.dtype = dtype
  · by_cases hlength : pair.1.data.length = pair.2.length
    · simp [hdtype, hlength] at h
    · simp only [hdtype, ne_eq, not_true, if_false, hlength, not_false_eq_true, if_true,
        Option.some.injEq] at h
      rw [← h]
      exact CopyError.slotSize index _ _
  · simp only [ne_eq, hdtype, not_false_eq_true, if_true, Option.some.injEq] at h
    rw [← h]
    exact CopyError.typeMismatch index dtype _

/-!
## Faults noted
-/

section

variable {component : Nat} {dtype : DType} {placement : Placement} {noted noted' : Option Error}

structure Notes (component : Nat) (dtype : DType) (placement : Placement)
    (noted : Option Error) : Prop where
  possible : forall e : Error, noted = some e ->
    exists index : Nat, faultAt component dtype placement index = some e
  complete : noted = none -> forall index : Nat, faultAt component dtype placement index = none

theorem notes_firstFault (component : Nat) (dtype : DType) (placement : Placement) :
    Notes component dtype placement (firstFault component dtype 0 placement) := by
  constructor
  · intro e he
    rcases List.exists_of_findSome?_eq_some he with ⟨item, hitem, hfault⟩
    refine ⟨item.2, ?_⟩
    rw [faultAt, List.mem_zipIdx_iff_getElem?.mp hitem]
    exact hfault
  · intro hnone index
    rw [faultAt]
    cases hpair : placement[index]? with
    | none => rfl
    | some pair =>
        exact List.findSome?_eq_none_iff.mp hnone (pair, index)
          (List.mem_zipIdx_iff_getElem?.mpr hpair)

theorem notes_findSome?
    {order : List Nat} (horder : order.Perm (List.range placement.length)) :
    Notes component dtype placement (order.findSome? (faultAt component dtype placement)) := by
  constructor
  · intro e he
    rcases List.exists_of_findSome?_eq_some he with ⟨index, _, hfault⟩
    exact ⟨index, hfault⟩
  · intro hnone index
    by_cases hindex : index < placement.length
    · refine List.findSome?_eq_none_iff.mp hnone index ?_
      rw [horder.mem_iff, List.mem_range]
      exact hindex
    · rw [faultAt, List.getElem?_eq_none (Nat.le_of_not_lt hindex)]
      rfl

theorem notes_notedFault
    (ctx : Context) (earlier : List UInt64) (parallel : Bool) (component : Nat) (dtype : DType)
    (placement : Placement) :
    Notes component dtype placement
      (notedFault ctx earlier parallel component dtype placement) := by
  cases parallel with
  | false => exact notes_firstFault component dtype placement
  | true => exact notes_findSome? (ctx.pool.schedule.complete earlier placement.length)

theorem Notes.agree
    (h : Notes component dtype placement noted) (h' : Notes component dtype placement noted') :
    noted = none ∧ noted' = none ∨
      exists e e' : Error, noted = some e ∧ noted' = some e' := by
  cases hnoted : noted with
  | none =>
      cases hnoted' : noted' with
      | none => exact Or.inl ⟨rfl, rfl⟩
      | some e' =>
          rcases h'.possible e' hnoted' with ⟨index, hindex⟩
          rw [h.complete hnoted index] at hindex
          cases hindex
  | some e =>
      cases hnoted' : noted' with
      | none =>
          rcases h.possible e hnoted with ⟨index, hindex⟩
          rw [h'.complete hnoted' index] at hindex
          cases hindex
      | some e' => exact Or.inr ⟨e, e', rfl, rfl⟩

end

/-!
## One component
-/

/-- The same result and no fault of a copy, or two faults of one component, both
of them possible. -/
inductive SameUpToFault (possible : Nat -> Error -> Prop) {α : Type} :
    Except Failure α -> Except Failure α -> Prop where
  | ok (a : α) : SameUpToFault possible (.ok a) (.ok a)
  | crash (c : Crash) : SameUpToFault possible (.error (.crash c)) (.error (.crash c))
  | error {e : Error} :
      (forall component : Nat, ¬ CopyError component e) ->
      SameUpToFault possible (.error (.error e)) (.error (.error e))
  | fault {component : Nat} {e e' : Error} :
      possible component e -> possible component e' ->
      SameUpToFault possible (.error (.error e)) (.error (.error e'))

theorem SameUpToFault.mono
    {possible possible' : Nat -> Error -> Prop} {α : Type} {a b : Except Failure α}
    (h : SameUpToFault possible a b)
    (himp : forall (component : Nat) (e : Error),
      possible component e -> possible' component e) :
    SameUpToFault possible' a b := by
  cases h with
  | ok a => exact SameUpToFault.ok a
  | crash c => exact SameUpToFault.crash c
  | error he => exact SameUpToFault.error he
  | fault he he' => exact SameUpToFault.fault (himp _ _ he) (himp _ _ he')

theorem SameUpToFault.map
    {possible : Nat -> Error -> Prop} {α β : Type} {a b : Except Failure α}
    (h : SameUpToFault possible a b) (f : α -> β) :
    SameUpToFault possible (a.map f) (b.map f) := by
  cases h with
  | ok a => exact SameUpToFault.ok (f a)
  | crash c => exact SameUpToFault.crash c
  | error he => exact SameUpToFault.error he
  | fault he he' => exact SameUpToFault.fault he he'

theorem not_copyError_exhausted (c : Nat) (bytes : UInt64) (component : Nat) :
    ¬ CopyError component (.exhausted c bytes) := by
  intro h
  cases h

/-- The copy of a tensor that has the shape of the first one faults on a slot of
the right width. -/
inductive ColumnFault (component : Nat) : List Tensor -> Error -> Prop where
  | intro {first t : Tensor} {rest : List Tensor} {index : Nat} {width : UInt64}
      {slot : List UInt8} {e : Error}
      (get : (first :: rest)[index]? = some t) (shape_eq : t.shape = first.shape)
      (byteSize?_eq : first.shape.byteSize? first.dtype = some width)
      (length_eq : slot.length = width.toNat)
      (fault_eq : fault component first.dtype index (t, slot) = some e) :
      ColumnFault component (first :: rest) e

theorem ColumnFault.copyError
    {component : Nat} {column : List Tensor} {e : Error} (h : ColumnFault component column e) :
    CopyError component e := by
  cases h with
  | intro _ _ _ _ hfault => exact copyError_of_fault hfault

theorem ColumnFault.typeMismatch
    {component : Nat} {first : Tensor} {rest : List Tensor} {e : Error}
    (h : ColumnFault component (first :: rest) e)
    (hwf : forall t : Tensor, t ∈ first :: rest -> t.WellFormed) :
    exists (index : Nat) (t : Tensor),
      (first :: rest)[index]? = some t ∧ t.dtype ≠ first.dtype ∧
        e = .typeMismatch component index first.dtype t.dtype := by
  cases h with
  | intro hget hshape hwidth hslot hfault =>
      rename_i t index width slot
      have hfirst := hwf first List.mem_cons_self
      have hdata (hdtype : t.dtype = first.dtype) : t.data.length = width.toNat := by
        rcases hfirst.byteSize?_eq with ⟨width', hwidth', hlength⟩
        rw [hwidth] at hwidth'
        cases hwidth'
        rw [length_data_eq hfirst (hwf t (List.mem_of_getElem? hget)) hshape hdtype, hlength]
      rw [fault_of_slot hslot hdata] at hfault
      by_cases hdtype : t.dtype = first.dtype
      · rw [if_pos hdtype] at hfault
        cases hfault
      · rw [if_neg hdtype] at hfault
        exact ⟨index, t, hget, hdtype, (Option.some.inj hfault).symm⟩

section

variable {ctx ctx' : Context}

theorem fillBuffer_alike
    (earlier : List UInt64) (parallel parallel' : Bool) (component : Nat) {first : Tensor}
    {rest : List Tensor} (batchShape : Shape) {whole : Nat} {width : UInt64}
    {buffer : List UInt8} (hwidth : first.shape.byteSize? first.dtype = some width)
    (hlength : buffer.length = whole * width.toNat) :
    SameUpToFault (fun c e => c = component ∧ ColumnFault c (first :: rest) e)
      (fillBuffer ctx earlier parallel component first (first :: rest) batchShape
        width.toNat buffer)
      (fillBuffer ctx' earlier parallel' component first (first :: rest) batchShape
        width.toNat buffer) := by
  rcases slotsOf_eq (first :: rest).length hlength with ⟨slots, hcut, hslots⟩
  rw [fillBuffer_eq ctx earlier parallel component first _ hcut,
    fillBuffer_eq ctx' earlier parallel' component first _ hcut]
  unfold filled
  cases hshape : firstOther (fun pair : Tensor × List UInt8 => pair.1.shape = first.shape)
      ((first :: rest).zip slots) with
  | some item => exact SameUpToFault.error fun component h => by cases h
  | none =>
      -- all shapes agree, so every fault noted is a possible one of this column
      have hnotes := notes_notedFault ctx earlier parallel component first.dtype
        ((first :: rest).zip slots)
      have hnotes' := notes_notedFault ctx' earlier parallel' component first.dtype
        ((first :: rest).zip slots)
      have hcolumn {e : Error} (he : exists index : Nat,
          faultAt component first.dtype ((first :: rest).zip slots) index = some e) :
          ColumnFault component (first :: rest) e := by
        rcases he with ⟨index, hindex⟩
        rcases Option.bind_eq_some_iff.mp hindex with ⟨⟨t, slot⟩, hpair, hfault⟩
        rcases List.getElem?_zip_eq_some.mp hpair with ⟨ht, hslot⟩
        have hsame := firstOther_eq_none_iff.mp hshape (t, slot) (List.mem_of_getElem? hpair)
        exact ColumnFault.intro ht (of_decide_eq_true hsame) hwidth
          (hslots.width_eq slot (List.mem_of_getElem? hslot)) hfault
      rcases hnotes.agree hnotes' with ⟨h, h'⟩ | ⟨e, e', h, h'⟩
      · rw [h, h']
        exact SameUpToFault.ok _
      · rw [h, h']
        exact SameUpToFault.fault ⟨rfl, hcolumn (hnotes.possible e h)⟩
          ⟨rfl, hcolumn (hnotes'.possible e' h')⟩

theorem stackColumn_alike
    (halloc : ctx'.allocator = ctx.allocator) (parallel parallel' : Bool) (component : Nat)
    (usage : Usage) (column : List Tensor) :
    SameUpToFault (fun c e => c = component ∧ ColumnFault c column e)
        (stackColumn ctx parallel component usage column).1
        (stackColumn ctx' parallel' component usage column).1 ∧
      (stackColumn ctx parallel component usage column).2 =
        (stackColumn ctx' parallel' component usage column).2 := by
  cases column with
  | nil => exact ⟨SameUpToFault.crash _, rfl⟩
  | cons first rest =>
      rw [stackColumn_cons, stackColumn_cons, halloc]
      cases hbytes : (first.shape.stacked (UInt64.ofNat (first :: rest).length)).byteSize?
          first.dtype with
      | none => exact ⟨SameUpToFault.error (not_copyError_exhausted _ _), rfl⟩
      | some bytes =>
          cases hwidth : first.shape.byteSize? first.dtype with
          | none => exact ⟨SameUpToFault.error (not_copyError_exhausted _ _), rfl⟩
          | some width =>
              simp only
              cases hserve : ctx.allocator.serve usage.requests bytes with
              | none => exact ⟨SameUpToFault.error (not_copyError_exhausted _ _), rfl⟩
              | some buffer =>
                  -- more tensors than 64 bits can count would get fewer slots; the
                  -- copies are alike even then
                  have hwhole := Shape.byteSize?_eq_some_iff.mp hbytes
                  rw [Shape.volume_stacked, Nat.mul_assoc,
                    Shape.byteSize?_eq_some_iff.mp hwidth] at hwhole
                  have hlength := (ctx.allocator.exact_length hserve).trans hwhole.symm
                  exact ⟨fillBuffer_alike _ parallel parallel' component _ hwidth hlength, rfl⟩

/-!
## One window
-/

theorem stackColumns_alike
    (halloc : ctx'.allocator = ctx.allocator) (parallel parallel' : Bool) (component : Nat)
    (usage : Usage) (columns : List (List Tensor)) :
    SameUpToFault
        (fun c e => exists (i : Nat) (column : List Tensor),
          columns[i]? = some column ∧ c = component + i ∧ ColumnFault c column e)
        (stackColumns ctx parallel component usage columns).1
        (stackColumns ctx' parallel' component usage columns).1 ∧
      (stackColumns ctx parallel component usage columns).2 =
        (stackColumns ctx' parallel' component usage columns).2 := by
  induction columns generalizing component usage with
  | nil => exact ⟨SameUpToFault.ok _, rfl⟩
  | cons column columns ih =>
      have hcolumn := stackColumn_alike halloc parallel parallel' component usage column
      rcases ha : stackColumn ctx parallel component usage column with ⟨a, usage'⟩
      rcases hb : stackColumn ctx' parallel' component usage column with ⟨b, usage''⟩
      rw [ha, hb] at hcolumn
      rcases hcolumn with ⟨hresult, husage⟩
      cases husage
      cases hresult with
      | ok t =>
          rcases ih (component + 1) usage' with ⟨hrest, husage⟩
          rw [stackColumns_of_ok ha, stackColumns_of_ok hb]
          refine ⟨(hrest.map (t :: ·)).mono ?_, husage⟩
          rintro c e ⟨i, column', hget, hc, hfault⟩
          exact ⟨i + 1, column', hget, by omega, hfault⟩
      | crash c =>
          rw [stackColumns_of_error ha, stackColumns_of_error hb]
          exact ⟨SameUpToFault.crash c, rfl⟩
      | error he =>
          rw [stackColumns_of_error ha, stackColumns_of_error hb]
          exact ⟨SameUpToFault.error he, rfl⟩
      | fault he he' =>
          rw [stackColumns_of_error ha, stackColumns_of_error hb]
          exact ⟨SameUpToFault.fault ⟨0, column, rfl, he.1, he.2⟩ ⟨0, column, rfl, he'.1, he'.2⟩,
            rfl⟩

theorem stack_alike
    (halloc : ctx'.allocator = ctx.allocator) (parallel parallel' : Bool) (usage : Usage)
    (first : Element) (rest : List Element) :
    SameUpToFault
        (fun c e => (forall e' : Element, e' ∈ first :: rest -> e'.length = first.length) ∧
          c < first.length ∧ ColumnFault c (column (first :: rest) c) e)
        (stack ctx parallel usage (first :: rest)).1
        (stack ctx' parallel' usage (first :: rest)).1 ∧
      (stack ctx parallel usage (first :: rest)).2 =
        (stack ctx' parallel' usage (first :: rest)).2 := by
  have hcounts := firstOtherCount_eq first.length (first :: rest)
  cases hother : firstOther (fun e : Element => e.length = first.length) (first :: rest) with
  | some item =>
      rw [hother] at hcounts
      rw [stack_of_other_count hcounts, stack_of_other_count hcounts]
      exact ⟨SameUpToFault.error (fun component h => by cases h), rfl⟩
  | none =>
      rw [hother] at hcounts
      rw [stack_of_equal_counts hcounts, stack_of_equal_counts hcounts]
      rcases stackColumns_alike halloc parallel parallel' 0 usage
        (columns first.length (first :: rest)) with ⟨hresult, husage⟩
      refine ⟨hresult.mono ?_, husage⟩
      rintro c e ⟨i, column', hget, hc, hfault⟩
      rw [Nat.zero_add] at hc
      cases hc
      rw [columns, List.getElem?_map] at hget
      rcases Option.map_eq_some_iff.mp hget with ⟨c', hrange, hcolumn⟩
      rcases List.getElem?_eq_some_iff.mp hrange with ⟨hlt, hc'⟩
      rw [List.length_range] at hlt
      rw [List.getElem_range] at hc'
      cases hc'
      cases hcolumn
      refine ⟨fun e' he' => ?_, hlt, hfault⟩
      exact of_decide_eq_true (firstOther_eq_none_iff.mp hother e' he')

end

theorem getElem?_column
    {window : List Element} {component : Nat}
    (h : forall e : Element, e ∈ window -> component < e.length) (index : Nat) :
    (column window component)[index]? = window[index]?.bind fun e => e[component]? := by
  induction window generalizing index with
  | nil => rfl
  | cons e window ih =>
      have he := h e List.mem_cons_self
      rw [column_cons (List.getElem?_eq_getElem he)]
      cases index with
      | zero => exact (List.getElem?_eq_getElem he).symm
      | succ index => exact ih (fun e' he' => h e' (List.mem_cons_of_mem e he')) index

/-- The result of copying at once, given that of copying in turn: the same, but
where types differ another of the elements concerned may be named. -/
def RefinesInTurn (first : Element) (window : List Element)
    (atOnce inTurn : Except Failure Element) : Prop :=
  match inTurn with
  | .error (.error (.typeMismatch component _ expected _)) =>
      exists (index : Nat) (e : Element) (t : Tensor),
        window[index]? = some e ∧ e[component]? = some t ∧
          first[component]?.map Tensor.dtype = some expected ∧ t.dtype ≠ expected ∧
          atOnce = .error (.error (.typeMismatch component index expected t.dtype))
  | _ => atOnce = inTurn

theorem RefinesInTurn.of_ne_typeMismatch
    {first : Element} {window : List Element} {result : Except Failure Element}
    (h : forall (component index : Nat) (expected actual : DType),
      result ≠ .error (.error (.typeMismatch component index expected actual))) :
    RefinesInTurn first window result result := by
  unfold RefinesInTurn
  split
  · exact absurd rfl (h _ _ _ _)
  · rfl

theorem stack_refines
    {ctx ctx' : Context} (halloc : ctx'.allocator = ctx.allocator) (usage : Usage)
    {first : Element} {rest : List Element}
    (hwf : forall e : Element, e ∈ first :: rest -> forall t : Tensor, t ∈ e -> t.WellFormed) :
    RefinesInTurn first (first :: rest) (stack ctx true usage (first :: rest)).1
      (stack ctx' false usage (first :: rest)).1 := by
  have hstack := (stack_alike halloc true false usage first rest).1
  generalize (stack ctx true usage (first :: rest)).1 = atOnce at hstack ⊢
  generalize (stack ctx' false usage (first :: rest)).1 = inTurn at hstack ⊢
  cases hstack with
  | ok batch => exact rfl
  | crash c => exact rfl
  | error he =>
      refine RefinesInTurn.of_ne_typeMismatch fun component index expected actual heq => ?_
      cases heq
      exact he component (CopyError.typeMismatch index expected actual)
  | fault he he' =>
      rename_i component e e'
      rcases he with ⟨hcount, hcomponent, hfault⟩
      rcases he' with ⟨_, _, hfault'⟩
      have hget : first[component]? = some first[component] :=
        List.getElem?_eq_getElem hcomponent
      have hwf' (t : Tensor) (ht : t ∈ first[component] :: column rest component) :
          t.WellFormed := by
        rw [← column_cons hget] at ht
        exact wellFormed_of_mem_column hwf ht
      rw [column_cons hget] at hfault hfault'
      -- well-formed tensors of one shape and type fit their slots, so both
      -- faults are about a type
      rcases hfault.typeMismatch hwf' with ⟨index, t, ht, hdtype, rfl⟩
      rcases hfault'.typeMismatch hwf' with ⟨index', t', _, _, rfl⟩
      rw [← column_cons hget, getElem?_column fun e he => by rw [hcount e he]; exact hcomponent]
        at ht
      rcases Option.bind_eq_some_iff.mp ht with ⟨e, he, hte⟩
      exact ⟨index, e, t, he, hte, by rw [hget]; rfl, hdtype, rfl⟩

/-!
## Runs
-/

/-- Failures that differ at most in which fault of one component they name, and
the same usage. -/
def anyFault : Likeness where
  failures f g := f = g ∨
    exists (component : Nat) (e e' : Error),
      f = .error e ∧ g = .error e' ∧ CopyError component e ∧ CopyError component e'
  usages := Eq
  failures_refl _ := Or.inl rfl
  poisons_eq := by
    rintro f g (rfl | ⟨_, e, e', rfl, rfl, _, _⟩)
    · rfl
    · rfl
  usages_bump tally h := congrArg (Usage.bump · tally) h

theorem SameUpToFault.answers
    {possible : Nat -> Error -> Prop} {α : Type} {a b : Except Failure α}
    (h : SameUpToFault possible a b)
    (himp : forall (component : Nat) (e : Error),
      possible component e -> CopyError component e) :
    anyFault.Answers a b := by
  cases h with
  | fault he he' =>
      exact Likeness.Answers.error
        (Or.inr ⟨_, _, _, rfl, rfl, himp _ _ he, himp _ _ he'⟩)
  | _ => exact anyFault.answers_refl _

theorem stack_outcomes
    {ctx ctx' : Context} (halloc : ctx'.allocator = ctx.allocator) (parallel parallel' : Bool)
    (usage : Usage) (window : List Element) :
    anyFault.Outcomes (stack ctx parallel usage window) (stack ctx' parallel' usage window) := by
  cases window with
  | nil => exact ⟨anyFault.answers_refl _, rfl⟩
  | cons first rest =>
      rcases stack_alike halloc parallel parallel' usage first rest with ⟨hresult, husage⟩
      exact ⟨hresult.answers fun _ _ h => h.2.2.copyError, husage⟩

/-- Copying at once refines copying in turn, whatever the order of the copies.
On a window of well-formed tensors the results agree up to which element of a
wrong type is named.  In a run of calls, on pipelines that may differ in how each
of their stages copies and under pools that may order the copies differently,
every call gives the same element, the end in both, or failures in both that are
equal up to which faulty copy of a component is named, and it uses the same. -/
theorem parallel_copy_refines
    {ctx ctx' : Context} (halloc : ctx'.allocator = ctx.allocator) :
    (forall (usage : Usage) (first : Element) (rest : List Element),
      (forall e : Element, e ∈ first :: rest -> forall t : Tensor, t ∈ e -> t.WellFormed) ->
      RefinesInTurn first (first :: rest) (stack ctx true usage (first :: rest)).1
        (stack ctx' false usage (first :: rest)).1) ∧
      (forall p q : Pipeline, Pipeline.Alike (fun _ _ => True) p q ->
        forall (path : String) (usage : Nat -> Usage) (n : Nat),
          anyFault.Answers (p.answer ctx path usage n) (q.answer ctx' path usage n) ∧
            (p.reply ctx path usage n).usage = (q.reply ctx' path usage n).usage) := by
  refine ⟨fun usage first rest hwf => stack_refines halloc usage hwf, ?_⟩
  intro p q halike path usage n
  have hsim : anyFault.Simulates (Pipeline.CursorsAlike p q) (p.advance ctx path)
      (q.advance ctx' path) := by
    refine halike.advance ?_ path
    intro parallel parallel' u v window _ husage
    cases husage
    exact stack_outcomes halloc parallel parallel' u window
  have husages (i : Nat) : anyFault.usages (usage i) (usage i) := rfl
  have hreply := reply_alike hsim husages halike.start n
  exact ⟨hreply.result, hreply.usage⟩

def backwards : Context where
  allocator := Allocator.heap
  pool :=
    { threads := none
      schedule :=
        { order := fun _ n => (List.range n).reverse
          complete := fun _ n => List.reverse_perm (List.range n) } }

def oneByte : Element := [⟨.uint8, ⟨[]⟩, [7]⟩]

def twoBools : List Element := [[⟨.bool, ⟨[]⟩, [1]⟩], [⟨.bool, ⟨[]⟩, [0]⟩]]

def nestedPairs (parallel : Bool) : Pipeline :=
  .batch { Stage.pairs with parallelCopy := parallel }
    (.batch { Stage.singles with parallelCopy := parallel } (.range 0 (some 5)))

theorem parallel_copy_refines_backwards :
    Context.default.allocator = backwards.allocator ∧
      (forall e : Element, e ∈ oneByte :: twoBools ->
        forall t : Tensor, t ∈ e -> t.WellFormed) ∧
      (stack Context.default false Usage.empty (oneByte :: twoBools)).1 =
        .error (.error (.typeMismatch 0 1 .uint8 .bool)) ∧
      (stack backwards true Usage.empty (oneByte :: twoBools)).1 =
        .error (.error (.typeMismatch 0 2 .uint8 .bool)) ∧
      RefinesInTurn oneByte (oneByte :: twoBools)
        (stack backwards true Usage.empty (oneByte :: twoBools)).1
        (stack Context.default false Usage.empty (oneByte :: twoBools)).1 ∧
      Pipeline.Alike (fun _ _ => True) (nestedPairs true) (nestedPairs false) ∧
      anyFault.Answers
        ((nestedPairs true).answer backwards "Iterator::BatchV2" (fun _ => Usage.empty) 2)
        ((nestedPairs false).answer Context.default "Iterator::BatchV2"
          (fun _ => Usage.empty) 2) := by
  have halloc : Context.default.allocator = backwards.allocator := rfl
  have hwf : forall e : Element, e ∈ oneByte :: twoBools ->
      forall t : Tensor, t ∈ e -> t.WellFormed := by
    decide
  have halike : Pipeline.Alike (fun _ _ => True) (nestedPairs true) (nestedPairs false) :=
    Pipeline.Alike.batch _ false trivial
      (Pipeline.Alike.batch _ false trivial (Pipeline.Alike.range 0 (some 5)))
  rcases parallel_copy_refines halloc with ⟨hwindow, hrun⟩
  exact ⟨halloc, hwf, by with_unfolding_all rfl, by with_unfolding_all rfl,
    hwindow Usage.empty oneByte twoBools hwf, halike,
    (hrun _ _ halike "Iterator::BatchV2" (fun _ => Usage.empty) 2).1⟩

/-!
## Runs under an allocator without a memory
-/

theorem CopyError.component_eq
    {component component' : Nat} {e : Error} (h : CopyError component e)
    (h' : CopyError component' e) : component = component' := by
  cases h with
  | typeMismatch index expected actual =>
      cases h' with
      | typeMismatch _ _ _ => rfl
  | slotSize index actual slot =>
      cases h' with
      | slotSize _ _ _ => rfl

theorem anyFault_equivalence : Equivalence anyFault.failures where
  refl := anyFault.failures_refl
  symm h := by
    rcases h with rfl | ⟨component, e, e', hf, hg, he, he'⟩
    · exact Or.inl rfl
    · exact Or.inr ⟨component, e', e, hg, hf, he', he⟩
  trans h h' := by
    rcases h with rfl | ⟨component, e, e', hf, hg, he, he'⟩
    · exact h'
    · rcases h' with rfl | ⟨component', e₁, e₂, hg', hk, he₁, he₂⟩
      · exact Or.inr ⟨component, e, e', hf, hg, he, he'⟩
      · cases hg.symm.trans hg'
        cases he'.component_eq he₁
        exact Or.inr ⟨component, e, e₂, hf, hk, he, he₂⟩

def anyFaultAnyUsage : Likeness :=
  { anyFault with
    usages := fun _ _ => True
    usages_bump := fun _ _ => trivial }

theorem anyFaultAnyUsage_answers_iff {α : Type} {a b : Except Failure α} :
    anyFaultAnyUsage.Answers a b <-> anyFault.Answers a b := by
  constructor
  · intro h
    cases h with
    | ok a => exact Likeness.Answers.ok a
    | error h => exact Likeness.Answers.error h
  · intro h
    cases h with
    | ok a => exact Likeness.Answers.ok a
    | error h => exact Likeness.Answers.error h

section

variable {ctx : Context} (hserve : ctx.allocator.Memoryless)

include hserve

theorem stack_answers
    (parallel parallel' : Bool) (u v : Usage) (window : List Element) :
    anyFault.Answers (stack ctx parallel u window).1 (stack ctx parallel' v window).1 := by
  -- between the two stands copying in turn, which asks no pool for an order
  let inTurn : Context := ⟨ctx.allocator, Pool.shared⟩
  have hinTurn : inTurn.Memoryless := ⟨hserve, fun _ _ _ => rfl⟩
  have halloc : inTurn.allocator = ctx.allocator := rfl
  have hleft := (stack_outcomes halloc parallel false u window).1
  have hright := (stack_outcomes halloc parallel' false v window).1
  rw [hinTurn.stack_eq false u v] at hleft
  exact hleft.trans anyFault_equivalence (hright.symm anyFault_equivalence)

theorem stack_anyUsage
    (parallel : Bool) {u v : Usage} (window : List Element) :
    anyFaultAnyUsage.Outcomes (stack ctx parallel u window) (stack ctx parallel v window) :=
  ⟨anyFaultAnyUsage_answers_iff.mpr (stack_answers hserve parallel parallel u v window), trivial⟩

theorem advance_anyUsage (p : Pipeline) (path : String) :
    anyFaultAnyUsage.Simulates (p.CursorsAlike p) (p.advance ctx path) (p.advance ctx path) :=
  p.advance_simulates_self (fun parallel window _ => stack_anyUsage hserve parallel window) path

theorem answers_anyUsage
    (p : Pipeline) (path : String) (us vs : Nat -> Usage) (n : Nat) :
    anyFault.Answers (p.answer ctx path us n) (p.answer ctx path vs n) :=
  anyFaultAnyUsage_answers_iff.mp
    (reply_alike (advance_anyUsage hserve p path) (fun _ => trivial)
      (Pipeline.cursorsAlike_self_iff.mpr rfl) n).result

theorem answers_after_anyUsage
    (p : Pipeline) (path : String) (us ws usage : Nat -> Usage) (k n : Nat) :
    anyFault.Answers (Iterator.answer ⟨p, path, p.cursorAfter ctx path us k⟩ ctx ws n)
      (p.answer ctx path usage (k + n)) :=
  anyFaultAnyUsage_answers_iff.mp
    (Pipeline.answers_after (advance_anyUsage hserve p path) (fun _ _ => trivial) us ws usage k n)

end

end Stacking
end TensorPipeline
