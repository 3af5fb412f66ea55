import TensorPipeline.Proofs.Stacking.Copies
import TensorPipeline.Proofs.Stacking.Sizes

/-!
# What stacking in turn comes to

A reference says what becomes of a window without buffers, slots or noted
faults: which element is the first to break a rule, which rule goes before which,
and otherwise the bytes of the tensors one after another.  Copying in turn gives
the answer of the reference on every window of well-formed tensors.
-/

namespace TensorPipeline
namespace Stacking

def batchBytes (n : Nat) (t : Tensor) : UInt64 := UInt64.ofNat (n * t.data.length)

/-- What stacking a component comes to, given whether its request is granted.  A
refusal goes before a shape that differs, and that before a type that differs; of
two elements that break one rule the earlier is named. -/
def columnOutcome (component : Nat) (granted : Bool) (first : Tensor) (column : List Tensor) :
    Except Error Tensor :=
  if granted then
    match firstOther (fun t : Tensor => t.shape = first.shape) column with
    | some (t, index) => .error (.shapeMismatch component first.shape index t.shape)
    | none =>
        match firstOther (fun t : Tensor => t.dtype = first.dtype) column with
        | some (t, index) => .error (.typeMismatch component index first.dtype t.dtype)
        | none =>
            .ok ⟨first.dtype, first.shape.stacked (UInt64.ofNat column.length),
              column.flatMap Tensor.data⟩
  else .error (.exhausted component (batchBytes column.length first))

def column (window : List Element) (component : Nat) : List Tensor :=
  window.filterMap fun e => e[component]?

/-- The requests made before those of component number `component`, the latest
first: one for each component passed. -/
def requestsBefore (earlier : List UInt64) (n : Nat) (first : Element) (component : Nat) :
    List UInt64 :=
  ((first.take component).map (batchBytes n)).reverse ++ earlier

/-- What stacking a window comes to.  Numbers of components are compared before
anything else, and then the first component that fails decides. -/
def windowOutcome (allocator : Allocator) (earlier : List UInt64) (first : Element)
    (window : List Element) : Except Error Element :=
  match firstOther (fun e : Element => e.length = first.length) window with
  | some (e, index) => .error (.componentCount first.length index e.length)
  | none =>
      first.zipIdx.mapM fun item =>
        columnOutcome item.2
          (allocator.serve (requestsBefore earlier window.length first item.2)
            (batchBytes window.length item.1)).isSome
          item.1 (column window item.2)

/-!
## One component
-/

section

variable {component : Nat} {dtype : DType} {shape : Shape}

theorem fault_of_slot
    {index width : Nat} {t : Tensor} {slot : List UInt8} (hslot : slot.length = width)
    (hdata : t.dtype = dtype -> t.data.length = width) :
    fault component dtype index (t, slot) =
      if t.dtype = dtype then none else some (.typeMismatch component index dtype t.dtype) := by
  unfold fault copyToSlot
  by_cases hdtype : t.dtype = dtype
  · simp [hdtype, hdata hdtype, hslot]
  · simp [hdtype]

theorem firstFault_zip
    {width : Nat} {column : List Tensor} {slots : List (List UInt8)}
    (hslots : Slots column.length width slots)
    (hdata : forall t : Tensor, t ∈ column -> t.dtype = dtype -> t.data.length = width) :
    firstFault component dtype 0 (column.zip slots) =
      (firstOther (fun t : Tensor => t.dtype = dtype) column).map fun item =>
        .typeMismatch component item.2 dtype item.1.dtype := by
  unfold firstOther
  generalize 0 = index
  induction column generalizing slots index with
  | nil => rfl
  | cons t column ih =>
      rcases hslots.eq_cons with ⟨slot, rest, rfl, hslot, hrest⟩
      have htail := ih hrest (fun t' ht' => hdata t' (List.mem_cons_of_mem t ht')) (index + 1)
      rw [List.zip_cons_cons, firstFault_cons, htail, List.zipIdx_cons, List.find?_cons,
        fault_of_slot hslot (hdata t List.mem_cons_self)]
      by_cases hdtype : t.dtype = dtype
      · simp only [hdtype, if_true, Option.none_or, decide_true, Bool.not_true]
      · simp only [hdtype, if_false, Option.some_or, decide_false, Bool.not_false,
          Option.map_some]

theorem settledSlots_zip
    {width : Nat} {column : List Tensor} {slots : List (List UInt8)}
    (hslots : Slots column.length width slots) (index : Nat)
    (hdata : forall t : Tensor, t ∈ column -> t.dtype = dtype ∧ t.data.length = width) :
    settledSlots component dtype index (column.zip slots) = column.map Tensor.data := by
  induction column generalizing slots index with
  | nil => rfl
  | cons t column ih =>
      rcases hslots.eq_cons with ⟨slot, rest, rfl, hslot, hrest⟩
      rcases hdata t List.mem_cons_self with ⟨hdtype, hlength⟩
      have hfault : fault component dtype index (t, slot) = none :=
        fault_eq_none_iff.mpr ⟨hdtype, hlength.trans hslot.symm⟩
      have htail := ih hrest (index + 1) fun t' ht' => hdata t' (List.mem_cons_of_mem t ht')
      rw [List.zip_cons_cons, settledSlots_cons, settled_of_no_fault hfault, htail,
        List.map_cons]

end

theorem length_data_eq
    {s t : Tensor} (hs : s.WellFormed) (ht : t.WellFormed) (hshape : t.shape = s.shape)
    (hdtype : t.dtype = s.dtype) : t.data.length = s.data.length := by
  rw [Tensor.WellFormed, hshape, hdtype, hs] at ht
  exact (Option.some.inj ht).symm

theorem filledBuffer_eq
    {component : Nat} {dtype : DType} {column : List Tensor} {width : Nat}
    {buffer : List UInt8} {slots : List (List UInt8)}
    (hslots : Slots column.length width slots) (hlength : buffer.length = column.length * width)
    (hdata : forall t : Tensor, t ∈ column -> t.dtype = dtype ∧ t.data.length = width) :
    (if width = 0 then buffer
      else (settledSlots component dtype 0 (column.zip slots)).flatten) =
      column.flatMap Tensor.data := by
  by_cases hwidth : width = 0
  · have hbuffer : buffer = [] := by
      rw [← List.length_eq_zero_iff, hlength, hwidth, Nat.mul_zero]
    have hempty : column.flatMap Tensor.data = [] := by
      refine List.flatMap_eq_nil_iff.mpr fun t ht => ?_
      rw [← List.length_eq_zero_iff, (hdata t ht).2, hwidth]
    rw [if_pos hwidth, hbuffer, hempty]
  · rw [if_neg hwidth, settledSlots_zip hslots 0 hdata, List.flatMap_def]

theorem fillBuffer_in_turn
    (ctx : Context) (earlier : List UInt64) (component : Nat) {first : Tensor}
    {column : List Tensor} {width : Nat} {buffer : List UInt8} (hfirst : first.WellFormed)
    (hwf : forall t : Tensor, t ∈ column -> t.WellFormed)
    (hwidth : width = first.data.length) (hlength : buffer.length = column.length * width) :
    fillBuffer ctx earlier false component first column
        (first.shape.stacked (UInt64.ofNat column.length)) width buffer =
      (columnOutcome component true first column).mapError Failure.error := by
  rcases slotsOf_eq column.length hlength with ⟨slots, hcut, hslots⟩
  rw [ite_self] at hslots
  have hcolumn : (column.zip slots).map Prod.fst = column :=
    List.map_fst_zip (Nat.le_of_eq hslots.length_eq.symm)
  have hshape := firstOther_map (fun t : Tensor => t.shape = first.shape) Prod.fst
    (column.zip slots)
  rw [hcolumn] at hshape
  rw [fillBuffer_eq ctx earlier false component first _ hcut]
  congr 1
  unfold filled columnOutcome
  simp only [if_true, hshape]
  cases hmet : firstOther (fun pair : Tensor × List UInt8 => pair.1.shape = first.shape)
      (column.zip slots) with
  | some item => rfl
  | none =>
      have hshapes (t : Tensor) (ht : t ∈ column) : t.shape = first.shape := by
        rw [hmet] at hshape
        exact of_decide_eq_true (firstOther_eq_none_iff.mp hshape t ht)
      have hdata (t : Tensor) (ht : t ∈ column) (hdtype : t.dtype = first.dtype) :
          t.data.length = width := by
        rw [hwidth]
        exact length_data_eq hfirst (hwf t ht) (hshapes t ht) hdtype
      have hfault : notedFault ctx earlier false component first.dtype (column.zip slots) = _ :=
        firstFault_zip hslots hdata
      simp only [Option.map_none, hfault]
      cases hdtype : firstOther (fun t : Tensor => t.dtype = first.dtype) column with
      | some item => rfl
      | none =>
          have hdtypes (t : Tensor) (ht : t ∈ column) : t.dtype = first.dtype :=
            of_decide_eq_true (firstOther_eq_none_iff.mp hdtype t ht)
          have hbuffer : (if width = 0 then buffer
              else (settledSlots component first.dtype 0 (column.zip slots)).flatten) =
                column.flatMap Tensor.data :=
            filledBuffer_eq hslots hlength fun t ht => ⟨hdtypes t ht, hdata t ht (hdtypes t ht)⟩
          simp only [Option.map_none, hbuffer]

theorem byteSize?_stacked
    {n : Nat} {t : Tensor} (ht : t.WellFormed) (hfit : n * t.data.length < 2 ^ 64) :
    (t.shape.stacked (UInt64.ofNat n)).byteSize? t.dtype = some (batchBytes n t) := by
  rcases ht.byteSize?_eq with ⟨width, hwidth, hwidth'⟩
  rw [Shape.byteSize?_eq_some_iff] at hwidth ⊢
  rw [Shape.volume_stacked, Nat.mul_assoc, hwidth, hwidth', batchBytes,
    UInt64.toNat_ofNat_of_lt' hfit]
  by_cases hempty : t.data.length = 0
  · rw [hempty, Nat.mul_zero, Nat.mul_zero]
  · have hn : n < 2 ^ 64 :=
      Nat.lt_of_le_of_lt (Nat.le_mul_of_pos_right n (Nat.pos_of_ne_zero hempty)) hfit
    rw [UInt64.toNat_ofNat_of_lt' hn]

theorem stackColumn_in_turn
    (ctx : Context) (component : Nat) (usage : Usage) {first : Tensor} {rest : List Tensor}
    (hwf : forall t : Tensor, t ∈ first :: rest -> t.WellFormed)
    (hfit : (first :: rest).length * first.data.length < 2 ^ 64) :
    stackColumn ctx false component usage (first :: rest) =
      ((columnOutcome component
          (ctx.allocator.serve usage.requests
            (batchBytes (first :: rest).length first)).isSome
          first (first :: rest)).mapError Failure.error,
        usage.request (batchBytes (first :: rest).length first)) := by
  have hfirst := hwf first List.mem_cons_self
  rcases hfirst.byteSize?_eq with ⟨width, hwidth, hwidth'⟩
  rw [stackColumn_cons, byteSize?_stacked hfirst hfit, hwidth]
  simp only
  cases hserve : ctx.allocator.serve usage.requests
      (batchBytes (first :: rest).length first) with
  | none => rfl
  | some buffer =>
      have hlength : buffer.length = (first :: rest).length * width.toNat := by
        rw [ctx.allocator.exact_length hserve, hwidth', batchBytes,
          UInt64.toNat_ofNat_of_lt' hfit]
      exact congrArg (·, usage.request (batchBytes (first :: rest).length first))
        (fillBuffer_in_turn ctx _ component hfirst hwf hwidth' hlength)

/-!
## One window
-/

theorem column_cons
    {first : Element} {component : Nat} {t : Tensor} (ht : first[component]? = some t)
    (rest : List Element) : column (first :: rest) component = t :: column rest component := by
  rw [column, List.filterMap_cons, ht]
  rfl

theorem length_column
    {window : List Element} {component : Nat}
    (h : forall e : Element, e ∈ window -> component < e.length) :
    (column window component).length = window.length := by
  induction window with
  | nil => rfl
  | cons e window ih =>
      have he := h e List.mem_cons_self
      rw [column_cons (List.getElem?_eq_getElem he), List.length_cons, List.length_cons,
        ih fun e' he' => h e' (List.mem_cons_of_mem e he')]

theorem mem_column
    {window : List Element} {component : Nat} {t : Tensor} (h : t ∈ column window component) :
    exists e : Element, e ∈ window ∧ t ∈ e := by
  rcases List.mem_filterMap.mp h with ⟨e, he, hget⟩
  exact ⟨e, he, List.mem_of_getElem? hget⟩

theorem wellFormed_of_mem_column
    {window : List Element}
    (hwf : forall e : Element, e ∈ window -> forall t : Tensor, t ∈ e -> t.WellFormed)
    {component : Nat} {t : Tensor} (h : t ∈ column window component) : t.WellFormed := by
  rcases mem_column h with ⟨e, he, hmem⟩
  exact hwf e he t hmem

theorem requestsBefore_succ
    {first : Element} {component : Nat} {t : Tensor} (ht : first[component]? = some t)
    (earlier : List UInt64) (n : Nat) :
    requestsBefore earlier n first (component + 1) =
      batchBytes n t :: requestsBefore earlier n first component := by
  rw [requestsBefore, List.take_add_one, ht, List.map_append, List.reverse_append]
  rfl

theorem firstOtherCount_eq (expected : Nat) (window : List Element) :
    firstOtherCount expected 0 window =
      (firstOther (fun e : Element => e.length = expected) window).map fun item =>
        (item.2, item.1.length) := by
  unfold firstOther
  generalize 0 = index
  induction window generalizing index with
  | nil => rfl
  | cons e window ih =>
      rw [firstOtherCount, List.zipIdx_cons, List.find?_cons]
      by_cases he : e.length = expected
      · rw [if_pos he, ih]
        simp only [he, decide_true, Bool.not_true]
      · rw [if_neg he]
        simp only [he, decide_false, Bool.not_false, Option.map_some]

theorem stackColumns_in_turn
    (ctx : Context) (earlier : List UInt64) {first : Element} {rest : List Element}
    (hcount : forall e : Element, e ∈ first :: rest -> e.length = first.length)
    (hwf : forall e : Element, e ∈ first :: rest -> forall t : Tensor, t ∈ e -> t.WellFormed)
    (hfit : forall t : Tensor, t ∈ first ->
      (first :: rest).length * t.data.length < 2 ^ 64)
    {todo : List Tensor} {component : Nat} (htodo : first.drop component = todo)
    {usage : Usage}
    (husage : usage.requests =
      requestsBefore earlier (first :: rest).length first component) :
    (stackColumns ctx false component usage
        ((List.range' component todo.length).map (column (first :: rest)))).1 =
      ((todo.zipIdx component).mapM fun item =>
        columnOutcome item.2
          (ctx.allocator.serve
            (requestsBefore earlier (first :: rest).length first item.2)
            (batchBytes (first :: rest).length item.1)).isSome
          item.1 (column (first :: rest) item.2)).mapError Failure.error := by
  -- by induction on the components still to be stacked; each adds its own
  -- request to those made before it
  induction todo generalizing component usage with
  | nil => rfl
  | cons t todo ih =>
      have ht : first[component]? = some t := by
        rw [← Nat.add_zero component, ← List.getElem?_drop, htodo]
        rfl
      have htodo' : first.drop (component + 1) = todo := by
        rw [← List.drop_drop, htodo]
        rfl
      have hcomponent := (List.getElem?_eq_some_iff.mp ht).1
      have hcolumn := column_cons ht rest
      have hlength : (t :: column rest component).length = (first :: rest).length := by
        rw [← hcolumn]
        exact length_column fun e he => by rw [hcount e he]; exact hcomponent
      have hstack := stackColumn_in_turn ctx component usage
        (fun t' ht' => wellFormed_of_mem_column hwf (hcolumn ▸ ht'))
        (by
          rw [hlength]
          exact hfit t (List.mem_of_getElem? ht))
      rw [hlength, husage, ← hcolumn] at hstack
      have husage' : (usage.request (batchBytes (first :: rest).length t)).requests =
          requestsBefore earlier (first :: rest).length first (component + 1) := by
        rw [requestsBefore_succ ht, ← husage]
        rfl
      rw [List.length_cons, List.range'_succ, List.map_cons, List.zipIdx_cons, List.mapM_cons]
      cases houtcome : columnOutcome component
          (ctx.allocator.serve
            (requestsBefore earlier (first :: rest).length first component)
            (batchBytes (first :: rest).length t)).isSome
          t (column (first :: rest) component) with
      | error e =>
          rw [houtcome] at hstack
          rw [stackColumns_of_error hstack]
          rfl
      | ok batch =>
          rw [houtcome] at hstack
          rw [stackColumns_of_ok hstack, ih htodo' husage']
          cases (todo.zipIdx (component + 1)).mapM fun item =>
            columnOutcome item.2
              (ctx.allocator.serve
                (requestsBefore earlier (first :: rest).length first item.2)
                (batchBytes (first :: rest).length item.1)).isSome
              item.1 (column (first :: rest) item.2) with
          | error e => rfl
          | ok batches => rfl

theorem stack_in_turn_of_equal_counts
    (ctx : Context) (usage : Usage) {first : Element} {rest : List Element}
    (hcount : forall e : Element, e ∈ first :: rest -> e.length = first.length)
    (hwf : forall e : Element, e ∈ first :: rest -> forall t : Tensor, t ∈ e -> t.WellFormed)
    (hfit : forall t : Tensor, t ∈ first ->
      (first :: rest).length * t.data.length < 2 ^ 64) :
    (stack ctx false usage (first :: rest)).1 =
      (first.zipIdx.mapM fun item =>
        columnOutcome item.2
          (ctx.allocator.serve
            (requestsBefore usage.requests (first :: rest).length first item.2)
            (batchBytes (first :: rest).length item.1)).isSome
          item.1 (column (first :: rest) item.2)).mapError Failure.error := by
  have hother : firstOtherCount first.length 0 (first :: rest) = none := by
    rw [firstOtherCount_eq, Option.map_eq_none_iff, firstOther_eq_none_iff]
    intro e he
    exact decide_eq_true (hcount e he)
  have hbefore : usage.requests =
      requestsBefore usage.requests (first :: rest).length first 0 :=
    rfl
  rw [stack_of_equal_counts hother, columns, List.range_eq_range']
  exact stackColumns_in_turn ctx usage.requests hcount hwf hfit List.drop_zero hbefore

/-- On every window of well-formed tensors whose batches have a size that fits,
stacking in turn comes to what the reference says. -/
theorem stack_in_turn
    (ctx : Context) (usage : Usage) {first : Element} {rest : List Element}
    (hwf : forall e : Element, e ∈ first :: rest -> forall t : Tensor, t ∈ e -> t.WellFormed)
    (hfit : forall t : Tensor, t ∈ first ->
      (first :: rest).length * t.data.length < 2 ^ 64) :
    (stack ctx false usage (first :: rest)).1 =
      (windowOutcome ctx.allocator usage.requests first (first :: rest)).mapError
        Failure.error := by
  have hcounts := firstOtherCount_eq first.length (first :: rest)
  unfold windowOutcome
  cases hother : firstOther (fun e : Element => e.length = first.length) (first :: rest) with
  | some item =>
      rw [hother] at hcounts
      rw [stack_of_other_count hcounts]
      rfl
  | none =>
      have hcount (e : Element) (he : e ∈ first :: rest) : e.length = first.length :=
        of_decide_eq_true (firstOther_eq_none_iff.mp hother e he)
      exact stack_in_turn_of_equal_counts ctx usage hcount hwf hfit

def mixedFirst : Element :=
  [⟨.bool, ⟨[]⟩, [1]⟩, ⟨.int32, ⟨[]⟩, [7, 0, 0, 0]⟩]

def mixedRest : List Element :=
  [[⟨.bool, ⟨[]⟩, [0]⟩, ⟨.float32, ⟨[]⟩, [0, 0, 128, 63]⟩],
    [⟨.bool, ⟨[]⟩, [1]⟩, ⟨.int32, ⟨[1]⟩, [9, 0, 0, 0]⟩]]

theorem stack_in_turn_mixed :
    (forall e : Element, e ∈ mixedFirst :: mixedRest ->
      forall t : Tensor, t ∈ e -> t.WellFormed) ∧
      (forall t : Tensor, t ∈ mixedFirst ->
        (mixedFirst :: mixedRest).length * t.data.length < 2 ^ 64) ∧
      (stack Context.default false Usage.empty (mixedFirst :: mixedRest)).1 =
        .error (.error (.shapeMismatch 1 ⟨[]⟩ 2 ⟨[1]⟩)) := by
  have hwf : forall e : Element, e ∈ mixedFirst :: mixedRest ->
      forall t : Tensor, t ∈ e -> t.WellFormed := by
    decide
  have hfit : forall t : Tensor, t ∈ mixedFirst ->
      (mixedFirst :: mixedRest).length * t.data.length < 2 ^ 64 := by
    decide
  exact ⟨hwf, hfit, (stack_in_turn Context.default Usage.empty hwf hfit).trans rfl⟩

end Stacking
end TensorPipeline
