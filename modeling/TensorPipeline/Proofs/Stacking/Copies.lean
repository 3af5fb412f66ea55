import TensorPipeline.Batch.Stack

/-!
# The copies of one component

A buffer for a column of tensors falls into slots, one for each tensor and all
of one width.  What a copy does depends on its tensor and its slot alone: either
the slot receives the tensor's bytes, or it stays as it is and there is a fault
to be noted.  The copies run in turn therefore fill the same slots as those
handed out and run in any order, and note a fault in the same cases.
-/

namespace TensorPipeline
namespace Stacking

/-!
## Looking for what differs
-/

def firstOther {α : Type} (same : α -> Bool) (l : List α) : Option (α × Nat) :=
  l.zipIdx.find? fun item => !same item.1

theorem find?_zipIdx_eq {α : Type} (same : α -> Bool) (l : List α) (index : Nat) :
    ((l.zipIdx index).find? fun item => !same item.1) =
      l[(l.takeWhile same).length]?.map fun a => (a, index + (l.takeWhile same).length) := by
  induction l generalizing index with
  | nil => rfl
  | cons a l ih =>
      rw [List.zipIdx_cons, List.find?_cons, List.takeWhile_cons]
      cases same a with
      | false => rfl
      | true =>
          simp only [Bool.not_true, ih, if_true, List.length_cons, List.getElem?_cons_succ,
            Nat.add_right_comm, Nat.add_assoc]

theorem firstOther_eq {α : Type} (same : α -> Bool) (l : List α) :
    firstOther same l =
      l[(l.takeWhile same).length]?.map fun a => (a, (l.takeWhile same).length) := by
  rw [firstOther, find?_zipIdx_eq]
  simp only [Nat.zero_add]

theorem firstOther_map {α β : Type} (same : α -> Bool) (f : β -> α) (l : List β) :
    firstOther same (l.map f) =
      (firstOther (fun b => same (f b)) l).map fun item => (f item.1, item.2) := by
  rw [firstOther_eq, firstOther_eq, List.takeWhile_map, List.length_map, List.getElem?_map,
    Option.map_map, Option.map_map]
  rfl

theorem firstOther_eq_none_iff {α : Type} {same : α -> Bool} {l : List α} :
    firstOther same l = none <-> forall a : α, a ∈ l -> same a = true := by
  rw [firstOther, List.find?_eq_none]
  constructor
  · intro h a ha
    rcases List.getElem?_of_mem ha with ⟨index, hindex⟩
    simpa using h (a, index) (List.mem_zipIdx_iff_getElem?.mpr hindex)
  · intro h item hitem
    have ha := h item.1 (List.mem_of_getElem? (List.mem_zipIdx_iff_getElem?.mp hitem))
    simp [ha]

/-!
## Slots
-/

structure Slots (count width : Nat) (slots : List (List UInt8)) : Prop where
  length_eq : slots.length = count
  width_eq : forall slot : List UInt8, slot ∈ slots -> slot.length = width

theorem Slots.cons
    {count width : Nat} {slot : List UInt8} {slots : List (List UInt8)}
    (hslot : slot.length = width) (h : Slots count width slots) :
    Slots (count + 1) width (slot :: slots) := by
  constructor
  · rw [List.length_cons, h.length_eq]
  · intro s hs
    rcases List.mem_cons.mp hs with rfl | hs
    · exact hslot
    · exact h.width_eq s hs

theorem Slots.eq_cons
    {count width : Nat} {slots : List (List UInt8)} (h : Slots (count + 1) width slots) :
    exists (slot : List UInt8) (rest : List (List UInt8)),
      slots = slot :: rest ∧ slot.length = width ∧ Slots count width rest := by
  cases slots with
  | nil => cases h.length_eq
  | cons slot rest =>
      refine ⟨slot, rest, rfl, h.width_eq slot List.mem_cons_self, ?_⟩
      exact ⟨Nat.succ.inj h.length_eq, fun s hs => h.width_eq s (List.mem_cons_of_mem slot hs)⟩

theorem pieces_of_le
    {width : Nat} (hwidth : 0 < width) {buffer : List UInt8} (h : width ≤ buffer.length) :
    pieces width buffer = buffer.take width :: pieces width (buffer.drop width) := by
  cases buffer with
  | nil => exact absurd h (Nat.not_le.mpr hwidth)
  | cons b rest => rw [pieces, if_neg (Nat.ne_of_gt hwidth)]

theorem slots_pieces
    {count width : Nat} (hwidth : 0 < width) {buffer : List UInt8}
    (hlength : buffer.length = count * width) : Slots count width (pieces width buffer) := by
  induction count generalizing buffer with
  | zero =>
      rw [Nat.zero_mul, List.length_eq_zero_iff] at hlength
      rw [hlength, pieces]
      exact ⟨rfl, fun slot hslot => absurd hslot List.not_mem_nil⟩
  | succ count ih =>
      rw [Nat.succ_mul] at hlength
      rw [pieces_of_le hwidth (by omega)]
      refine Slots.cons ?_ (ih ?_)
      · rw [List.length_take]
        omega
      · rw [List.length_drop]
        omega

theorem slotsOf_eq
    (count : Nat) {whole width : Nat} {buffer : List UInt8}
    (hlength : buffer.length = whole * width) :
    exists slots : List (List UInt8),
      slotsOf count width buffer = .ok slots ∧
        Slots (if width = 0 then count else whole) width slots := by
  by_cases hwidth : width = 0
  · refine ⟨List.replicate count [], by rw [slotsOf, if_pos hwidth], ?_⟩
    rw [if_pos hwidth]
    constructor
    · exact List.length_replicate
    · intro slot hslot
      rw [List.eq_of_mem_replicate hslot, hwidth]
      rfl
  · refine ⟨pieces width buffer, by rw [slotsOf, if_neg hwidth, cutSlots, if_neg hwidth], ?_⟩
    rw [if_neg hwidth]
    exact slots_pieces (Nat.pos_of_ne_zero hwidth) hlength

/-!
## Single copies
-/

section

variable (component : Nat) (dtype : DType) (shape : Shape)

def fault (index : Nat) (pair : Tensor × List UInt8) : Option Error :=
  match copyToSlot component dtype index pair.1 pair.2 with
  | .ok _ => none
  | .error e => some e

def settled (index : Nat) (pair : Tensor × List UInt8) : List UInt8 :=
  match copyToSlot component dtype index pair.1 pair.2 with
  | .ok bytes => bytes
  | .error _ => pair.2

def settledSlots (index : Nat) (placement : Placement) : List (List UInt8) :=
  (placement.zipIdx index).map fun item => settled component dtype item.2 item.1

def firstFault (index : Nat) (placement : Placement) : Option Error :=
  (placement.zipIdx index).findSome? fun item => fault component dtype item.2 item.1

def sameShapes (placement : Placement) : Nat :=
  (placement.takeWhile fun pair => pair.1.shape = shape).length

variable {component dtype shape}

theorem fault_eq_none_iff {index : Nat} {t : Tensor} {slot : List UInt8} :
    fault component dtype index (t, slot) = none <->
      t.dtype = dtype ∧ t.data.length = slot.length := by
  unfold fault copyToSlot
  by_cases hdtype : t.dtype = dtype
  · by_cases hlength : t.data.length = slot.length
    · simp [hdtype, hlength]
    · simp [hdtype, hlength]
  · simp [hdtype]

theorem settled_of_no_fault
    {index : Nat} {pair : Tensor × List UInt8}
    (h : fault component dtype index pair = none) :
    settled component dtype index pair = pair.1.data := by
  rcases pair with ⟨t, slot⟩
  rcases fault_eq_none_iff.mp h with ⟨hdtype, hlength⟩
  unfold settled copyToSlot
  simp [hdtype, hlength]

/-!
## Copies in turn
-/

theorem sameShapes_cons_of_eq
    {pair : Tensor × List UInt8} (h : pair.1.shape = shape) (rest : Placement) :
    sameShapes shape (pair :: rest) = sameShapes shape rest + 1 := by
  simp [sameShapes, h]

theorem sameShapes_cons_of_ne
    {pair : Tensor × List UInt8} (h : pair.1.shape ≠ shape) (rest : Placement) :
    sameShapes shape (pair :: rest) = 0 := by
  simp [sameShapes, h]

theorem sameShapes_eq_length
    {placement : Placement} (h : placement[sameShapes shape placement]? = none) :
    sameShapes shape placement = placement.length :=
  Nat.le_antisymm (List.takeWhile_prefix _).length_le (List.getElem?_eq_none_iff.mp h)

theorem settledSlots_cons (index : Nat) (pair : Tensor × List UInt8) (rest : Placement) :
    settledSlots component dtype index (pair :: rest) =
      settled component dtype index pair ::
        settledSlots component dtype (index + 1) rest := by
  rw [settledSlots, List.zipIdx_cons, List.map_cons]
  rfl

theorem firstFault_cons (index : Nat) (pair : Tensor × List UInt8) (rest : Placement) :
    firstFault component dtype index (pair :: rest) =
      (fault component dtype index pair).or
        (firstFault component dtype (index + 1) rest) := by
  rw [firstFault, List.zipIdx_cons, List.findSome?_cons]
  cases fault component dtype index pair with
  | none => rfl
  | some e => rfl

theorem copyInTurn_cons
    {pair : Tensor × List UInt8} (hshape : pair.1.shape = shape) (index : Nat)
    (rest : Placement) (done : List (List UInt8)) (noted : Option Error) :
    copyInTurn component dtype shape index (pair :: rest) done noted =
      copyInTurn component dtype shape (index + 1) rest
        (settled component dtype index pair :: done)
        (noted.or (fault component dtype index pair)) := by
  rcases pair with ⟨t, slot⟩
  rw [copyInTurn, if_neg (not_not_intro hshape), settled, fault]
  cases copyToSlot component dtype index t slot with
  | ok bytes => rw [Option.or_none]
  | error e => rfl

theorem copyInTurn_eq
    (index : Nat) (placement : Placement) (done : List (List UInt8)) (noted : Option Error) :
    copyInTurn component dtype shape index placement done noted =
      match placement[sameShapes shape placement]? with
      | some (t, _) =>
          .error (.shapeMismatch component shape (index + sameShapes shape placement) t.shape)
      | none =>
          .ok ⟨done.reverse ++ settledSlots component dtype index placement,
            noted.or (firstFault component dtype index placement)⟩ := by
  induction placement generalizing index done noted with
  | nil => simp [copyInTurn, settledSlots, firstFault]
  | cons pair rest ih =>
      by_cases hshape : pair.1.shape = shape
      · have hindex : index + 1 + sameShapes shape rest = index + (sameShapes shape rest + 1) := by
          omega
        rw [copyInTurn_cons hshape, ih, sameShapes_cons_of_eq hshape, List.getElem?_cons_succ,
          hindex, settledSlots_cons, firstFault_cons, List.reverse_cons, List.append_assoc,
          Option.or_assoc]
        rfl
      · rcases pair with ⟨t, slot⟩
        rw [copyInTurn, if_pos hshape, sameShapes_cons_of_ne hshape]
        rfl

/-!
## Copies at once
-/

def slotAfter (component : Nat) (dtype : DType) (placement : Placement) (ran : List Nat)
    (index : Nat) : Option (List UInt8) :=
  placement[index]?.map fun pair =>
    if index ∈ ran then settled component dtype index pair else pair.2

def faultAt (component : Nat) (dtype : DType) (placement : Placement) (index : Nat) :
    Option Error :=
  placement[index]?.bind (fault component dtype index)

theorem runCopy_noted
    (placement : Placement) (state : Array (List UInt8) × Option Error) (index : Nat) :
    (runCopy component dtype placement.toArray state index).2 =
      state.2.or (faultAt component dtype placement index) := by
  rw [runCopy, faultAt, List.getElem?_toArray]
  cases placement[index]? with
  | none => exact (Option.or_none).symm
  | some pair =>
      simp only [Option.bind_some, fault]
      cases copyToSlot component dtype index pair.1 pair.2 with
      | ok bytes => exact (Option.or_none).symm
      | error e => rfl

theorem slotAfter_cons_of_ne
    {placement : Placement} {ran : List Nat} {index j : Nat} (h : j ≠ index) :
    slotAfter component dtype placement (index :: ran) j =
      slotAfter component dtype placement ran j := by
  simp only [slotAfter, List.mem_cons, h, false_or]

theorem slotAfter_cons_self
    {placement : Placement} {ran : List Nat} {index : Nat} {pair : Tensor × List UInt8}
    (h : placement[index]? = some pair) :
    slotAfter component dtype placement (index :: ran) index =
      some (settled component dtype index pair) := by
  simp only [slotAfter, h, Option.map_some, List.mem_cons, true_or, if_true]

theorem runCopy_slots
    {placement : Placement} {ran : List Nat} {state : Array (List UInt8) × Option Error}
    (hstate : forall j : Nat, state.1[j]? = slotAfter component dtype placement ran j)
    (index j : Nat) :
    (runCopy component dtype placement.toArray state index).1[j]? =
      slotAfter component dtype placement (index :: ran) j := by
  cases hpair : placement[index]? with
  | none =>
      have hrun : runCopy component dtype placement.toArray state index = state := by
        simp only [runCopy, List.getElem?_toArray, hpair]
      rw [hrun, hstate]
      by_cases hj : j = index
      · rw [hj, slotAfter, slotAfter, hpair]
        rfl
      · rw [slotAfter_cons_of_ne hj]
  | some pair =>
      have hslot := hstate index
      rw [slotAfter, hpair, Option.map_some] at hslot
      have hsize : index < state.1.size := (Array.getElem?_eq_some_iff.mp hslot).1
      cases hcopy : copyToSlot component dtype index pair.1 pair.2 with
      | ok bytes =>
          have hsettled : settled component dtype index pair = bytes := by
            rw [settled, hcopy]
          have hrun : runCopy component dtype placement.toArray state index =
              (state.1.setIfInBounds index bytes, state.2) := by
            simp only [runCopy, List.getElem?_toArray, hpair, hcopy]
          rw [hrun]
          by_cases hj : j = index
          · rw [hj, slotAfter_cons_self hpair, hsettled]
            exact Array.getElem?_setIfInBounds_self_of_lt hsize
          · rw [slotAfter_cons_of_ne hj, ← hstate j]
            exact Array.getElem?_setIfInBounds_ne (Ne.symm hj)
      | error e =>
          have hsettled : settled component dtype index pair = pair.2 := by
            rw [settled, hcopy]
          have hrun : runCopy component dtype placement.toArray state index =
              (state.1, state.2.or (some e)) := by
            simp only [runCopy, List.getElem?_toArray, hpair, hcopy]
          rw [hrun]
          -- the slot stays as it was, which is what a fault leaves behind
          by_cases hj : j = index
          · rw [hsettled, ite_self] at hslot
            rw [hj, slotAfter_cons_self hpair, hsettled]
            exact hslot
          · rw [slotAfter_cons_of_ne hj]
            exact hstate j

theorem foldl_runCopy_noted
    (placement : Placement) (order : List Nat) (state : Array (List UInt8) × Option Error) :
    (order.foldl (runCopy component dtype placement.toArray) state).2 =
      state.2.or (order.findSome? (faultAt component dtype placement)) := by
  induction order generalizing state with
  | nil => exact (Option.or_none).symm
  | cons index order ih =>
      rw [List.foldl_cons, ih, runCopy_noted, Option.or_assoc, List.findSome?_cons]
      cases faultAt component dtype placement index with
      | none => rfl
      | some e => rfl

theorem foldl_runCopy_slots
    {placement : Placement} {ran : List Nat} {state : Array (List UInt8) × Option Error}
    (hstate : forall j : Nat, state.1[j]? = slotAfter component dtype placement ran j)
    (order : List Nat) (j : Nat) :
    (order.foldl (runCopy component dtype placement.toArray) state).1[j]? =
      slotAfter component dtype placement (order.reverse ++ ran) j := by
  induction order generalizing ran state with
  | nil => exact hstate j
  | cons index order ih =>
      rw [List.foldl_cons, ih (runCopy_slots hstate index), List.reverse_cons,
        List.append_assoc]
      rfl

theorem getElem?_settledSlots (index : Nat) (placement : Placement) (j : Nat) :
    (settledSlots component dtype index placement)[j]? =
      placement[j]?.map (settled component dtype (index + j)) := by
  rw [settledSlots, List.getElem?_map, List.getElem?_zipIdx, Option.map_map]
  rfl

/-- Once the copies of all tensors have run, in whatever order, every slot is
settled. -/
theorem foldl_runCopy_settled
    {placement : Placement} {order : List Nat}
    (horder : order.Perm (List.range placement.length)) :
    (order.foldl (runCopy component dtype placement.toArray)
        ((placement.map Prod.snd).toArray, none)).1.toList =
      settledSlots component dtype 0 placement := by
  have hstart (j : Nat) : (placement.map Prod.snd).toArray[j]? =
      slotAfter component dtype placement [] j := by
    rw [List.getElem?_toArray, List.getElem?_map, slotAfter]
    simp only [List.not_mem_nil, if_false]
  refine List.ext_getElem? fun j => ?_
  rw [Array.getElem?_toList, foldl_runCopy_slots hstart, getElem?_settledSlots, slotAfter,
    Nat.zero_add]
  cases hpair : placement[j]? with
  | none => rfl
  | some pair =>
      have hj : j ∈ order.reverse ++ [] := by
        rw [List.append_nil, List.mem_reverse, horder.mem_iff, List.mem_range]
        exact (List.getElem?_eq_some_iff.mp hpair).1
      rw [Option.map_some, Option.map_some, if_pos hj]

/-- The copies at once stop where those in turn do, and otherwise settle the
same slots; of the faults they note the first in the order in which they ran. -/
theorem copyAtOnce_eq
    {order : Nat -> List Nat} (horder : forall n : Nat, (order n).Perm (List.range n))
    (placement : Placement) :
    copyAtOnce component dtype shape order placement =
      match placement[sameShapes shape placement]? with
      | some (t, _) =>
          .error (.shapeMismatch component shape (sameShapes shape placement) t.shape)
      | none =>
          .ok ⟨settledSlots component dtype 0 placement,
            (order placement.length).findSome? (faultAt component dtype placement)⟩ := by
  have hstarted : (placement.takeWhile fun pair => pair.1.shape = shape).length =
      sameShapes shape placement :=
    rfl
  simp only [copyAtOnce, hstarted]
  cases hmet : placement[sameShapes shape placement]? with
  | some pair => rfl
  | none =>
      have hall := sameShapes_eq_length hmet
      simp only [hall, foldl_runCopy_settled (horder placement.length), foldl_runCopy_noted,
        Option.none_or]

/-!
## Filling a buffer
-/

theorem firstOther_shapes (placement : Placement) :
    firstOther (fun pair : Tensor × List UInt8 => pair.1.shape = shape) placement =
      placement[sameShapes shape placement]?.map fun pair =>
        (pair, sameShapes shape placement) :=
  firstOther_eq _ placement

end

def notedFault (ctx : Context) (earlier : List UInt64) (parallel : Bool) (component : Nat)
    (dtype : DType) (placement : Placement) : Option Error :=
  if parallel then
    (ctx.pool.schedule.order earlier placement.length).findSome?
      (faultAt component dtype placement)
  else firstFault component dtype 0 placement

/-- What filling a buffer comes to, given the fault that was noted: a shape that
differs goes before it. -/
def filled (component : Nat) (first : Tensor) (placement : Placement) (noted : Option Error)
    (batch : Tensor) : Except Error Tensor :=
  match firstOther (fun pair : Tensor × List UInt8 => pair.1.shape = first.shape) placement with
  | some (pair, index) => .error (.shapeMismatch component first.shape index pair.1.shape)
  | none =>
      match noted with
      | some e => .error e
      | none => .ok batch

theorem fillBuffer_eq
    (ctx : Context) (earlier : List UInt64) (parallel : Bool) (component : Nat)
    (first : Tensor) {column : List Tensor} (batchShape : Shape) {width : Nat}
    {buffer : List UInt8} {slots : List (List UInt8)}
    (hslots : slotsOf column.length width buffer = .ok slots) :
    fillBuffer ctx earlier parallel component first column batchShape width buffer =
      (filled component first (column.zip slots)
        (notedFault ctx earlier parallel component first.dtype (column.zip slots))
        ⟨first.dtype, batchShape,
          if width = 0 then buffer
          else (settledSlots component first.dtype 0 (column.zip slots)).flatten⟩).mapError
        Failure.error := by
  unfold fillBuffer filled notedFault
  simp only [hslots, firstOther_shapes, copyAtOnce_eq (ctx.pool.schedule.complete earlier),
    copyInTurn_eq, Nat.zero_add, List.reverse_nil, List.nil_append, Option.none_or]
  cases hmet : (column.zip slots)[sameShapes first.shape (column.zip slots)]? with
  | some pair =>
      cases parallel with
      | false => rfl
      | true => rfl
  | none =>
      cases parallel with
      | false =>
          simp only [Bool.false_eq_true, if_false, Option.map_none]
          cases firstFault component first.dtype 0 (column.zip slots) with
          | none => rfl
          | some e => rfl
      | true =>
          simp only [if_true, Option.map_none]
          cases (ctx.pool.schedule.order earlier (column.zip slots).length).findSome?
            (faultAt component first.dtype (column.zip slots)) with
          | none => rfl
          | some e => rfl

end Stacking
end TensorPipeline
