import TensorPipeline.Proofs.Crashes
import TensorPipeline.Proofs.Stacking.AtOnce
import TensorPipeline.Proofs.Stacking.Buffers
import TensorPipeline.Proofs.Stacking.Columns

/-!
# Tensors beside their slots

Stacking a column asks for one buffer and cuts it into slots.  There is one for every
tensor, and it is as long as the first tensor should be, so a well-formed tensor of the
same shape and type fits, and a copy of it cannot fail.  Whatever tensors are copied,
well formed or not, the bytes that come out are as many as those of the buffer: a copy
writes over its slot or leaves it alone.
-/

namespace TensorPipeline
namespace Stacking

/-!
## Slots written over
-/

theorem length_settled
    (component : Nat) (dtype : DType) (index : Nat) (pair : Tensor × List UInt8) :
    (settled component dtype index pair).length = pair.2.length := by
  unfold settled
  split
  · next bytes hcopy =>
      rcases length_eq_of_copyToSlot hcopy with ⟨rfl, hlength⟩
      exact hlength
  · rfl

theorem length_flatten_settledSlots
    (component : Nat) (dtype : DType) (index : Nat) (placement : Placement) :
    (settledSlots component dtype index placement).flatten.length =
      (placement.map Prod.snd).flatten.length := by
  induction placement generalizing index with
  | nil => rfl
  | cons pair rest ih =>
      rw [settledSlots_cons, List.flatten_cons, List.length_append, length_settled, ih,
        List.map_cons, List.flatten_cons, List.length_append]

theorem eq_of_filled
    {component : Nat} {first : Tensor} {placement : Placement} {noted : Option Error}
    {batch t : Tensor} (h : filled component first placement noted batch = .ok t) :
    t = batch := by
  unfold filled at h
  split at h
  · cases h
  · split at h
    · cases h
    · cases h
      rfl

/-!
## One column
-/

/-- The copies that stacking a column sets out to make once its request is granted: the
tensors beside the slots of the buffer. -/
inductive Placed (ctx : Context) : List Tensor -> Placement -> Prop where
  | intro {first : Tensor} {rest : List Tensor} {earlier : List UInt64}
      {bytes width : UInt64} {buffer : List UInt8} {slots : List (List UInt8)} :
      (first.shape.stacked (UInt64.ofNat (first :: rest).length)).byteSize? first.dtype =
        some bytes ->
      first.shape.byteSize? first.dtype = some width ->
      ctx.allocator.serve earlier bytes = some buffer ->
      slotsOf (first :: rest).length width.toNat buffer = .ok slots ->
      Placed ctx (first :: rest) ((first :: rest).zip slots)

section

variable {ctx : Context} {parallel : Bool} {component : Nat} {usage : Usage}
  {first : Tensor} {rest : List Tensor} {placement : Placement}

theorem length_of_granted
    {s : Shape} {d : DType} {n : Nat} {bytes width : UInt64} {earlier : List UInt64}
    {buffer : List UInt8} (hcount : n < 2 ^ 64)
    (hbytes : (s.stacked (UInt64.ofNat n)).byteSize? d = some bytes)
    (hwidth : s.byteSize? d = some width)
    (hgranted : ctx.allocator.serve earlier bytes = some buffer) :
    buffer.length = n * width.toNat := by
  rw [ctx.allocator.exact_length hgranted, Shape.toNat_eq_of_byteSize?_stacked hwidth hbytes,
    UInt64.toNat_ofNat_of_lt' hcount]

theorem Placed.slots
    (h : Placed ctx (first :: rest) placement) (hcount : (first :: rest).length < 2 ^ 64) :
    placement.map Prod.fst = first :: rest ∧
      forall (t : Tensor) (slot : List UInt8), (t, slot) ∈ placement ->
        (first.shape.byteSize? first.dtype).map UInt64.toNat = some slot.length := by
  cases h with
  | intro hbytes hwidth hgranted hcut =>
      have hlength := length_of_granted hcount hbytes hwidth hgranted
      rcases exists_slots hlength with ⟨slots, hcut', hslots, _⟩
      rw [hcut] at hcut'
      cases hcut'
      constructor
      · exact List.map_fst_zip (Nat.le_of_eq hslots.length_eq.symm)
      · intro t slot hmem
        rw [hwidth, hslots.width_eq slot (List.of_mem_zip hmem).2]
        rfl

theorem Placed.fits
    (h : Placed ctx (first :: rest) placement) (hcount : (first :: rest).length < 2 ^ 64)
    (hwf : forall t : Tensor, t ∈ first :: rest -> t.WellFormed)
    {t : Tensor} {slot : List UInt8} (hmem : (t, slot) ∈ placement)
    (hshape : t.shape = first.shape) (hdtype : t.dtype = first.dtype) :
    t.data.length = slot.length := by
  rcases h.slots hcount with ⟨hfst, hslot⟩
  have ht : t ∈ first :: rest := by
    rw [← hfst]
    exact List.mem_map.mpr ⟨(t, slot), hmem, rfl⟩
  have hbytes := hwf t ht
  rw [Tensor.WellFormed, hshape, hdtype, hslot t slot hmem] at hbytes
  exact (Option.some.inj hbytes).symm

theorem copyToSlot_of_fits
    {dtype : DType} {t : Tensor} {slot : List UInt8} (hdtype : t.dtype = dtype)
    (hlength : t.data.length = slot.length) (component index : Nat) :
    copyToSlot component dtype index t slot = .ok t.data := by
  rw [copyToSlot, if_neg (not_not_intro hdtype), if_neg (not_not_intro hlength)]

theorem length_of_filled_buffer
    {column : List Tensor} {dtype : DType} {width : Nat} {buffer : List UInt8}
    {slots : List (List UInt8)} (hlength : buffer.length = column.length * width)
    (hcut : slotsOf column.length width buffer = .ok slots) :
    (if width = 0 then buffer
      else (settledSlots component dtype 0 (column.zip slots)).flatten).length =
      buffer.length := by
  rcases exists_slots hlength with ⟨slots', hcut', hslots, hflatten⟩
  rw [hcut] at hcut'
  cases hcut'
  by_cases hwidth : width = 0
  · rw [if_pos hwidth]
  · rw [if_neg hwidth, length_flatten_settledSlots,
      List.map_snd_zip (Nat.le_of_eq hslots.length_eq), hflatten]

/-- Stacking a column ends with a refusal, or with what its copies come to; the batch
that they fill is well formed in any case. -/
theorem stackColumn_cases
    (ctx : Context) (parallel : Bool) (component : Nat) (usage : Usage)
    (hcount : (first :: rest).length < 2 ^ 64) :
    (exists bytes : UInt64,
      (stackColumn ctx parallel component usage (first :: rest)).1 =
        .error (.error (.exhausted component bytes))) ∨
      exists (placement : Placement) (noted : Option Error) (batch : Tensor),
        Placed ctx (first :: rest) placement ∧
          Notes component first.dtype placement noted ∧ batch.WellFormed ∧
          (stackColumn ctx parallel component usage (first :: rest)).1 =
            (filled component first placement noted batch).mapError Failure.error := by
  rw [stackColumn_cons]
  split
  · next bytes width hbytes hwidth =>
      cases hgranted : ctx.allocator.serve usage.requests bytes with
      | none => exact Or.inl ⟨bytes, rfl⟩
      | some buffer =>
          refine Or.inr ?_
          have hlength := length_of_granted hcount hbytes hwidth hgranted
          rcases exists_slotsOf (first :: rest).length width.toNat buffer with ⟨slots, hcut⟩
          refine ⟨_, _, _, Placed.intro hbytes hwidth hgranted hcut,
            notes_notedFault ctx (usage.request bytes).requests parallel component first.dtype _,
            ?_, fillBuffer_eq ctx _ parallel component first _ hcut⟩
          rw [Tensor.WellFormed, hbytes, length_of_filled_buffer hlength hcut]
          exact congrArg some (ctx.allocator.exact_length hgranted).symm
  · exact Or.inl ⟨_, rfl⟩

theorem stackColumn_wellFormed
    {column : List Tensor} {t : Tensor} (hcount : column.length < 2 ^ 64)
    (h : (stackColumn ctx parallel component usage column).1 = .ok t) : t.WellFormed := by
  cases column with
  | nil => cases h
  | cons first rest =>
      rcases stackColumn_cases ctx parallel component usage hcount with
        ⟨bytes, hrefused⟩ | ⟨placement, noted, batch, _, _, hbatch, heq⟩
      · rw [hrefused] at h
        cases h
      · rw [heq] at h
        cases hfilled : filled component first placement noted batch with
        | error e =>
            rw [hfilled] at h
            cases h
        | ok t' =>
            rw [hfilled] at h
            cases h
            rw [eq_of_filled hfilled]
            exact hbatch

theorem stackColumn_not_slotSize
    {column : List Tensor} (hcount : column.length < 2 ^ 64)
    (hwf : forall t : Tensor, t ∈ column -> t.WellFormed) (index c actual slot : Nat) :
    (stackColumn ctx parallel component usage column).1 ≠
      .error (.error (.tensor (.slotSize index c actual slot))) := by
  intro h
  cases column with
  | nil => cases h
  | cons first rest =>
      rcases stackColumn_cases ctx parallel component usage hcount with
        ⟨bytes, hrefused⟩ | ⟨placement, noted, batch, hplaced, hnotes, _, heq⟩
      · rw [hrefused] at h
        cases h
      · rw [heq] at h
        unfold filled at h
        split at h
        · cases h
        · next hshapes =>
            split at h
            · next e =>
                cases h
                rcases hnotes.possible _ rfl with ⟨i, hi⟩
                rcases Option.bind_eq_some_iff.mp hi with ⟨⟨t, bytes⟩, hpair, hfault⟩
                have hmem := List.mem_of_getElem? hpair
                have hshape := of_decide_eq_true (firstOther_eq_none_iff.mp hshapes _ hmem)
                have hfits := hplaced.fits hcount hwf hmem hshape
                -- A tensor of the right type fits, so what was noted is about a type.
                by_cases hdtype : t.dtype = first.dtype
                · rw [fault_eq_none_iff.mpr ⟨hdtype, hfits hdtype⟩] at hfault
                  cases hfault
                · rw [fault_of_slot rfl fun heq => hfits heq, if_neg hdtype] at hfault
                  cases hfault
            · cases h

/-!
## One window
-/

theorem stackColumns_wellFormed
    {columns : List (List Tensor)} {batch : Element}
    (hcount : forall column : List Tensor, column ∈ columns -> column.length < 2 ^ 64)
    (h : (stackColumns ctx parallel component usage columns).1 = .ok batch) :
    forall t : Tensor, t ∈ batch -> t.WellFormed := by
  replace h := forall₂_of_stackColumns_ok h
  induction h with
  | nil =>
      intro t ht
      cases ht
  | cons hhead htail ih =>
      intro t ht
      rcases List.mem_cons.mp ht with rfl | ht
      · rcases hhead with ⟨c, before, after, hcolumn⟩
        exact stackColumn_wellFormed (hcount _ List.mem_cons_self)
          (congrArg Prod.fst hcolumn)
      · exact ih (fun column hmem => hcount column (List.mem_cons_of_mem _ hmem)) t ht

theorem stack_wellFormed
    {window : List Element} {batch : Element} (hcount : window.length < 2 ^ 64)
    (h : (stack ctx parallel usage window).1 = .ok batch) :
    forall t : Tensor, t ∈ batch -> t.WellFormed := by
  cases window with
  | nil => cases h
  | cons first rest =>
      cases hother : firstOtherCount first.length 0 (first :: rest) with
      | some other =>
          rw [stack_of_other_count hother] at h
          cases h
      | none =>
          rw [stack_of_equal_counts hother] at h
          refine stackColumns_wellFormed (fun column hcolumn => ?_) h
          exact Nat.lt_of_le_of_lt (length_le_of_mem_columns hcolumn) hcount

theorem stack_not_slotSize
    {window : List Element} (hcount : window.length < 2 ^ 64)
    (hwf : forall e : Element, e ∈ window -> forall t : Tensor, t ∈ e -> t.WellFormed)
    (index c actual slot : Nat) :
    (stack ctx parallel usage window).1 ≠
      .error (.error (.tensor (.slotSize index c actual slot))) := by
  intro h
  cases window with
  | nil => cases h
  | cons first rest =>
      cases hother : firstOtherCount first.length 0 (first :: rest) with
      | some other =>
          rw [stack_of_other_count hother] at h
          cases h
      | none =>
          rw [stack_of_equal_counts hother] at h
          rcases exists_of_stackColumns_error h with ⟨c', usage', column', hmem, herror⟩
          have hlong := Nat.lt_of_le_of_lt (length_le_of_mem_columns hmem) hcount
          rcases List.mem_map.mp hmem with ⟨c'', _, rfl⟩
          exact stackColumn_not_slotSize hlong
            (fun t ht => wellFormed_of_mem_column hwf ht) index c actual slot herror

end

end Stacking
end TensorPipeline
