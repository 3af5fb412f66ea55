import Mathlib.Algebra.BigOperators.Group.List.Basic
import TensorPipeline.Proofs.Stacking.Copies
import TensorPipeline.Proofs.Stacking.Sizes

/-!
# Buffers for whole batches

The sizes that a shape reports are the exact ones wherever these fit 64 bits, and
nothing is reported where they do not.  They depend on the product of the
dimensions alone: not on their order, and not on how large a product was on the
way.  The size of a batch is therefore that of one element as often as there are
elements, and a buffer of that size is divided into as many slots without a rest.
-/

namespace TensorPipeline

/-!
## Sizes
-/

/-- A word that is reported exactly when it is the number `n` is reported for every
`n` that has one. -/
theorem map_toNat_eq_of_iff
    {reported : Option UInt64} {n : Nat}
    (h : forall b : UInt64, reported = some b <-> n = b.toNat) :
    reported.map UInt64.toNat = if n < 2 ^ 64 then some n else none := by
  by_cases hn : n < 2 ^ 64
  · have hword : n = (UInt64.ofNat n).toNat := (UInt64.toNat_ofNat_of_lt' hn).symm
    rw [if_pos hn, (h _).mpr hword]
    exact congrArg some hword.symm
  · rw [if_neg hn]
    cases reported with
    | none => rfl
    | some b =>
        have hb : n = b.toNat := (h b).mp rfl
        exact absurd b.toNat_lt (hb ▸ hn)

namespace Shape

variable {s t : Shape} {d : DType}

theorem map_toNat_size? (s : Shape) :
    s.size?.map UInt64.toNat = if s.volume < 2 ^ 64 then some s.volume else none :=
  map_toNat_eq_of_iff fun _ => size?_eq_some_iff

theorem map_toNat_byteSize? (s : Shape) (d : DType) :
    (s.byteSize? d).map UInt64.toNat =
      if s.volume * d.width < 2 ^ 64 then some (s.volume * d.width) else none :=
  map_toNat_eq_of_iff fun _ => byteSize?_eq_some_iff

theorem size?_eq_of_volume_eq (h : s.volume = t.volume) : s.size? = t.size? := by
  ext n
  rw [size?_eq_some_iff, size?_eq_some_iff, h]

theorem byteSize?_eq_of_volume_eq (h : s.volume = t.volume) : s.byteSize? d = t.byteSize? d := by
  ext n
  rw [byteSize?_eq_some_iff, byteSize?_eq_some_iff, h]

theorem volume_eq_of_perm (h : s.dims.Perm t.dims) : s.volume = t.volume :=
  (h.map UInt64.toNat).prod_eq

theorem map_toNat_byteSize?_stacked
    {width : UInt64} (h : s.byteSize? d = some width) (n : UInt64) :
    ((s.stacked n).byteSize? d).map UInt64.toNat =
      if n.toNat * width.toNat < 2 ^ 64 then some (n.toNat * width.toNat) else none := by
  rw [map_toNat_byteSize?, volume_stacked, Nat.mul_assoc, byteSize?_eq_some_iff.mp h]

theorem toNat_eq_of_byteSize?_stacked
    {n width whole : UInt64} (h : s.byteSize? d = some width)
    (hwhole : (s.stacked n).byteSize? d = some whole) :
    whole.toNat = n.toNat * width.toNat := by
  rw [← byteSize?_eq_some_iff.mp hwhole, volume_stacked, Nat.mul_assoc,
    byteSize?_eq_some_iff.mp h]

end Shape

/-!
## Slots
-/

theorem flatten_pieces {width : Nat} (hwidth : 0 < width) (buffer : List UInt8) :
    (pieces width buffer).flatten = buffer := by
  induction buffer using pieces.induct width with
  | case1 => rw [pieces, List.flatten_nil]
  | case2 b rest hzero => exact absurd hzero (Nat.ne_of_gt hwidth)
  | case3 b rest hne ih =>
      rw [pieces, if_neg hne, List.flatten_cons, ih, List.take_append_drop]

namespace Stacking

theorem flatten_of_slotsOf
    {count width : Nat} {buffer : List UInt8} {slots : List (List UInt8)}
    (hlength : buffer.length = count * width) (h : slotsOf count width buffer = .ok slots) :
    slots.flatten = buffer := by
  unfold slotsOf cutSlots at h
  by_cases hwidth : width = 0
  · rw [if_pos hwidth] at h
    rw [hwidth, Nat.mul_zero, List.length_eq_zero_iff] at hlength
    cases h
    rw [hlength, List.flatten_replicate_nil]
  · rw [if_neg hwidth, if_neg hwidth] at h
    cases h
    exact flatten_pieces (Nat.pos_of_ne_zero hwidth) buffer

theorem exists_slots
    {count width : Nat} {buffer : List UInt8} (hlength : buffer.length = count * width) :
    exists slots : List (List UInt8),
      slotsOf count width buffer = .ok slots ∧ Slots count width slots ∧
        slots.flatten = buffer := by
  rcases slotsOf_eq count hlength with ⟨slots, hcut, hslots⟩
  rw [ite_self] at hslots
  exact ⟨slots, hcut, hslots, flatten_of_slotsOf hlength hcut⟩

end Stacking

/-- The sizes of a shape are the exact numbers of its values and bytes, reported if
and only if they fit 64 bits.  The order of the dimensions does not matter, a zero
among them makes both sizes zero, and `n` tensors of one shape take `n` times the
bytes of one: a buffer of that size falls into exactly `n` slots of those bytes. -/
theorem sizes_are_exact (s : Shape) (d : DType) :
    s.size?.map UInt64.toNat = (if s.volume < 2 ^ 64 then some s.volume else none) ∧
      (s.byteSize? d).map UInt64.toNat =
        (if s.volume * d.width < 2 ^ 64 then some (s.volume * d.width) else none) ∧
      (forall t : Shape, t.dims.Perm s.dims ->
        t.size? = s.size? ∧ t.byteSize? d = s.byteSize? d) ∧
      (0 ∈ s.dims -> s.size? = some 0 ∧ s.byteSize? d = some 0) ∧
      forall width n : UInt64, s.byteSize? d = some width ->
        ((s.stacked n).byteSize? d).map UInt64.toNat =
            (if n.toNat * width.toNat < 2 ^ 64 then some (n.toNat * width.toNat) else none) ∧
          forall (whole : UInt64) (buffer : List UInt8),
            (s.stacked n).byteSize? d = some whole -> buffer.length = whole.toNat ->
            exists slots : List (List UInt8),
              slotsOf n.toNat width.toNat buffer = .ok slots ∧
                slots.length = n.toNat ∧
                (forall slot : List UInt8, slot ∈ slots -> slot.length = width.toNat) ∧
                slots.flatten = buffer := by
  refine ⟨s.map_toNat_size?, s.map_toNat_byteSize? d, ?_, ?_, ?_⟩
  · intro t hperm
    have hvolume : t.volume = s.volume := Shape.volume_eq_of_perm hperm
    exact ⟨Shape.size?_eq_of_volume_eq hvolume, Shape.byteSize?_eq_of_volume_eq hvolume⟩
  · intro hzero
    have hvolume : s.volume = 0 := Shape.prod_eq_zero_of_mem hzero
    constructor
    · exact Shape.size?_eq_some_iff.mpr hvolume
    · refine Shape.byteSize?_eq_some_iff.mpr ?_
      rw [hvolume, Nat.zero_mul]
      rfl
  · intro width n hwidth
    refine ⟨Shape.map_toNat_byteSize?_stacked hwidth n, ?_⟩
    intro whole buffer hwhole hlength
    rw [Shape.toNat_eq_of_byteSize?_stacked hwidth hwhole] at hlength
    rcases Stacking.exists_slots hlength with ⟨slots, hcut, hslots, hflatten⟩
    exact ⟨slots, hcut, hslots.length_eq, hslots.width_eq, hflatten⟩

theorem sizes_are_exact_of_pairs_and_of_nothing :
    (⟨[2]⟩ : Shape).byteSize? .int32 = some 8 ∧
      ((⟨[2]⟩ : Shape).stacked 2).byteSize? .int32 = some 16 ∧
      (exists slots : List (List UInt8),
        slotsOf 2 8 [0, 1, 2, 3, 4, 5, 6, 7, 8, 9, 10, 11, 12, 13, 14, 15] = .ok slots ∧
          slots.length = 2 ∧
          (forall slot : List UInt8, slot ∈ slots -> slot.length = 8) ∧
          slots.flatten = [0, 1, 2, 3, 4, 5, 6, 7, 8, 9, 10, 11, 12, 13, 14, 15]) ∧
      0 ∈ [0x8000000000000000, 2, (0 : UInt64)] ∧
      (⟨[0x8000000000000000, 2, 0]⟩ : Shape).byteSize? .int64 = some 0 ∧
      (⟨[0, 0x8000000000000000, 2]⟩ : Shape).byteSize? .int64 =
        (⟨[0x8000000000000000, 2, 0]⟩ : Shape).byteSize? .int64 := by
  have hwidth : (⟨[2]⟩ : Shape).byteSize? .int32 = some 8 := by decide
  have hwhole : ((⟨[2]⟩ : Shape).stacked 2).byteSize? .int32 = some 16 := by decide
  have hzero : 0 ∈ [0x8000000000000000, 2, (0 : UInt64)] := by decide
  rcases sizes_are_exact ⟨[2]⟩ .int32 with ⟨_, _, _, _, hstacked⟩
  rcases sizes_are_exact ⟨[0x8000000000000000, 2, 0]⟩ .int64 with ⟨_, _, hperm, hempty, _⟩
  refine ⟨hwidth, hwhole, ?_, hzero, (hempty hzero).2, ?_⟩
  · exact (hstacked 8 2 hwidth).2 16 _ hwhole rfl
  · exact (hperm ⟨[0, 0x8000000000000000, 2]⟩ (by decide)).2

end TensorPipeline
