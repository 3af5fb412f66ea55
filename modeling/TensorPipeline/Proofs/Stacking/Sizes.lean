import Mathlib.Algebra.Group.Nat.Defs
import TensorPipeline.Tensor.Basic

/-!
# Sizes that fit

The number of values of a shape, taken without a bound, decides both whether
there is a size and what it is: a size is reported exactly when the product of
all factors fits 64 bits.  On the way the product may be formed in any order,
because a zero among the dimensions is looked for first.
-/

namespace TensorPipeline
namespace Shape

def volume (s : Shape) : Nat := (s.dims.map UInt64.toNat).prod

theorem volume_stacked (n : UInt64) (s : Shape) :
    (s.stacked n).volume = n.toNat * s.volume := by
  rw [volume, stacked, List.map_cons, List.prod_cons]
  rfl

theorem prod_eq_zero_of_mem
    {dims : List UInt64} (h : 0 ∈ dims) : (dims.map UInt64.toNat).prod = 0 :=
  List.prod_eq_zero_iff_exists_zero_nat.mpr ⟨0, List.mem_map.mpr ⟨0, h, rfl⟩, rfl⟩

theorem prod_pos_of_not_mem
    {dims : List UInt64} (h : 0 ∉ dims) : 0 < (dims.map UInt64.toNat).prod := by
  refine List.prod_pos_iff_forall_pos_nat.mpr fun n hn => ?_
  rcases List.mem_map.mp hn with ⟨d, hd, rfl⟩
  refine Nat.pos_of_ne_zero fun hzero => h ?_
  rw [show 0 = d from (UInt64.toNat_inj.mp hzero).symm]
  exact hd

/-- Without a zero among the dimensions no product on the way is larger than the
last. -/
theorem foldlM_checkedMul_eq_some_iff
    {dims : List UInt64} (h : 0 ∉ dims) {a b : UInt64} :
    dims.foldlM checkedMul a = some b <->
      a.toNat * (dims.map UInt64.toNat).prod = b.toNat := by
  induction dims generalizing a with
  | nil =>
      rw [List.foldlM_nil, List.map_nil, List.prod_nil, Nat.mul_one]
      exact ⟨fun heq => congrArg UInt64.toNat (Option.some.inj heq),
        fun heq => congrArg some (UInt64.toNat_inj.mp heq)⟩
  | cons d dims ih =>
      rcases List.ne_and_not_mem_of_not_mem_cons h with ⟨hd, hrest⟩
      have hpos := prod_pos_of_not_mem hrest
      rw [List.foldlM_cons, List.map_cons, List.prod_cons, ← Nat.mul_assoc]
      constructor
      · intro heq
        rcases Option.bind_eq_some_iff.mp heq with ⟨c, hc, hfold⟩
        rw [checkedMul_eq_some_iff.mp hc]
        exact (ih hrest).mp hfold
      · intro heq
        have hle : a.toNat * d.toNat ≤ b.toNat := by
          rw [← heq]
          exact Nat.le_mul_of_pos_right _ hpos
        have hc : (UInt64.ofNat (a.toNat * d.toNat)).toNat = a.toNat * d.toNat :=
          UInt64.toNat_ofNat_of_lt' (Nat.lt_of_le_of_lt hle b.toNat_lt)
        rw [checkedMul_eq_some_iff.mpr hc.symm]
        refine (ih hrest).mpr ?_
        rw [hc]
        exact heq

theorem size?_eq_some_iff {s : Shape} {n : UInt64} :
    s.size? = some n <-> s.volume = n.toNat := by
  unfold size? volume
  by_cases hzero : 0 ∈ s.dims
  · rw [if_pos (List.contains_iff_mem.mpr hzero), prod_eq_zero_of_mem hzero]
    exact ⟨fun heq => congrArg UInt64.toNat (Option.some.inj heq),
      fun heq => congrArg some (UInt64.toNat_inj.mp heq)⟩
  · rw [if_neg fun hcontains => hzero (List.contains_iff_mem.mp hcontains),
      foldlM_checkedMul_eq_some_iff hzero]
    show 1 * _ = _ <-> _
    rw [Nat.one_mul]

theorem byteSize?_eq_some_iff {s : Shape} {d : DType} {bytes : UInt64} :
    s.byteSize? d = some bytes <-> s.volume * d.width = bytes.toNat := by
  have hwidth : (UInt64.ofNat d.width).toNat = d.width := by
    cases d <;> rfl
  unfold byteSize?
  constructor
  · intro heq
    rcases Option.bind_eq_some_iff.mp heq with ⟨n, hn, hbytes⟩
    rw [size?_eq_some_iff.mp hn, ← checkedMul_eq_some_iff.mp hbytes, hwidth]
  · intro heq
    have hle : s.volume ≤ bytes.toNat := by
      rw [← heq]
      exact Nat.le_mul_of_pos_right _ d.width_pos
    have hn : (UInt64.ofNat s.volume).toNat = s.volume :=
      UInt64.toNat_ofNat_of_lt' (Nat.lt_of_le_of_lt hle bytes.toNat_lt)
    rw [size?_eq_some_iff.mpr hn.symm]
    refine checkedMul_eq_some_iff.mpr ?_
    rw [hn, hwidth]
    exact heq

end Shape

end TensorPipeline
