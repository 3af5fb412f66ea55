import Mathlib.Data.Nat.Basic
import Mathlib.Order.Basic
import TensorPipeline.Proofs.Counting

/-!
# Windows of a list

A list is cut into windows of one size, of which only the last may be short.  What
matters for stages over stages is how windows of two sizes fit into each other: the
windows of the windows of one size are those of a window of the product of both.
-/

namespace TensorPipeline

/-!
## How many there are
-/

theorem batches_true (n size : Nat) : batches n size true = n / size := by
  rw [batches, if_neg fun h => Bool.noConfusion h.2, Nat.add_zero]

theorem lt_batches_iff {n size k : Nat} (hsize : 0 < size) (dropRemainder : Bool) :
    k < batches n size dropRemainder <->
      (k + 1) * size ≤ n ∨ k * size < n ∧ dropRemainder = false := by
  rw [← Nat.not_le, batches_le_iff hsize, not_and_or, Nat.not_lt, Classical.not_imp, Nat.not_le,
    and_comm (a := dropRemainder = false)]

theorem mul_lt_of_lt_batches
    {n size k : Nat} (hsize : 0 < size) {dropRemainder : Bool}
    (hk : k < batches n size dropRemainder) : k * size < n := by
  rcases (lt_batches_iff hsize _).mp hk with hfull | hshort
  · rw [Nat.succ_mul] at hfull
    exact Nat.lt_of_lt_of_le (Nat.lt_add_of_pos_right hsize) hfull
  · exact hshort.1

theorem lt_batches_true_iff {n size k : Nat} (hsize : 0 < size) :
    k < batches n size true <-> (k + 1) * size ≤ n := by
  rw [lt_batches_iff hsize]
  exact or_iff_left fun h => Bool.noConfusion h.2

theorem lt_batches_false_iff {n size k : Nat} (hsize : 0 < size) :
    k < batches n size false <-> k * size < n :=
  ⟨mul_lt_of_lt_batches hsize, fun h => (lt_batches_iff hsize false).mpr (Or.inr ⟨h, rfl⟩)⟩

theorem batches_batches
    {a b : Nat} (ha : 0 < a) (hb : 0 < b) (n : Nat) (dropRemainder : Bool) :
    batches (batches n a dropRemainder) b dropRemainder = batches n (a * b) dropRemainder := by
  apply eq_of_forall_lt_iff
  intro k
  have hab := Nat.mul_pos ha hb
  cases dropRemainder with
  | true =>
      rw [lt_batches_true_iff hb, lt_batches_true_iff hab, batches_true,
        Nat.le_div_iff_mul_le ha, Nat.mul_assoc, Nat.mul_comm b a]
  | false =>
      rw [lt_batches_false_iff hb, lt_batches_false_iff hab, lt_batches_false_iff ha,
        Nat.mul_assoc, Nat.mul_comm b a]

theorem batches_mul_min
    {n size : Nat} (hn : 0 < n) (heven : n ≤ size ∨ n % size = 0) :
    batches n size false * min size n = n := by
  rcases Nat.lt_or_ge n size with hlt | hge
  · have hrest : n % size ≠ 0 := by
      rw [Nat.mod_eq_of_lt hlt]
      exact Nat.ne_of_gt hn
    rw [batches, if_pos ⟨hrest, rfl⟩, Nat.div_eq_of_lt hlt, Nat.zero_add, Nat.one_mul,
      Nat.min_eq_right (Nat.le_of_lt hlt)]
  · have hmultiple : n % size = 0 := by
      rcases heven with hle | hmultiple
      · rw [Nat.le_antisymm hle hge, Nat.mod_self]
      · exact hmultiple
    rw [batches, if_neg fun h => h.1 hmultiple, Nat.add_zero, Nat.min_eq_left hge]
    exact Nat.div_mul_cancel (Nat.dvd_of_mod_eq_zero hmultiple)

/-!
## What they hold
-/

section

variable {α : Type}

def cut (l : List α) (size k : Nat) : List α := (l.drop (k * size)).take size

theorem length_cut (l : List α) (size k : Nat) :
    (cut l size k).length = min size (l.length - k * size) := by
  rw [cut, List.length_take, List.length_drop]

theorem cut_ne_nil
    {l : List α} {size k : Nat} (hsize : 0 < size) {dropRemainder : Bool}
    (hk : k < batches l.length size dropRemainder) : cut l size k ≠ [] := by
  apply List.ne_nil_of_length_pos
  rw [length_cut, Nat.lt_min]
  exact ⟨hsize, Nat.sub_pos_of_lt (mul_lt_of_lt_batches hsize hk)⟩

theorem mem_of_mem_cut {l : List α} {size k : Nat} {a : α} (h : a ∈ cut l size k) : a ∈ l :=
  List.mem_of_mem_drop (List.mem_of_mem_take h)

theorem cut_map {β : Type} (f : α -> β) (l : List α) (size k : Nat) :
    cut (l.map f) size k = (cut l size k).map f := by
  rw [cut, cut, List.map_take, List.map_drop]

/-- The windows of a list, a short last one among them unless it is dropped. -/
def windows (l : List α) (size : Nat) (dropRemainder : Bool) : List (List α) :=
  (List.range (batches l.length size dropRemainder)).map (cut l size)

theorem length_windows (l : List α) (size : Nat) (dropRemainder : Bool) :
    (windows l size dropRemainder).length = batches l.length size dropRemainder := by
  rw [windows, List.length_map, List.length_range]

theorem getElem?_windows (l : List α) (size : Nat) (dropRemainder : Bool) (i : Nat) :
    (windows l size dropRemainder)[i]? =
      if i < batches l.length size dropRemainder then some (cut l size i) else none := by
  rw [windows, List.getElem?_map]
  split
  · next hi =>
      rw [List.getElem?_range hi]
      rfl
  · next hi =>
      rw [List.getElem?_eq_none (by rw [List.length_range]; exact Nat.not_lt.mp hi)]
      rfl

theorem flatten_cuts (l : List α) (size m : Nat) :
    ((List.range m).map (cut l size)).flatten = l.take (m * size) := by
  induction m with
  | zero => rw [Nat.zero_mul]; rfl
  | succ m ih =>
      rw [List.range_succ, List.map_append, List.flatten_append, ih, Nat.succ_mul, List.take_add]
      exact congrArg _ (List.append_nil _)

theorem flatten_windows {size : Nat} (hsize : 0 < size) (l : List α) :
    (windows l size false).flatten = l := by
  have hall := (batches_le_iff hsize false).mp (Nat.le_refl (batches l.length size false))
  rw [windows, flatten_cuts]
  exact List.take_of_length_le (hall.2 rfl)

theorem place_within (a b k i : Nat) : k * (a * b) + i * a = (k * b + i) * a := by
  rw [Nat.add_mul, Nat.mul_assoc, Nat.mul_comm b a]

theorem cut_cut
    {a b i : Nat} (hi : i < b) (l : List α) (k : Nat) :
    cut (cut l (a * b) k) a i = cut l a (k * b + i) := by
  have hroom : a ≤ a * b - i * a := by
    have hle : (i + 1) * a ≤ b * a := Nat.mul_le_mul_right a hi
    rw [Nat.succ_mul] at hle
    rw [Nat.mul_comm a b]
    omega
  rw [cut, cut, cut, List.drop_take, List.take_take, List.drop_drop, Nat.min_eq_left hroom,
    place_within]

theorem lt_batches_within_iff
    {a b k n : Nat} (ha : 0 < a) (hb : 0 < b) {dropRemainder : Bool}
    (hk : k < batches n (a * b) dropRemainder) (i : Nat) :
    i < batches (min (a * b) (n - k * (a * b))) a false <->
      i < b ∧ k * b + i < batches n a dropRemainder := by
  have hab := Nat.mul_pos ha hb
  have hinner : i * a < a * b <-> i < b := by
    rw [Nat.mul_comm a b]
    exact Nat.mul_lt_mul_right ha
  rw [lt_batches_false_iff ha, Nat.lt_min, hinner]
  apply and_congr_right
  intro hi
  have hlast : i * a + a ≤ a * b := by
    rw [← Nat.succ_mul, Nat.mul_comm a b]
    exact Nat.mul_le_mul_right a hi
  cases dropRemainder with
  | true =>
      rw [lt_batches_true_iff hab, Nat.succ_mul] at hk
      rw [lt_batches_true_iff ha, Nat.succ_mul, ← place_within]
      omega
  | false =>
      rw [lt_batches_false_iff hab] at hk
      rw [lt_batches_false_iff ha, ← place_within]
      omega

/-- A window of windows holds those of one window of both sizes together. -/
theorem cut_windows
    {a b k : Nat} (ha : 0 < a) (hb : 0 < b) {l : List α} {dropRemainder : Bool}
    (hk : k < batches l.length (a * b) dropRemainder) :
    cut (windows l a dropRemainder) b k = windows (cut l (a * b) k) a false := by
  apply List.ext_getElem?
  intro i
  have hwithin := lt_batches_within_iff ha hb hk i
  rw [cut, List.getElem?_take, List.getElem?_drop, getElem?_windows, getElem?_windows, length_cut]
  by_cases hi : i < b
  · rw [if_pos hi, cut_cut hi]
    by_cases hmore : k * b + i < batches l.length a dropRemainder
    · rw [if_pos hmore, if_pos (hwithin.mpr ⟨hi, hmore⟩)]
    · rw [if_neg hmore, if_neg fun h => hmore (hwithin.mp h).2]
  · rw [if_neg hi, if_neg fun h => hi (hwithin.mp h).1]

theorem mem_windows {l w : List α} {size : Nat} {dropRemainder : Bool} :
    w ∈ windows l size dropRemainder <->
      exists i : Nat, i < batches l.length size dropRemainder ∧ cut l size i = w := by
  rw [windows, List.mem_map]
  simp only [List.mem_range]

theorem mem_of_mem_windows
    {l w : List α} {size : Nat} {dropRemainder : Bool} (hw : w ∈ windows l size dropRemainder)
    {a : α} (ha : a ∈ w) : a ∈ l := by
  rcases mem_windows.mp hw with ⟨i, _, rfl⟩
  exact mem_of_mem_cut ha

theorem length_of_mem_windows_true
    {l w : List α} {size : Nat} (hsize : 0 < size) (h : w ∈ windows l size true) :
    w.length = size := by
  rcases mem_windows.mp h with ⟨i, hi, rfl⟩
  rw [lt_batches_true_iff hsize, Nat.succ_mul] at hi
  rw [length_cut]
  omega

theorem length_of_mem_windows_false
    {l w : List α} {size : Nat} (hsize : 0 < size)
    (heven : l.length ≤ size ∨ l.length % size = 0) (h : w ∈ windows l size false) :
    w.length = min size l.length := by
  rcases mem_windows.mp h with ⟨i, hi, rfl⟩
  rw [lt_batches_false_iff hsize] at hi
  rw [length_cut]
  rcases heven with hshort | hmultiple
  · have hfirst : i = 0 := by
      apply Nat.eq_zero_of_not_pos
      intro hpos
      have hle : 1 * size ≤ i * size := Nat.mul_le_mul_right size hpos
      omega
    rw [hfirst, Nat.zero_mul, Nat.sub_zero]
  · rcases Nat.dvd_of_mod_eq_zero hmultiple with ⟨q, hq⟩
    rw [hq, Nat.mul_comm size q] at hi ⊢
    have hlt : i + 1 ≤ q := Nat.lt_of_mul_lt_mul_right hi
    have hle : (i + 1) * size ≤ q * size := Nat.mul_le_mul_right size hlt
    rw [Nat.succ_mul] at hle
    omega

theorem windows_of_rest
    {l : List α} {size : Nat} (hrest : l.length % size ≠ 0) :
    windows l size false = windows l size true ++ [cut l size (l.length / size)] := by
  have hcount : batches l.length size false = l.length / size + 1 := by
    rw [batches, if_pos ⟨hrest, rfl⟩]
  rw [windows, windows, hcount, batches_true, List.range_succ, List.map_append]
  rfl

theorem length_cut_rest {l : List α} {size : Nat} (hsize : 0 < size) :
    (cut l size (l.length / size)).length = l.length % size := by
  have hsplit := Nat.div_add_mod l.length size
  have hmod := Nat.mod_lt l.length hsize
  rw [length_cut, Nat.mul_comm]
  omega

end

end TensorPipeline
