import TensorPipeline.Pipeline.Basic
import TensorPipeline.Proofs.PartialShapes

/-!
# Partial shapes side by side

Putting partial shapes one behind the other is associative.  The shape of no
dimensions changes nothing, and an unknown rank takes in everything.  What is
admitted goes along with it: shapes admitted one by one are admitted side by side,
and where both ranks are known a shape that is admitted falls apart in one way only,
because the rank of the first part says where to cut.
-/

namespace TensorPipeline
namespace PartialShape

variable {p q : PartialShape} {u : Shape}

/-!
## Laws of concatenation
-/

@[simp] theorem concat_ofDims (a b : List Dim) :
    (ofDims a).concat (ofDims b) = ofDims (a ++ b) := rfl

@[simp] theorem unknownRank_concat (p : PartialShape) : unknownRank.concat p = unknownRank := rfl

@[simp] theorem concat_unknownRank (p : PartialShape) : p.concat unknownRank = unknownRank := by
  rcases p with ⟨_ | a⟩
  · rfl
  · rfl

theorem eq_unknownRank_or_ofDims (p : PartialShape) :
    p = unknownRank ∨ exists dims : List Dim, p = ofDims dims := by
  rcases p with ⟨_ | dims⟩
  · exact Or.inl rfl
  · exact Or.inr ⟨dims, rfl⟩

theorem concat_assoc (p q r : PartialShape) :
    (p.concat q).concat r = p.concat (q.concat r) := by
  rcases p.eq_unknownRank_or_ofDims with rfl | ⟨a, rfl⟩
  · rfl
  · rcases q.eq_unknownRank_or_ofDims with rfl | ⟨b, rfl⟩
    · rw [concat_unknownRank, unknownRank_concat, concat_unknownRank]
    · rcases r.eq_unknownRank_or_ofDims with rfl | ⟨c, rfl⟩
      · rw [concat_unknownRank, concat_unknownRank, concat_unknownRank]
      · rw [concat_ofDims, concat_ofDims, concat_ofDims, concat_ofDims, List.append_assoc]

theorem ofDims_nil_concat (p : PartialShape) : (ofDims []).concat p = p := by
  rcases p.eq_unknownRank_or_ofDims with rfl | ⟨a, rfl⟩
  · rfl
  · rfl

theorem concat_ofDims_nil (p : PartialShape) : p.concat (ofDims []) = p := by
  rcases p.eq_unknownRank_or_ofDims with rfl | ⟨a, rfl⟩
  · rfl
  · rw [concat_ofDims, List.append_nil]

/-!
## Cutting an admitted shape
-/

theorem eq_ofDims_of_rank? (h : p.rank?.isSome = true) :
    exists dims : List Dim, p = ofDims dims := by
  rcases p.eq_unknownRank_or_ofDims with rfl | hdims
  · cases h
  · exact hdims

theorem rank_eq_of_admits {dims : List Dim} (h : (ofDims dims).admits u = true) :
    u.dims.length = dims.length :=
  (admits_ofDims_iff.mp h).length_eq.symm

theorem eq_of_append_eq
    {dims : List Dim} {s t s' t' : Shape} (hs : (ofDims dims).admits s = true)
    (hs' : (ofDims dims).admits s' = true) (h : s.dims ++ t.dims = s'.dims ++ t'.dims) :
    s = s' ∧ t = t' := by
  have hrank : s.dims.length = s'.dims.length :=
    (rank_eq_of_admits hs).trans (rank_eq_of_admits hs').symm
  rcases s with ⟨sizes⟩
  rcases t with ⟨rest⟩
  rcases s' with ⟨sizes'⟩
  rcases t' with ⟨rest'⟩
  rcases List.append_inj h hrank with ⟨hfront, hback⟩
  cases hfront
  cases hback
  exact ⟨rfl, rfl⟩

theorem admits_parts
    {a b : List Dim} (h : ((ofDims a).concat (ofDims b)).admits u = true) :
    (ofDims a).admits ⟨u.dims.take a.length⟩ = true ∧
      (ofDims b).admits ⟨u.dims.drop a.length⟩ = true := by
  rw [concat_ofDims, admits_ofDims_iff, Dim.AdmitEach] at h
  constructor
  · have hfront := List.forall₂_take a.length h
    rw [List.take_left] at hfront
    exact admits_ofDims_iff.mpr hfront
  · have hback := List.forall₂_drop a.length h
    rw [List.drop_left] at hback
    exact admits_ofDims_iff.mpr hback

theorem existsUnique_parts
    (hp : p.rank?.isSome = true) (hq : q.rank?.isSome = true)
    (h : (p.concat q).admits u = true) :
    ∃! parts : Shape × Shape,
      u.dims = parts.1.dims ++ parts.2.dims ∧
        p.admits parts.1 = true ∧ q.admits parts.2 = true := by
  rcases eq_ofDims_of_rank? hp with ⟨a, rfl⟩
  rcases eq_ofDims_of_rank? hq with ⟨b, rfl⟩
  have hjoined : u.dims = u.dims.take a.length ++ u.dims.drop a.length :=
    (List.take_append_drop a.length u.dims).symm
  have hparts := admits_parts h
  refine ⟨(⟨u.dims.take a.length⟩, ⟨u.dims.drop a.length⟩), ⟨hjoined, hparts⟩, ?_⟩
  rintro ⟨s, t⟩ ⟨hjoined', hs, _⟩
  rcases eq_of_append_eq hs hparts.1 (hjoined'.symm.trans hjoined) with ⟨rfl, rfl⟩
  rfl

/-- Where the rank behind is not known, nothing says that a first part is there at
all. -/
theorem admits_scalar_without_parts {dims : List Dim} (h : dims ≠ []) :
    ((ofDims dims).concat unknownRank).admits Shape.scalar = true ∧
      ¬ exists s t : Shape,
        Shape.scalar.dims = s.dims ++ t.dims ∧ (ofDims dims).admits s = true := by
  constructor
  · rfl
  · rintro ⟨s, t, hjoined, hs⟩
    have hempty : s.dims = [] := (List.append_eq_nil_iff.mp hjoined.symm).1
    have hrank := rank_eq_of_admits hs
    rw [hempty] at hrank
    exact h (List.length_eq_zero_iff.mp hrank.symm)

end PartialShape

theorem Pipeline.shapes_batch_batch (outer inner : Stage) (input : Pipeline) :
    (batch outer (batch inner input)).shapes =
      input.shapes.map (outer.leading.concat inner.leading).concat := by
  rw [shapes, shapes, List.map_map]
  refine List.map_congr_left fun p _ => ?_
  exact (PartialShape.concat_assoc outer.leading inner.leading p).symm

namespace PartialShape

/-- Partial shapes form a monoid under concatenation, with the unknown rank as its
zero.  Whatever is admitted one by one is admitted side by side; a shape admitted side
by side by partial shapes of known rank falls into two admitted parts, in exactly one
way; and a concrete shape admits no other than itself. -/
theorem concatenation_respects_admission :
    (forall p q r : PartialShape, (p.concat q).concat r = p.concat (q.concat r)) ∧
      (forall p : PartialShape, (ofDims []).concat p = p ∧ p.concat (ofDims []) = p) ∧
      (forall p : PartialShape,
        unknownRank.concat p = unknownRank ∧ p.concat unknownRank = unknownRank) ∧
      (forall (p q : PartialShape) (s t : Shape),
        p.admits s = true -> q.admits t = true ->
        (p.concat q).admits ⟨s.dims ++ t.dims⟩ = true) ∧
      (forall (p q : PartialShape) (u : Shape),
        p.rank?.isSome = true -> q.rank?.isSome = true -> (p.concat q).admits u = true ->
        ∃! parts : Shape × Shape,
          u.dims = parts.1.dims ++ parts.2.dims ∧
            p.admits parts.1 = true ∧ q.admits parts.2 = true) ∧
      forall s t : Shape, (ofShape s).admits t = true -> s = t := by
  refine ⟨concat_assoc, ?_, ?_, ?_, ?_, ?_⟩
  · intro p
    exact ⟨p.ofDims_nil_concat, p.concat_ofDims_nil⟩
  · intro p
    exact ⟨p.unknownRank_concat, p.concat_unknownRank⟩
  · intro p q s t hs ht
    exact admits_concat hs ht
  · intro p q u hp hq h
    exact existsUnique_parts hp hq h
  · intro s t h
    exact eq_of_admits_ofShape h

theorem concatenation_respects_admission_of_batched_matrix :
    (ofDims [.unknown]).admits ⟨[7]⟩ = true ∧
      (ofDims [.known 3, .unknown]).admits ⟨[3, 2]⟩ = true ∧
      ((ofDims [.unknown]).concat (ofDims [.known 3, .unknown])).admits ⟨[7, 3, 2]⟩ = true ∧
      (ofDims [.unknown]).rank?.isSome = true ∧
      (ofDims [.known 3, .unknown]).rank?.isSome = true ∧
      (forall s t : Shape,
        [7, 3, 2] = s.dims ++ t.dims -> (ofDims [.unknown]).admits s = true ->
        (ofDims [.known 3, .unknown]).admits t = true -> s = ⟨[7]⟩ ∧ t = ⟨[3, 2]⟩) ∧
      (ofShape ⟨[3, 2]⟩).admits ⟨[3, 2]⟩ = true ∧
      forall t : Shape, (ofShape ⟨[3, 2]⟩).admits t = true -> t = ⟨[3, 2]⟩ := by
  rcases concatenation_respects_admission with ⟨_, _, _, hjoin, hcut, hexact⟩
  have hfront : (ofDims [.unknown]).admits ⟨[7]⟩ = true := by decide
  have hback : (ofDims [.known 3, .unknown]).admits ⟨[3, 2]⟩ = true := by decide
  have hwhole := hjoin _ _ _ _ hfront hback
  have hself : (ofShape ⟨[3, 2]⟩).admits ⟨[3, 2]⟩ = true := by decide
  refine ⟨hfront, hback, hwhole, rfl, rfl, ?_, hself, fun t h => (hexact _ t h).symm⟩
  intro s t hjoined hs ht
  rcases hcut _ _ ⟨[7, 3, 2]⟩ rfl rfl hwhole with ⟨parts, _, hunique⟩
  have hgiven := hunique (s, t) ⟨hjoined, hs, ht⟩
  have hknown := hunique (⟨[7]⟩, ⟨[3, 2]⟩) ⟨rfl, hfront, hback⟩
  have hparts := hgiven.trans hknown.symm
  exact ⟨congrArg Prod.fst hparts, congrArg Prod.snd hparts⟩

end PartialShape
end TensorPipeline
