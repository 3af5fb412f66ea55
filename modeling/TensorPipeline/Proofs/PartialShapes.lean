import Mathlib.Data.List.Forall2
import TensorPipeline.Pipeline.TensorSource

/-!
# What partial shapes admit

A partial shape of known rank admits the shapes whose dimensions it admits one by
one.  Widening by a shape admits that shape and goes on admitting all that was
admitted before, so the shapes that a source infers from its elements, and those
it was checked against, are met by every element.
-/

namespace TensorPipeline

namespace Dim

theorem admits_widen_self (d : Dim) (n : UInt64) : (d.widen n).admits n = true := by
  cases d with
  | unknown => rfl
  | known k =>
      by_cases heq : k = n
      · rw [widen, if_pos heq, admits, heq]
        exact beq_self_eq_true n
      · rw [widen, if_neg heq]
        rfl

theorem admits_widen
    {d : Dim} {m : UInt64} (h : d.admits m = true) (n : UInt64) :
    (d.widen n).admits m = true := by
  cases d with
  | unknown => rfl
  | known k =>
      by_cases heq : k = n
      · rw [widen, if_pos heq]
        exact h
      · rw [widen, if_neg heq]
        rfl

abbrev AdmitEach (dims : List Dim) (sizes : List UInt64) : Prop :=
  List.Forall₂ (fun (d : Dim) (n : UInt64) => d.admits n = true) dims sizes

end Dim

namespace PartialShape

theorem admits_unknownRank (s : Shape) : unknownRank.admits s = true := rfl

theorem admits_ofDims_iff {dims : List Dim} {s : Shape} :
    (ofDims dims).admits s = true <-> Dim.AdmitEach dims s.dims := by
  rw [Dim.AdmitEach, List.forall₂_iff_zip, admits, ofDims, Bool.and_eq_true, beq_iff_eq,
    List.all_eq_true]
  constructor
  · rintro ⟨hlength, hall⟩
    exact ⟨hlength, fun hmem => hall _ hmem⟩
  · rintro ⟨hlength, hall⟩
    exact ⟨hlength, fun pair hmem => hall hmem⟩

theorem admits_ofShape (s : Shape) : (ofShape s).admits s = true := by
  rw [ofShape, admits_ofDims_iff, Dim.AdmitEach, List.forall₂_map_left_iff, List.forall₂_same]
  intro n _
  exact beq_self_eq_true n

theorem eq_of_admits_ofShape {s t : Shape} (h : (ofShape s).admits t = true) : s = t := by
  rcases s with ⟨sizes⟩
  rcases t with ⟨others⟩
  rw [ofShape, admits_ofDims_iff, Dim.AdmitEach, List.forall₂_map_left_iff] at h
  have heq : List.Forall₂ Eq sizes others := h.imp fun m n hadmits => eq_of_beq hadmits
  rw [List.forall₂_eq_eq_eq] at heq
  rw [heq]

theorem admits_widen_self (p : PartialShape) (s : Shape) : (p.widen s).admits s = true := by
  rcases p with ⟨_ | dims⟩
  · exact admits_unknownRank s
  · by_cases hrank : dims.length = s.rank
    · simp only [widen, hrank, if_true]
      rw [admits_ofDims_iff]
      rcases s with ⟨sizes⟩
      induction dims generalizing sizes with
      | nil =>
          cases sizes with
          | nil => exact List.Forall₂.nil
          | cons n sizes => cases hrank
      | cons d dims ih =>
          cases sizes with
          | nil => cases hrank
          | cons n sizes =>
              exact List.Forall₂.cons (d.admits_widen_self n) (ih sizes (Nat.succ.inj hrank))
    · simp only [widen, hrank, if_false]
      exact admits_unknownRank s

theorem admits_widen
    {p : PartialShape} {t : Shape} (h : p.admits t = true) (s : Shape) :
    (p.widen s).admits t = true := by
  rcases p with ⟨_ | dims⟩
  · exact admits_unknownRank t
  · by_cases hrank : dims.length = s.rank
    · simp only [widen, hrank, if_true]
      have hdims := admits_ofDims_iff.mp h
      rw [admits_ofDims_iff]
      rcases s with ⟨sizes⟩
      rcases t with ⟨others⟩
      -- by induction on the dimensions that agree one by one
      replace hdims : Dim.AdmitEach dims others := hdims
      clear h
      induction hdims generalizing sizes with
      | nil =>
          cases sizes with
          | nil => exact List.Forall₂.nil
          | cons n sizes => cases hrank
      | cons hd hdims ih =>
          cases sizes with
          | nil => cases hrank
          | cons n sizes =>
              exact List.Forall₂.cons (Dim.admits_widen hd n) (ih sizes (Nat.succ.inj hrank))
    · simp only [widen, hrank, if_false]
      exact admits_unknownRank t

theorem admits_concat
    {p q : PartialShape} {s t : Shape} (hp : p.admits s = true) (hq : q.admits t = true) :
    (p.concat q).admits ⟨s.dims ++ t.dims⟩ = true := by
  rcases p with ⟨_ | a⟩
  · exact admits_unknownRank _
  · rcases q with ⟨_ | b⟩
    · exact admits_unknownRank _
    · have hboth := List.rel_append (admits_ofDims_iff.mp hp) (admits_ofDims_iff.mp hq)
      exact admits_ofDims_iff.mpr hboth

end PartialShape

/-!
## Elements
-/

/-- Each component for which a shape is given has a shape that is admitted. -/
def Conforms (shapes : List PartialShape) (e : Element) : Prop :=
  forall (component : Nat) (p : PartialShape) (t : Tensor),
    shapes[component]? = some p -> e[component]? = some t -> p.admits t.shape = true

theorem conforms_nil_left (e : Element) : Conforms [] e := by
  intro component p t hp
  cases hp

theorem conforms_nil_right (shapes : List PartialShape) : Conforms shapes [] := by
  intro component p t _ ht
  cases ht

theorem conforms_cons_iff
    {p : PartialShape} {shapes : List PartialShape} {t : Tensor} {e : Element} :
    Conforms (p :: shapes) (t :: e) <-> p.admits t.shape = true ∧ Conforms shapes e := by
  constructor
  · intro h
    constructor
    · exact h 0 p t rfl rfl
    · intro component q u hq hu
      exact h (component + 1) q u hq hu
  · rintro ⟨hhead, htail⟩ component q u hq hu
    cases component with
    | zero =>
        cases hq
        cases hu
        exact hhead
    | succ component => exact htail component q u hq hu

theorem conforms_widenShapes_self (shapes : List PartialShape) (e : Element) :
    Conforms (widenShapes shapes e) e := by
  induction shapes generalizing e with
  | nil => exact conforms_nil_left e
  | cons p shapes ih =>
      cases e with
      | nil => exact conforms_nil_right _
      | cons t e => exact conforms_cons_iff.mpr ⟨p.admits_widen_self t.shape, ih e⟩

theorem Conforms.widenShapes
    {shapes : List PartialShape} {e : Element} (h : Conforms shapes e) (other : Element) :
    Conforms (widenShapes shapes other) e := by
  induction shapes generalizing e other with
  | nil => exact h
  | cons p shapes ih =>
      cases other with
      | nil => exact h
      | cons u other =>
          cases e with
          | nil => exact conforms_nil_right _
          | cons t e =>
              rcases conforms_cons_iff.mp h with ⟨hhead, htail⟩
              exact conforms_cons_iff.mpr
                ⟨PartialShape.admits_widen hhead u.shape, ih htail other⟩

theorem Conforms.foldl_widenShapes
    {shapes : List PartialShape} {e : Element} (h : Conforms shapes e)
    (others : List Element) : Conforms (others.foldl TensorPipeline.widenShapes shapes) e := by
  induction others generalizing shapes with
  | nil => exact h
  | cons other others ih => exact ih (h.widenShapes other)

theorem conforms_foldl_widenShapes
    {others : List Element} {e : Element} (he : e ∈ others) (shapes : List PartialShape) :
    Conforms (others.foldl widenShapes shapes) e := by
  induction others generalizing shapes with
  | nil => cases he
  | cons other others ih =>
      cases he with
      | head => exact (conforms_widenShapes_self shapes e).foldl_widenShapes others
      | tail _ he => exact ih he (widenShapes shapes other)

theorem conforms_ofShapes (e : Element) :
    Conforms (e.map fun t => PartialShape.ofShape t.shape) e := by
  intro component p t hp ht
  rw [List.getElem?_map, ht] at hp
  cases hp
  exact PartialShape.admits_ofShape t.shape

theorem conforms_inferShapes
    {first : Element} {rest : List Element} {e : Element} (he : e ∈ first :: rest) :
    Conforms (inferShapes first rest) e := by
  cases he with
  | head => exact (conforms_ofShapes first).foldl_widenShapes rest
  | tail _ he => exact conforms_foldl_widenShapes he _

theorem firstNotAdmitted_eq_none_iff {shapes : List PartialShape} {e : Element} :
    firstNotAdmitted shapes e = none <-> Conforms shapes e := by
  rw [firstNotAdmitted, List.find?_eq_none]
  constructor
  · intro hall component p t hp ht
    have hmem : (p, t) ∈ shapes.zip e :=
      List.mem_of_getElem? (List.getElem?_zip_eq_some.mpr ⟨hp, ht⟩)
    simpa using hall (p, t) hmem
  · rintro h ⟨p, t⟩ hmem
    rcases List.getElem?_of_mem hmem with ⟨component, hpair⟩
    rcases List.getElem?_zip_eq_some.mp hpair with ⟨hp, ht⟩
    simpa using h component p t hp ht

theorem checkElements_eq_ok_iff
    {shapes : List PartialShape} {elements : List Element} {index : Nat} :
    checkElements shapes index elements = .ok () <->
      forall e : Element, e ∈ elements -> Conforms shapes e := by
  induction elements generalizing index with
  | nil => exact ⟨fun _ e he => absurd he List.not_mem_nil, fun _ => rfl⟩
  | cons other elements ih =>
      rw [checkElements, List.forall_mem_cons, ← firstNotAdmitted_eq_none_iff]
      cases hother : firstNotAdmitted shapes other with
      | some refused =>
          constructor
          · intro h
            cases h
          · intro h
            cases h.1
      | none =>
          rw [ih]
          exact ⟨fun h => ⟨rfl, h⟩, fun h => h.2⟩

theorem checkShapes_eq_ok_iff
    {first : Element} {rest : List Element} {shapes : List PartialShape} :
    checkShapes first rest shapes = .ok () <->
      shapes.length = first.length ∧
        forall e : Element, e ∈ first :: rest -> Conforms shapes e := by
  unfold checkShapes
  by_cases hlength : shapes.length = first.length
  · rw [if_pos hlength, checkElements_eq_ok_iff]
    exact ⟨fun h => ⟨hlength, h⟩, fun h => h.2⟩
  · rw [if_neg hlength]
    constructor
    · intro h
      cases h
    · intro h
      exact absurd h.1 hlength

theorem TensorSource.conforms
    {source : TensorSource} {e : Element} (he : e ∈ source.elements) :
    Conforms source.shapes e := by
  unfold shapes
  cases hdeclared : source.declared with
  | none => exact conforms_inferShapes he
  | some shapes => exact (checkShapes_eq_ok_iff.mp (source.declared_ok shapes hdeclared)).2 e he

end TensorPipeline
