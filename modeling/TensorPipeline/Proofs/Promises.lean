import TensorPipeline.Iterator
import TensorPipeline.Proofs.Delivery
import TensorPipeline.Proofs.PartialShapes
import TensorPipeline.Proofs.Runs

/-!
# Promises kept

The types and the partial shapes that a pipeline promises are computed from its
definition alone.  What it delivers keeps them: a source by its own check or
inference, and a stage because its batches have the components of the first
element of their window, with the number of elements in front.  That number is
the batch size wherever the stage promises so.

Types are promised for the first element of a list only.  They are kept where
the others agree with it.
-/

namespace TensorPipeline

/-- All elements of the list have the components and types of the first. -/
def Pipeline.Uniform : Pipeline -> Prop
  | range _ _ => True
  | tensors source => forall e : Element,
      e ∈ source.elements -> e.map Tensor.dtype = source.dtypes
  | counting _ input => input.Uniform
  | faulty _ input => input.Uniform
  | batch _ input => input.Uniform

/-!
## Shapes
-/

theorem Stage.Accepts.leading_admits
    {s : Stage} {window : List Element} (h : s.Accepts window) :
    s.leading.admits ⟨[UInt64.ofNat window.length]⟩ = true := by
  unfold Stage.leading
  cases hdrop : s.dropRemainder with
  | false => rfl
  | true =>
      rw [h.length_eq hdrop]
      exact PartialShape.admits_ofShape ⟨[UInt64.ofNat s.size]⟩

theorem conforms_stacked
    {shapes : List PartialShape} {leading : PartialShape} {count : Nat}
    {first batch : Element} (hleading : leading.admits ⟨[UInt64.ofNat count]⟩ = true)
    (hfirst : Conforms shapes first) (hstacked : List.Forall₂ (Stacked count) first batch) :
    Conforms (shapes.map leading.concat) batch := by
  induction hstacked generalizing shapes with
  | nil => exact conforms_nil_right _
  | cons hhead htail ih =>
      cases shapes with
      | nil => exact conforms_nil_left _
      | cons p shapes =>
          rcases conforms_cons_iff.mp hfirst with ⟨hadmits, hrest⟩
          refine conforms_cons_iff.mpr ⟨?_, ih hrest⟩
          rw [hhead.2]
          exact PartialShape.admits_concat hleading hadmits

theorem inherited_conforms (ctx : Context) :
    Inherited ctx fun p e => Conforms p.shapes e where
  range start stop value := conforms_ofShapes [Tensor.ofScalar .int64 value]
  tensors source e he := TensorSource.conforms he
  counting tally input e h := h
  faulty failAt input e h := h
  batch stage input usage window batch haccepts hwindow hstack := by
    rcases Stacking.stack_stacked hstack with ⟨first, rest, heq, hstacked⟩
    have hfirst : Conforms input.shapes first := by
      apply hwindow
      rw [heq]
      exact List.mem_cons_self
    exact conforms_stacked haccepts.leading_admits hfirst hstacked

/-!
## Leading dimensions
-/

theorem head?_dims_of_stacked
    {count : Nat} (hcount : count < 2 ^ 64) {first batch : Element}
    (hstacked : List.Forall₂ (Stacked count) first batch) {t : Tensor} (ht : t ∈ batch) :
    t.shape.dims.head?.map UInt64.toNat = some count := by
  induction hstacked with
  | nil => cases ht
  | cons hhead htail ih =>
      rcases List.mem_cons.mp ht with rfl | ht
      · rw [hhead.2]
        exact congrArg some (UInt64.toNat_ofNat_of_lt' hcount)
      · exact ih ht

theorem inherited_leading (ctx : Context) :
    Inherited ctx fun p e => forall (stage : Stage) (input : Pipeline),
      p = .batch stage input -> stage.dropRemainder = true ->
      forall t : Tensor, t ∈ e -> t.shape.dims.head?.map UInt64.toNat = some stage.size where
  range _ _ _ := by
    intro stage input heq
    cases heq
  tensors _ _ _ := by
    intro stage input heq
    cases heq
  counting _ _ _ _ := by
    intro stage input heq
    cases heq
  faulty _ _ _ _ := by
    intro stage input heq
    cases heq
  batch stage input usage window batch haccepts hwindow hstack := by
    intro stage' input' heq hdrop t ht
    cases heq
    rcases Stacking.stack_stacked hstack with ⟨first, rest, _, hstacked⟩
    rw [haccepts.length_eq hdrop] at hstacked
    exact head?_dims_of_stacked (Nat.lt_trans stage.size_lt (by decide)) hstacked ht

/-!
## Types
-/

theorem map_dtype_of_stacked
    {count : Nat} {first batch : Element}
    (hstacked : List.Forall₂ (Stacked count) first batch) :
    batch.map Tensor.dtype = first.map Tensor.dtype := by
  induction hstacked with
  | nil => rfl
  | cons hhead htail ih => rw [List.map_cons, List.map_cons, hhead.1, ih]

theorem inherited_dtypes (ctx : Context) :
    Inherited ctx fun p e => p.Uniform -> e.map Tensor.dtype = p.dtypes where
  range start stop value := fun _ => rfl
  tensors source e he := fun huniform => huniform e he
  counting tally input e h := h
  faulty failAt input e h := h
  batch stage input usage window batch haccepts hwindow hstack := by
    intro huniform
    rcases Stacking.stack_stacked hstack with ⟨first, rest, heq, hstacked⟩
    have hfirst : first ∈ window := by
      rw [heq]
      exact List.mem_cons_self
    rw [map_dtype_of_stacked hstacked]
    exact hwindow first hfirst huniform

/-!
## Every delivered element
-/

/-- Whatever an iterator delivers has, in each component for which its pipeline
promises a shape, a shape that is admitted; from a stage that drops a short last
batch its tensors are exactly as long as the batch size; and if the elements of
the list agree on their types, it has the promised components and types. -/
theorem delivered_as_promised
    (ctx : Context) (it : Iterator) (usage : Usage) {e : Element}
    (hnext : (it.next ctx usage).1 = .ok (some e)) :
    (forall (component : Nat) (p : PartialShape) (t : Tensor),
        it.pipeline.shapes[component]? = some p -> e[component]? = some t ->
        p.admits t.shape = true) ∧
      (forall (stage : Stage) (input : Pipeline),
        it.pipeline = .batch stage input -> stage.dropRemainder = true ->
        forall t : Tensor, t ∈ e ->
          t.shape.dims.head?.map UInt64.toNat = some stage.size) ∧
      (it.pipeline.Uniform -> e.map Tensor.dtype = it.pipeline.dtypes) := by
  rcases it with ⟨p, path, cursor⟩
  have hresult : (p.advance ctx path usage cursor).result = .ok (some e) := hnext
  refine ⟨?_, ?_, ?_⟩
  · exact (inherited_conforms ctx).advance p path usage cursor e hresult
  · exact (inherited_leading ctx).advance p path usage cursor e hresult
  · exact (inherited_dtypes ctx).advance p path usage cursor e hresult

def bytesElement (bytes : List UInt8) : Element :=
  [⟨.uint8, ⟨[UInt64.ofNat bytes.length]⟩, bytes⟩]

def growingBytes : TensorSource where
  first := bytesElement [1]
  rest := [bytesElement [2], bytesElement [3, 4], bytesElement [5, 6]]
  declared := none
  declared_ok _ h := nomatch h
  sized := true

def fullPairsOfBytes : Pipeline :=
  .batch { Stage.pairs with dropRemainder := true } (.tensors growingBytes)

theorem delivered_as_promised_behind_first_pair :
    exists (it : Iterator) (e : Element),
      Iterator.restoredUnder fullPairsOfBytes "Iterator"
          (Table.ofPairs [("Iterator::BatchV2::Tensors:next", .int 2)]) = .ok it ∧
        (it.next Context.default Usage.empty).1 = .ok (some e) ∧
        e = [⟨.uint8, ⟨[2, 2]⟩, [3, 4, 5, 6]⟩] ∧
        it.pipeline.shapes = [PartialShape.ofDims [.known 2, .unknown]] ∧
        it.pipeline.Uniform ∧
        (forall (component : Nat) (p : PartialShape) (t : Tensor),
          it.pipeline.shapes[component]? = some p -> e[component]? = some t ->
          p.admits t.shape = true) ∧
        (forall t : Tensor, t ∈ e -> t.shape.dims.head?.map UInt64.toNat = some 2) ∧
        e.map Tensor.dtype = [.uint8] := by
  let it : Iterator :=
    { pipeline := fullPairsOfBytes
      path := "Iterator::BatchV2"
      cursor := Guarded.ofContent (Feed.active (2 : UInt64)) }
  have hrestored : Iterator.restoredUnder fullPairsOfBytes "Iterator"
      (Table.ofPairs [("Iterator::BatchV2::Tensors:next", .int 2)]) = .ok it := by
    with_unfolding_all rfl
  have hnext : (it.next Context.default Usage.empty).1 =
      .ok (some [⟨.uint8, ⟨[2, 2]⟩, [3, 4, 5, 6]⟩]) := by
    with_unfolding_all rfl
  have huniform : it.pipeline.Uniform := by
    show forall e : Element, e ∈ growingBytes.elements ->
      e.map Tensor.dtype = growingBytes.dtypes
    decide
  have hshapes : it.pipeline.shapes = [PartialShape.ofDims [.known 2, .unknown]] := by
    with_unfolding_all rfl
  rcases delivered_as_promised Context.default it Usage.empty hnext with
    ⟨hadmits, hleading, hdtypes⟩
  refine ⟨it, _, hrestored, hnext, rfl, hshapes, huniform, hadmits, ?_, ?_⟩
  · exact hleading _ _ rfl rfl
  · exact hdtypes huniform

end TensorPipeline
