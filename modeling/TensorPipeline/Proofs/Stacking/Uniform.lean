import TensorPipeline.Proofs.Stacking.AtOnce

/-!
# Uniform windows

Elements are uniform if they agree in the types and shapes of their components.
If the allocator grants requests as large as its batches are, a uniform window is
stacked into one block: the bytes of each component one after another, under a new
outermost dimension.  Blocks of uniform windows are uniform elements themselves, and a block
of blocks holds the bytes that a block of all their elements holds.  If only the
last element differs in the shape of its first component, that is the error.
-/

namespace TensorPipeline

abbrev Form := List (DType × Shape)

def form (e : Element) : Form := e.map fun t => (t.dtype, t.shape)

theorem getElem?_form (e : Element) (component : Nat) :
    (form e)[component]? = e[component]?.map fun t => (t.dtype, t.shape) :=
  List.getElem?_map

def Form.raise (dims : List UInt64) (f : Form) : Form :=
  f.map fun kind => (kind.1, ⟨dims ++ kind.2.dims⟩)

namespace Allocator

/-- Every request of at most `limit` bytes is granted. -/
def Grants (a : Allocator) (limit : UInt64) : Prop :=
  forall (earlier : List UInt64) (bytes : UInt64),
    bytes ≤ limit -> (a.serve earlier bytes).isSome = true

theorem heap_grants {limit : UInt64} (h : limit < unservable) : heap.Grants limit := by
  intro earlier bytes hbytes
  show (if bytes < unservable then some (List.replicate bytes.toNat 0) else none).isSome = true
  rw [if_pos (UInt64.lt_of_le_of_lt hbytes h)]
  rfl

theorem limited_grants {limit : UInt64} (h : limit < unservable) :
    (limited limit).Grants limit := by
  intro earlier bytes hbytes
  show (if limit < bytes then none else heap.serve earlier bytes).isSome = true
  rw [if_neg (UInt64.not_lt.mpr hbytes)]
  exact heap_grants h earlier bytes hbytes

end Allocator

namespace Stacking

structure Uniform (f : Form) (window : List Element) : Prop where
  form_eq : forall e : Element, e ∈ window -> form e = f
  wellFormed : forall e : Element, e ∈ window -> forall t : Tensor, t ∈ e -> t.WellFormed

/-- The components of a window as one element: the bytes of each one after
another, with some dimensions in front of the shape. -/
def block (dims : List UInt64) (f : Form) (window : List Element) : Element :=
  f.zipIdx.map fun item =>
    ⟨item.1.1, ⟨dims ++ item.1.2.dims⟩, (column window item.2).flatMap Tensor.data⟩

theorem getElem?_block
    (dims : List UInt64) (f : Form) (window : List Element) (component : Nat) :
    (block dims f window)[component]? = f[component]?.map fun kind =>
      ⟨kind.1, ⟨dims ++ kind.2.dims⟩, (column window component).flatMap Tensor.data⟩ := by
  rw [block, List.getElem?_map, List.getElem?_zipIdx, Option.map_map, Nat.zero_add]
  rfl

theorem form_block (dims : List UInt64) (f : Form) (window : List Element) :
    form (block dims f window) = f.raise dims := by
  apply List.ext_getElem?
  intro component
  rw [getElem?_form, getElem?_block, Form.raise, List.getElem?_map, Option.map_map]
  rfl

/-!
## Blocks of blocks
-/

theorem column_flatten (windows : List (List Element)) (component : Nat) :
    column windows.flatten component = windows.flatMap fun window => column window component := by
  rw [column, List.filterMap_flatten, List.flatMap_def]
  rfl

theorem column_blocks
    {f : Form} {component : Nat} {kind : DType × Shape} (hkind : f[component]? = some kind)
    (dims : List UInt64) (windows : List (List Element)) :
    column (windows.map (block dims f)) component =
      windows.map fun window =>
        ⟨kind.1, ⟨dims ++ kind.2.dims⟩, (column window component).flatMap Tensor.data⟩ := by
  rw [column, List.filterMap_map, ← List.filterMap_eq_map]
  congr 1
  funext window
  show (block dims f window)[component]? = _
  rw [getElem?_block, hkind]
  rfl

theorem block_blocks
    (outer inner : List UInt64) (f : Form) (windows : List (List Element)) :
    block outer (f.raise inner) (windows.map (block inner f)) =
      block (outer ++ inner) f windows.flatten := by
  apply List.ext_getElem?
  intro component
  rw [getElem?_block, getElem?_block, Form.raise, List.getElem?_map, Option.map_map]
  cases hkind : f[component]? with
  | none => rfl
  | some kind =>
      have hbytes : (column (windows.map (block inner f)) component).flatMap Tensor.data =
          (column windows.flatten component).flatMap Tensor.data := by
        rw [column_blocks hkind, column_flatten, List.flatMap_map, List.flatMap_assoc]
      simp only [Option.map_some, Function.comp_apply, hbytes, List.append_assoc]

/-!
## Columns of a uniform window
-/

section

variable {f : Form} {window : List Element}

theorem Uniform.getElem?_of_mem_column
    (h : Uniform f window) {component : Nat} {t : Tensor} (ht : t ∈ column window component) :
    f[component]? = some (t.dtype, t.shape) := by
  rcases List.mem_filterMap.mp ht with ⟨e, he, hget⟩
  rw [← h.form_eq e he, getElem?_form, hget]
  rfl

theorem Uniform.wellFormed_column
    (h : Uniform f window) {component : Nat} {t : Tensor} (ht : t ∈ column window component) :
    t.WellFormed :=
  wellFormed_of_mem_column h.wellFormed ht

theorem Uniform.length_eq (h : Uniform f window) {e : Element} (he : e ∈ window) :
    e.length = f.length := by
  rw [← h.form_eq e he, form, List.length_map]

theorem Uniform.length_column
    (h : Uniform f window) {component : Nat} (hcomponent : component < f.length) :
    (column window component).length = window.length := by
  apply Stacking.length_column
  intro e he
  rw [h.length_eq he]
  exact hcomponent

theorem Uniform.length_data_eq
    (h : Uniform f window) {component : Nat} {s t : Tensor} (hs : s ∈ column window component)
    (ht : t ∈ column window component) : t.data.length = s.data.length := by
  have hkind := (h.getElem?_of_mem_column ht).symm.trans (h.getElem?_of_mem_column hs)
  have hkind := Option.some.inj hkind
  exact Stacking.length_data_eq (h.wellFormed_column hs) (h.wellFormed_column ht)
    (congrArg Prod.snd hkind) (congrArg Prod.fst hkind)

theorem length_flatMap_data
    {tensors : List Tensor} {width : Nat}
    (h : forall t : Tensor, t ∈ tensors -> t.data.length = width) :
    (tensors.flatMap Tensor.data).length = tensors.length * width := by
  induction tensors with
  | nil => exact (Nat.zero_mul width).symm
  | cons t tensors ih =>
      rw [List.flatMap_cons, List.length_append, List.length_cons, Nat.succ_mul,
        h t List.mem_cons_self, ih fun t' ht' => h t' (List.mem_cons_of_mem t ht'), Nat.add_comm]

theorem Uniform.of_mem_block
    {first : Element} {rest : List Element} (h : Uniform f (first :: rest))
    {dims : List UInt64} {t : Tensor} (ht : t ∈ block dims f (first :: rest)) :
    exists t₀ : Tensor,
      t₀ ∈ first ∧ t.dtype = t₀.dtype ∧ t.shape = ⟨dims ++ t₀.shape.dims⟩ ∧
        t.data.length = (first :: rest).length * t₀.data.length := by
  rcases List.getElem?_of_mem ht with ⟨component, hget⟩
  rw [getElem?_block] at hget
  rcases Option.map_eq_some_iff.mp hget with ⟨kind, hkind, rfl⟩
  have hcomponent := (List.getElem?_eq_some_iff.mp hkind).1
  rw [← h.form_eq first List.mem_cons_self, getElem?_form] at hkind
  rcases Option.map_eq_some_iff.mp hkind with ⟨t₀, ht₀, rfl⟩
  have hcolumn : t₀ ∈ column (first :: rest) component := by
    rw [column_cons ht₀]
    exact List.mem_cons_self
  refine ⟨t₀, List.mem_of_getElem? ht₀, rfl, rfl, ?_⟩
  rw [← h.length_column hcomponent]
  exact length_flatMap_data fun t' ht' => h.length_data_eq hcolumn ht'

theorem Uniform.wellFormed_block
    {first : Element} {rest : List Element} (h : Uniform f (first :: rest))
    (hfit : forall t : Tensor, t ∈ first ->
      (first :: rest).length * t.data.length < 2 ^ 64)
    {t : Tensor} (ht : t ∈ block [UInt64.ofNat (first :: rest).length] f (first :: rest)) :
    t.WellFormed := by
  rcases h.of_mem_block ht with ⟨t₀, ht₀, hdtype, hshape, hlength⟩
  have hwf := h.wellFormed first List.mem_cons_self t₀ ht₀
  have hbytes : t.shape.byteSize? t.dtype = some (batchBytes (first :: rest).length t₀) := by
    rw [hdtype, hshape]
    exact byteSize?_stacked hwf (hfit t₀ ht₀)
  rw [Tensor.WellFormed, hbytes, hlength, Option.map_some, batchBytes,
    UInt64.toNat_ofNat_of_lt' (hfit t₀ ht₀)]

end

/-!
## Stacking where the requests are granted
-/

theorem mapM_congr
    {ε α β : Type} {g g' : α -> Except ε β} {l : List α}
    (h : forall a : α, a ∈ l -> g a = g' a) : l.mapM g = l.mapM g' := by
  induction l with
  | nil => rfl
  | cons a l ih =>
      rw [List.mapM_cons, List.mapM_cons, h a List.mem_cons_self,
        ih fun a' ha' => h a' (List.mem_cons_of_mem a ha')]

theorem batchBytes_le
    {n : Nat} {t : Tensor} {limit : UInt64} (h : n * t.data.length ≤ limit.toNat) :
    batchBytes n t ≤ limit := by
  rw [UInt64.le_iff_toNat_le, batchBytes,
    UInt64.toNat_ofNat_of_lt' (Nat.lt_of_le_of_lt h limit.toNat_lt)]
  exact h

theorem stack_of_grants
    {ctx : Context} {limit : UInt64} (hgrants : ctx.allocator.Grants limit) (usage : Usage)
    {first : Element} {rest : List Element}
    (hcount : forall e : Element, e ∈ first :: rest -> e.length = first.length)
    (hwf : forall e : Element, e ∈ first :: rest -> forall t : Tensor, t ∈ e -> t.WellFormed)
    (hfit : forall t : Tensor, t ∈ first ->
      (first :: rest).length * t.data.length ≤ limit.toNat) :
    (stack ctx false usage (first :: rest)).1 =
      (first.zipIdx.mapM fun item =>
        columnOutcome item.2 true item.1 (column (first :: rest) item.2)).mapError
          Failure.error := by
  rw [stack_in_turn_of_equal_counts ctx usage hcount hwf fun t ht =>
    Nat.lt_of_le_of_lt (hfit t ht) limit.toNat_lt]
  congr 1
  apply mapM_congr
  rintro ⟨t, component⟩ hitem
  have ht := List.mem_of_getElem? (List.mem_zipIdx_iff_getElem?.mp hitem)
  rw [hgrants _ _ (batchBytes_le (hfit t ht))]

theorem columnOutcome_of_uniform
    {f : Form} {first : Element} {rest : List Element} (h : Uniform f (first :: rest))
    {component : Nat} {t : Tensor} (ht : first[component]? = some t) :
    columnOutcome component true t (column (first :: rest) component) =
      .ok ⟨t.dtype, ⟨UInt64.ofNat (first :: rest).length :: t.shape.dims⟩,
        (column (first :: rest) component).flatMap Tensor.data⟩ := by
  have hkind : f[component]? = some (t.dtype, t.shape) := by
    rw [← h.form_eq first List.mem_cons_self, getElem?_form, ht]
    rfl
  have hsame (t' : Tensor) (ht' : t' ∈ column (first :: rest) component) :
      (t'.dtype, t'.shape) = (t.dtype, t.shape) :=
    Option.some.inj ((h.getElem?_of_mem_column ht').symm.trans hkind)
  have hshape : firstOther (fun t' : Tensor => t'.shape = t.shape)
      (column (first :: rest) component) = none :=
    firstOther_eq_none_iff.mpr fun t' ht' => decide_eq_true (congrArg Prod.snd (hsame t' ht'))
  have hdtype : firstOther (fun t' : Tensor => t'.dtype = t.dtype)
      (column (first :: rest) component) = none :=
    firstOther_eq_none_iff.mpr fun t' ht' => decide_eq_true (congrArg Prod.fst (hsame t' ht'))
  have hlength := h.length_column (List.getElem?_eq_some_iff.mp hkind).1
  unfold columnOutcome
  rw [hshape, hdtype, hlength]
  rfl

theorem stack_eq_of_in_turn
    {ctx : Context} (parallel : Bool) {usage : Usage} {first : Element} {rest : List Element}
    {result : Except Failure Element} (h : (stack ctx false usage (first :: rest)).1 = result)
    (hresult : forall (component : Nat) (e : Error), CopyError component e ->
      result ≠ .error (.error e)) :
    (stack ctx parallel usage (first :: rest)).1 = result := by
  have hctx : ctx.allocator = ctx.allocator := rfl
  have hstack := (stack_alike hctx false parallel usage first rest).1
  rw [h] at hstack
  generalize (stack ctx parallel usage (first :: rest)).1 = other at hstack
  cases hstack with
  | ok batch => rfl
  | crash c => rfl
  | error _ => rfl
  | fault hfault _ => exact absurd rfl (hresult _ _ hfault.2.2.copyError)

/-- A uniform window is stacked into one block, whatever way its tensors are
copied. -/
theorem stack_of_uniform
    {ctx : Context} {limit : UInt64} (hgrants : ctx.allocator.Grants limit) (parallel : Bool)
    (usage : Usage) {f : Form} {first : Element} {rest : List Element}
    (h : Uniform f (first :: rest))
    (hfit : forall t : Tensor, t ∈ first ->
      (first :: rest).length * t.data.length ≤ limit.toNat) :
    (stack ctx parallel usage (first :: rest)).1 =
      .ok (block [UInt64.ofNat (first :: rest).length] f (first :: rest)) := by
  have hcount (e : Element) (he : e ∈ first :: rest) : e.length = first.length :=
    (h.length_eq he).trans (h.length_eq List.mem_cons_self).symm
  refine stack_eq_of_in_turn parallel ?_ fun component e _ heq => by cases heq
  have hcolumns : (first.zipIdx.mapM fun item =>
      columnOutcome item.2 true item.1 (column (first :: rest) item.2)) =
        first.zipIdx.mapM fun item => .ok
          ⟨item.1.dtype, ⟨UInt64.ofNat (first :: rest).length :: item.1.shape.dims⟩,
            (column (first :: rest) item.2).flatMap Tensor.data⟩ := by
    apply mapM_congr
    rintro ⟨t, component⟩ hitem
    exact columnOutcome_of_uniform h (List.mem_zipIdx_iff_getElem?.mp hitem)
  rw [stack_of_grants hgrants usage hcount h.wellFormed hfit, hcolumns]
  refine (congrArg (Except.mapError Failure.error) List.mapM_pure).trans ?_
  show Except.ok _ = Except.ok _
  congr 1
  rw [block, ← h.form_eq first List.mem_cons_self, form, List.zipIdx_map, List.map_map]
  rfl

/-!
## A last element of another shape
-/

theorem firstOther_concat
    {α : Type} {same : α -> Bool} {l : List α} (h : forall a : α, a ∈ l -> same a = true)
    {a : α} (ha : same a = false) : firstOther same (l ++ [a]) = some (a, l.length) := by
  have hstop : (l ++ [a]).takeWhile same = l := by
    rw [List.takeWhile_append_of_pos h, List.takeWhile_cons, ha]
    exact List.append_nil l
  rw [firstOther_eq, hstop, List.getElem?_concat_length]
  rfl

theorem column_append (window window' : List Element) (component : Nat) :
    column (window ++ window') component = column window component ++ column window' component :=
  List.filterMap_append

theorem stack_of_other_last
    {ctx : Context} {limit : UInt64} (hgrants : ctx.allocator.Grants limit) (parallel : Bool)
    (usage : Usage) {kind kind' : DType × Shape} {f f' : Form} (hlength : f'.length = f.length)
    (hshape : kind'.2 ≠ kind.2) {first last : Element} {rest : List Element}
    (h : Uniform (kind :: f) (first :: rest)) (hlast : Uniform (kind' :: f') [last])
    (hfit : forall t : Tensor, t ∈ first ->
      (first :: (rest ++ [last])).length * t.data.length ≤ limit.toNat) :
    (stack ctx parallel usage (first :: (rest ++ [last]))).1 =
      .error (.error (.shapeMismatch 0 kind.2 (first :: rest).length kind'.2)) := by
  have hmem : last ∈ [last] := List.mem_cons_self
  have hcount (e : Element) (he : e ∈ first :: (rest ++ [last])) : e.length = first.length := by
    rw [h.length_eq List.mem_cons_self]
    rcases List.mem_append.mp (show e ∈ (first :: rest) ++ [last] from he) with he | he
    · exact h.length_eq he
    · rw [hlast.length_eq he, List.length_cons, List.length_cons, hlength]
  have hwf (e : Element) (he : e ∈ first :: (rest ++ [last])) (t : Tensor) (ht : t ∈ e) :
      t.WellFormed := by
    rcases List.mem_append.mp (show e ∈ (first :: rest) ++ [last] from he) with he | he
    · exact h.wellFormed e he t ht
    · exact hlast.wellFormed e he t ht
  refine stack_eq_of_in_turn parallel ?_ ?_
  · rw [stack_of_grants hgrants usage hcount hwf hfit]
    have hform := h.form_eq first List.mem_cons_self
    have hform' := hlast.form_eq last hmem
    cases first with
    | nil => cases hform
    | cons t first =>
        cases last with
        | nil => cases hform'
        | cons t' last =>
            rcases List.cons.inj hform with ⟨rfl, _⟩
            rcases List.cons.inj hform' with ⟨rfl, _⟩
            have hcolumn : column ((t :: first) :: (rest ++ [t' :: last])) 0 =
                column ((t :: first) :: rest) 0 ++ [t'] :=
              column_append ((t :: first) :: rest) [t' :: last] 0
            have hsame (s : Tensor) (hs : s ∈ column ((t :: first) :: rest) 0) :
                decide (s.shape = t.shape) = true := by
              have hkind := Option.some.inj (h.getElem?_of_mem_column hs)
              exact decide_eq_true (congrArg Prod.snd hkind).symm
            have hother : decide (t'.shape = t.shape) = false := decide_eq_false hshape
            have houtcome : columnOutcome 0 true t
                (column ((t :: first) :: (rest ++ [t' :: last])) 0) =
                  .error (.shapeMismatch 0 t.shape ((t :: first) :: rest).length t'.shape) := by
              rw [hcolumn, columnOutcome, firstOther_concat hsame hother,
                h.length_column (Nat.succ_pos _)]
              rfl
            rw [List.zipIdx_cons, List.mapM_cons, houtcome]
            rfl
  · intro component e hcopy heq
    cases heq
    cases hcopy

end Stacking

end TensorPipeline
