import TensorPipeline.Proofs.Cardinality
import TensorPipeline.Proofs.Stacking.Uniform
import TensorPipeline.Proofs.Windows

/-!
# Stages over stages

A stage over a stage cuts its input twice.  Every window of the outer stage holds
the windows into which the inner one cuts a window of the product of the two sizes,
so the nested stages and one stage of that size make their batches of the same
elements.  The bytes are the same too, unless the inner stage has cut a short last
batch behind full ones: then the shapes in the last outer window differ, and
stacking it is an error.
-/

namespace TensorPipeline

/-!
## Batches of windows
-/

namespace Stacking

variable {f : Form}

def batchOf (f : Form) (w : List Element) : Element := block [UInt64.ofNat w.length] f w

theorem Uniform.of_subset
    {l w : List Element} (h : Uniform f l) (hsubset : forall e : Element, e ∈ w -> e ∈ l) :
    Uniform f w where
  form_eq e he := h.form_eq e (hsubset e he)
  wellFormed e he := h.wellFormed e (hsubset e he)

structure Even (f : Form) (length : Nat) (ws : List (List Element)) : Prop where
  length_pos : 0 < length
  length_eq : forall w : List Element, w ∈ ws -> w.length = length
  uniform : forall w : List Element, w ∈ ws -> Uniform f w
  fit : forall w : List Element, w ∈ ws -> forall e : Element, e ∈ w -> forall t : Tensor, t ∈ e ->
    length * t.data.length < 2 ^ 64

theorem Even.of_mem_batch
    {length : Nat} {ws : List (List Element)} (h : Even f length ws) {w : List Element}
    (hw : w ∈ ws) {t : Tensor} (ht : t ∈ batchOf f w) :
    t.WellFormed ∧ exists (e : Element) (t₀ : Tensor),
      e ∈ w ∧ t₀ ∈ e ∧ t.data.length = length * t₀.data.length := by
  have hlength := h.length_eq w hw
  have hfit := h.fit w hw
  have huniform := h.uniform w hw
  cases w with
  | nil => exact absurd hlength (Nat.ne_of_lt h.length_pos)
  | cons first rest =>
      have hwf := huniform.wellFormed_block
        (fun t₀ ht₀ => by
          rw [hlength]
          exact hfit first List.mem_cons_self t₀ ht₀)
        ht
      rcases huniform.of_mem_block ht with ⟨t₀, ht₀, _, _, hbytes⟩
      rw [hlength] at hbytes
      exact ⟨hwf, first, t₀, List.mem_cons_self, ht₀, hbytes⟩

theorem Even.batchOf_eq
    {length : Nat} {ws : List (List Element)} (h : Even f length ws) :
    ws.map (batchOf f) = ws.map (block [UInt64.ofNat length] f) := by
  apply List.map_congr_left
  intro w hw
  rw [batchOf, h.length_eq w hw]

theorem Even.uniform_batches
    {length : Nat} {ws : List (List Element)} (h : Even f length ws) :
    Uniform (f.raise [UInt64.ofNat length]) (ws.map (batchOf f)) := by
  constructor
  · intro e he
    rw [h.batchOf_eq] at he
    rcases List.mem_map.mp he with ⟨w, _, rfl⟩
    exact form_block _ f w
  · intro e he t ht
    rcases List.mem_map.mp he with ⟨w, hw, rfl⟩
    exact (h.of_mem_batch hw ht).1

section

variable {size : Nat} {w : List Element} (hsize : 0 < size) (h : Uniform f w)
  (hfit : forall e : Element, e ∈ w -> forall t : Tensor, t ∈ e ->
    w.length * t.data.length < 2 ^ 64)

include hsize h hfit

theorem even_full (hmany : size ≤ w.length) : Even f size (windows w size true) where
  length_pos := hsize
  length_eq _ hv := length_of_mem_windows_true hsize hv
  uniform _ hv := h.of_subset fun _ he => mem_of_mem_windows hv he
  fit _ hv e he t ht :=
    Nat.lt_of_le_of_lt (Nat.mul_le_mul_right _ hmany) (hfit e (mem_of_mem_windows hv he) t ht)

theorem even_rest (hrest : w.length % size ≠ 0) :
    Even f (w.length % size) [cut w size (w.length / size)] := by
  constructor
  · exact Nat.pos_of_ne_zero hrest
  · intro v hv
    rw [List.mem_singleton.mp hv, length_cut_rest hsize]
  · intro v hv
    rw [List.mem_singleton.mp hv]
    exact h.of_subset fun e he => mem_of_mem_cut he
  · intro v hv e he t ht
    rw [List.mem_singleton.mp hv] at he
    exact Nat.lt_of_le_of_lt (Nat.mul_le_mul_right _ (Nat.mod_le w.length size))
      (hfit e (mem_of_mem_cut he) t ht)

theorem even_all (hne : w ≠ []) (heven : w.length ≤ size ∨ w.length % size = 0) :
    Even f (min size w.length) (windows w size false) where
  length_pos := Nat.lt_min.mpr ⟨hsize, List.length_pos_iff.mpr hne⟩
  length_eq _ hv := length_of_mem_windows_false hsize heven hv
  uniform _ hv := h.of_subset fun _ he => mem_of_mem_windows hv he
  fit _ hv e he t ht :=
    Nat.lt_of_le_of_lt (Nat.mul_le_mul_right _ (Nat.min_le_right size w.length))
      (hfit e (mem_of_mem_windows hv he) t ht)

end

variable {ctx : Context} {limit : UInt64} (hgrants : ctx.allocator.Grants limit)

include hgrants

theorem Even.stack_batches
    {length : Nat} {ws : List (List Element)} (h : Even f length ws) (hne : ws ≠ [])
    (hfit : forall w : List Element, w ∈ ws -> forall e : Element, e ∈ w -> forall t : Tensor,
      t ∈ e -> ws.length * length * t.data.length ≤ limit.toNat)
    (parallel : Bool) (usage : Usage) :
    (stack ctx parallel usage (ws.map (batchOf f))).1 =
      .ok (block [UInt64.ofNat ws.length, UInt64.ofNat length] f ws.flatten) := by
  have huniform := h.uniform_batches
  have hblocks := block_blocks [UInt64.ofNat ws.length] [UInt64.ofNat length] f ws
  rw [← h.batchOf_eq] at hblocks
  cases ws with
  | nil => exact absurd rfl hne
  | cons w ws =>
      have hlength : (batchOf f w :: ws.map (batchOf f)).length = (w :: ws).length := by
        rw [List.length_cons, List.length_map, List.length_cons]
      rw [List.map_cons] at huniform hblocks ⊢
      rw [stack_of_uniform hgrants parallel usage huniform, hlength, hblocks]
      · rfl
      · intro t ht
        rcases (h.of_mem_batch List.mem_cons_self ht).2 with ⟨e, t₀, he, ht₀, hbytes⟩
        rw [hlength, hbytes, ← Nat.mul_assoc]
        exact hfit w List.mem_cons_self e he t₀ ht₀

theorem Even.stack_batches_with_rest
    {kind : DType × Shape} {length : Nat} {ws : List (List Element)}
    (h : Even (kind :: f) length ws) (hne : ws ≠ []) {rest : List Element} {shorter : Nat}
    (hrest : Even (kind :: f) shorter [rest])
    (hshorter : UInt64.ofNat shorter ≠ UInt64.ofNat length)
    (hfit : forall w : List Element, w ∈ ws -> forall e : Element, e ∈ w -> forall t : Tensor,
      t ∈ e -> (ws.length + 1) * length * t.data.length ≤ limit.toNat)
    (parallel : Bool) (usage : Usage) :
    (stack ctx parallel usage ((ws ++ [rest]).map (batchOf (kind :: f)))).1 =
      .error (.error (.shapeMismatch 0 ⟨UInt64.ofNat length :: kind.2.dims⟩ ws.length
        ⟨UInt64.ofNat shorter :: kind.2.dims⟩)) := by
  have huniform := h.uniform_batches
  have huniform' := hrest.uniform_batches
  cases ws with
  | nil => exact absurd rfl hne
  | cons w ws =>
      have hlength : (batchOf (kind :: f) w :: ws.map (batchOf (kind :: f))).length =
          (w :: ws).length := by
        rw [List.length_cons, List.length_map, List.length_cons]
      rw [List.map_append, List.map_cons, List.cons_append]
      rw [List.map_cons] at huniform
      rw [← hlength]
      refine stack_of_other_last hgrants parallel usage ?_ ?_ huniform huniform' ?_
      · rw [List.length_map, List.length_map]
      · intro heq
        exact hshorter (List.cons.inj (congrArg Shape.dims heq)).1
      · intro t ht
        rcases (h.of_mem_batch List.mem_cons_self ht).2 with ⟨e, t₀, he, ht₀, hbytes⟩
        rw [List.length_cons, List.length_append, List.length_map, hbytes, ← Nat.mul_assoc]
        exact hfit w List.mem_cons_self e he t₀ ht₀

/-- What stacking the batches comes to that a stage of `size` makes of a window. -/
def batchesOutcome (kind : DType × Shape) (f : Form) (size : Nat) (w : List Element) :
    Except Failure Element :=
  if size < w.length ∧ w.length % size ≠ 0 then
    .error (.error (.shapeMismatch 0 ⟨UInt64.ofNat size :: kind.2.dims⟩ (w.length / size)
      ⟨UInt64.ofNat (w.length % size) :: kind.2.dims⟩))
  else
    .ok (block [UInt64.ofNat (batches w.length size false), UInt64.ofNat (min size w.length)]
      (kind :: f) w)

theorem stack_windows
    {kind : DType × Shape} {size : Nat} (hsize : 0 < size) (hsmall : size < 2 ^ 64)
    {w : List Element} (hne : w ≠ []) (h : Uniform (kind :: f) w)
    (hfit : forall e : Element, e ∈ w -> forall t : Tensor, t ∈ e ->
      2 * (w.length * t.data.length) ≤ limit.toNat)
    (parallel : Bool) (usage : Usage) :
    (stack ctx parallel usage ((windows w size false).map (batchOf (kind :: f)))).1 =
      batchesOutcome kind f size w := by
  have hfitOne (e : Element) (he : e ∈ w) (t : Tensor) (ht : t ∈ e) :
      w.length * t.data.length < 2 ^ 64 := by
    have htwice := hfit e he t ht
    have hword := limit.toNat_lt
    omega
  unfold batchesOutcome
  split
  · next hodd =>
      have hmod := Nat.mod_lt w.length hsize
      have hcount : (windows w size true).length = w.length / size := by
        rw [length_windows, batches_true]
      have hsome : windows w size true ≠ [] := by
        apply List.ne_nil_of_length_pos
        rw [hcount]
        exact Nat.div_pos (Nat.le_of_lt hodd.1) hsize
      have hshorter : UInt64.ofNat (w.length % size) ≠ UInt64.ofNat size := by
        intro heq
        have hwords := congrArg UInt64.toNat heq
        rw [UInt64.toNat_ofNat_of_lt' (Nat.lt_trans hmod hsmall),
          UInt64.toNat_ofNat_of_lt' hsmall] at hwords
        exact Nat.ne_of_lt hmod hwords
      have hfull := even_full hsize h hfitOne (Nat.le_of_lt hodd.1)
      have hrest := even_rest hsize h hfitOne hodd.2
      rw [windows_of_rest hodd.2, hfull.stack_batches_with_rest hgrants hsome hrest hshorter,
        hcount]
      intro v hv e he t ht
      -- the request is for one more batch than there are full ones
      have htwice : (w.length / size + 1) * size ≤ 2 * w.length := by
        have hle := Nat.div_mul_le_self w.length size
        rw [Nat.succ_mul]
        omega
      have hbytes := Nat.mul_le_mul_right t.data.length htwice
      rw [Nat.mul_assoc 2] at hbytes
      rw [hcount]
      exact Nat.le_trans hbytes (hfit e (mem_of_mem_windows hv he) t ht)
  · next heven =>
      have heven : w.length ≤ size ∨ w.length % size = 0 := by omega
      have hsome : windows w size false ≠ [] := by
        intro hnil
        have hflat := flatten_windows hsize w
        rw [hnil] at hflat
        exact hne hflat.symm
      rw [(even_all hsize h hfitOne hne heven).stack_batches hgrants hsome, length_windows,
        flatten_windows hsize]
      intro v hv e he t ht
      rw [length_windows, batches_mul_min (List.length_pos_iff.mpr hne) heven]
      have htwice := hfit e (mem_of_mem_windows hv he) t ht
      omega

end Stacking

/-!
## Runs
-/

namespace Segmentation

def Gives (script : Script) (es : List Element) : Prop :=
  forall i : Nat, i ≤ es.length -> script i = .ok es[i]?

theorem Gives.lists {script : Script} {es : List Element} (h : Gives script es) (bound : Nat) :
    Lists script es.length bound := by
  intro i _
  constructor
  · intro hi
    exact ⟨es[i], (h i (Nat.le_of_lt hi)).trans (congrArg _ (List.getElem?_eq_getElem hi))⟩
  · rintro rfl
    exact (h _ (Nat.le_refl _)).trans (congrArg _ (List.getElem?_eq_none (Nat.le_refl _)))

theorem Gives.leading_eq
    {script : Script} {es : List Element} (h : Gives script es) (room : Nat) {i : Nat}
    (hi : i ≤ es.length) : leading script room i = (es.drop i).take room := by
  induction room generalizing i with
  | zero => rfl
  | succ room ih =>
      rcases Nat.lt_or_eq_of_le hi with hlt | rfl
      · rw [leading, h i hi, List.getElem?_eq_getElem hlt, List.drop_eq_getElem_cons hlt,
          List.take_succ_cons]
        exact congrArg (es[i] :: ·) (ih hlt)
      · rw [leading, h _ (Nat.le_refl _), List.getElem?_eq_none (Nat.le_refl _),
          List.drop_of_length_le (Nat.le_refl _)]
        rfl

section

variable {ctx : Context} {s : Stage} {input : Pipeline} {path : String} {calls : Nat -> Usage}

theorem stage_answer_of_gives
    (hsize : s.size ≤ Stage.windowLimit) {es : List Element}
    (hgives : Gives (inputScript ctx input path (inputPulls ctx s input path calls)) es)
    {k : Nat} {result : Except Failure Element}
    (hstack : k < batches es.length s.size s.dropRemainder -> forall usage : Usage,
      (stack ctx s.parallelCopy usage (cut es s.size k)).1 = result) :
    (Pipeline.batch s input).answer ctx path calls k =
      if k < batches es.length s.size s.dropRemainder then result.map some else .ok none := by
  have hwindow (hk : k < batches es.length s.size s.dropRemainder) (n : Nat) :
      stackAfter ctx s input path (inputPulls ctx s input path calls) n
          (leading (inputScript ctx input path (inputPulls ctx s input path calls)) s.size
            (k * s.size)) = result.map some := by
    rw [hgives.leading_eq s.size (Nat.le_of_lt (mul_lt_of_lt_batches s.size_pos hk))]
    exact congrArg (Except.map some) (hstack hk _)
  rw [stage_answer_of_lists hsize (hgives.lists _)]
  have hcount := lt_batches_iff (n := es.length) (k := k) s.size_pos s.dropRemainder
  split
  · next hfull =>
      have hk := hcount.mpr (Or.inl hfull)
      rw [if_pos hk, hwindow hk]
  · next hfull =>
      split
      · next hshort =>
          have hk := hcount.mpr (Or.inr hshort)
          rw [if_pos hk, hwindow hk]
      · next hshort =>
          rw [if_neg fun hk => (hcount.mp hk).elim hfull hshort]

theorem window_fits
    {es : List Element} {a b limit : Nat} (hle : a ≤ b)
    (hfit : forall e : Element, e ∈ es -> forall t : Tensor, t ∈ e ->
      2 * (min es.length b * t.data.length) ≤ limit) :
    forall e : Element, e ∈ es -> forall t : Tensor, t ∈ e ->
      min es.length a * t.data.length ≤ limit := by
  intro e he t ht
  have hmin : min es.length a ≤ min es.length b := by omega
  have hbytes := Nat.mul_le_mul_right t.data.length hmin
  have htwice := hfit e he t ht
  omega

variable {limit : UInt64} (hgrants : ctx.allocator.Grants limit)

include hgrants

open Stacking in
theorem stage_answer_of_uniform
    (hsize : s.size ≤ Stage.windowLimit) {f : Form} {es : List Element} (h : Uniform f es)
    (hfit : forall e : Element, e ∈ es -> forall t : Tensor, t ∈ e ->
      min es.length s.size * t.data.length ≤ limit.toNat)
    (hgives : Gives (inputScript ctx input path (inputPulls ctx s input path calls)) es)
    (k : Nat) :
    (Pipeline.batch s input).answer ctx path calls k =
      .ok ((windows es s.size s.dropRemainder).map (batchOf f))[k]? := by
  have hstack (hk : k < batches es.length s.size s.dropRemainder) (usage : Usage) :
      (stack ctx s.parallelCopy usage (cut es s.size k)).1 = .ok (batchOf f (cut es s.size k)) := by
    have hne := cut_ne_nil s.size_pos hk
    have hlength := length_cut es s.size k
    have hmem (e : Element) (he : e ∈ cut es s.size k) : e ∈ es := mem_of_mem_cut he
    generalize cut es s.size k = w at hne hlength hmem ⊢
    cases w with
    | nil => exact absurd rfl hne
    | cons first rest =>
        apply stack_of_uniform hgrants s.parallelCopy usage (h.of_subset hmem)
        intro t ht
        refine Nat.le_trans (Nat.mul_le_mul_right _ ?_)
          (hfit first (hmem first List.mem_cons_self) t ht)
        omega
  rw [stage_answer_of_gives hsize hgives hstack, List.getElem?_map, getElem?_windows]
  split
  · rfl
  · rfl

open Stacking in
/-- A stage over a stage answers with what the batches of each window of both sizes
together come to. -/
theorem nested_answer_of_uniform
    {inner outer : Stage} (hdrop : outer.dropRemainder = inner.dropRemainder)
    (hsize : inner.size * outer.size ≤ Stage.windowLimit)
    {kind : DType × Shape} {f : Form} {es : List Element} (h : Uniform (kind :: f) es)
    (hfit : forall e : Element, e ∈ es -> forall t : Tensor, t ∈ e ->
      2 * (min es.length (inner.size * outer.size) * t.data.length) ≤ limit.toNat)
    (hgives : Gives
      (inputScript ctx input (inner.pathUnder path)
        (inputPulls ctx inner input (inner.pathUnder path)
          (inputPulls ctx outer (.batch inner input) path calls)))
      es)
    (k : Nat) :
    (Pipeline.batch outer (.batch inner input)).answer ctx path calls k =
      if k < batches es.length (inner.size * outer.size) inner.dropRemainder then
        (batchesOutcome kind f inner.size (cut es (inner.size * outer.size) k)).map some
      else .ok none := by
  have hinnerLe : inner.size ≤ inner.size * outer.size := Nat.le_mul_of_pos_right _ outer.size_pos
  have houterLe : outer.size ≤ inner.size * outer.size := Nat.le_mul_of_pos_left _ inner.size_pos
  have hlarge : inner.size < 2 ^ 64 := Nat.lt_trans inner.size_lt (by decide)
  have hinner := stage_answer_of_uniform hgrants (Nat.le_trans hinnerLe hsize) h
    (window_fits hinnerLe hfit) hgives
  have hcount : ((windows es inner.size inner.dropRemainder).map
      (batchOf (kind :: f))).length = batches es.length inner.size inner.dropRemainder := by
    rw [List.length_map, length_windows]
  have hbatches : batches
      ((windows es inner.size inner.dropRemainder).map (batchOf (kind :: f))).length outer.size
      outer.dropRemainder = batches es.length (inner.size * outer.size) inner.dropRemainder := by
    rw [hcount, hdrop, batches_batches inner.size_pos outer.size_pos]
  have hstack (hk : k < batches es.length (inner.size * outer.size) inner.dropRemainder)
      (usage : Usage) :
      (stack ctx outer.parallelCopy usage
        (cut ((windows es inner.size inner.dropRemainder).map (batchOf (kind :: f)))
          outer.size k)).1 =
        batchesOutcome kind f inner.size (cut es (inner.size * outer.size) k) := by
    rw [cut_map, cut_windows inner.size_pos outer.size_pos hk]
    apply stack_windows hgrants inner.size_pos hlarge
    · exact cut_ne_nil (Nat.mul_pos inner.size_pos outer.size_pos) hk
    · exact h.of_subset fun e he => mem_of_mem_cut he
    · intro e he t ht
      refine Nat.le_trans (Nat.mul_le_mul_left 2 (Nat.mul_le_mul_right _ ?_))
        (hfit e (mem_of_mem_cut he) t ht)
      rw [length_cut]
      omega
  rw [← hbatches] at hstack ⊢
  exact stage_answer_of_gives (Nat.le_trans houterLe hsize) (fun j _ => hinner j) hstack

end

end Segmentation

/-!
## Nested stages and one stage
-/

namespace Stacking

variable {kind : DType × Shape} {f : Form}

theorem batchesOutcome_of_full
    {a b : Nat} (ha : 0 < a) (hb : 0 < b) {w : List Element} (hw : w.length = a * b) :
    batchesOutcome kind f a w = .ok (block [UInt64.ofNat b, UInt64.ofNat a] (kind :: f) w) := by
  have hmod : a * b % a = 0 := Nat.mul_mod_right a b
  have hcount : batches (a * b) a false = b := by
    rw [batches, if_neg fun h => h.1 hmod, Nat.add_zero, Nat.mul_div_cancel_left b ha]
  rw [batchesOutcome, hw, if_neg fun h => h.2 hmod, hcount,
    Nat.min_eq_left (Nat.le_mul_of_pos_right a hb)]

theorem batchesOutcome_of_cut
    {a b size k : Nat} (hsize : size = a * b) (hpos : 0 < size) {es : List Element}
    (hk : k * size < es.length) :
    batchesOutcome kind f a (cut es size k) =
      if k = es.length / size ∧ a < es.length % size ∧ es.length % size % a ≠ 0 then
        .error (.error (.shapeMismatch 0 ⟨UInt64.ofNat a :: kind.2.dims⟩
          (es.length % size / a)
          ⟨UInt64.ofNat (es.length % size % a) :: kind.2.dims⟩))
      else
        .ok (block
          [UInt64.ofNat (batches (cut es size k).length a false),
            UInt64.ofNat (min a (cut es size k).length)]
          (kind :: f) (cut es size k)) := by
  have hlength := length_cut es size k
  have hsplit := Nat.div_add_mod es.length size
  rcases Nat.lt_or_ge k (es.length / size) with hbefore | hlast
  · have hfull : (cut es size k).length = size := by
      have hle : (k + 1) * size ≤ es.length := (Nat.le_div_iff_mul_le hpos).mp hbefore
      rw [Nat.succ_mul] at hle
      omega
    rw [batchesOutcome, if_neg, if_neg]
    · exact fun h => Nat.ne_of_lt hbefore h.1
    · rw [hfull, hsize]
      exact fun h => h.2 (Nat.mul_mod_right a b)
  · have hk' : k = es.length / size := by
      apply Nat.le_antisymm _ hlast
      exact (Nat.le_div_iff_mul_le hpos).mpr (Nat.le_of_lt hk)
    have hrest : (cut es size k).length = es.length % size := by
      rw [hk', length_cut_rest hpos]
    rw [batchesOutcome, hrest]
    by_cases hodd : a < es.length % size ∧ es.length % size % a ≠ 0
    · rw [if_pos hodd, if_pos ⟨hk', hodd⟩]
    · rw [if_neg hodd, if_neg fun h => hodd h.2]

end Stacking

open Segmentation Stacking in
/-- Batches of batches.  The input gives both runs the same uniform elements, and
requests for up to twice the bytes of a batch of the one stage are granted; the
outer stage asks for more than that batch has where it counts a short last batch
as a full one.  If the stages drop what is left over, the nested ones answer just
where the one stage of both sizes does, and with the same bytes.  If none does,
they answer where the one stage does, too, and with the same bytes but for the
last window: if the inner stage has cut it into full batches and a rest, the
answer is an error about the shape of the rest.  After the last window both answer
with the end for ever. -/
theorem nested_batches_compose
    {ctx : Context} {limit : UInt64} (hgrants : ctx.allocator.Grants limit)
    {inner outer whole : Stage} (hwhole : whole.size = inner.size * outer.size)
    (hsize : whole.size ≤ Stage.windowLimit)
    {kind : DType × Shape} {f : Form} {es : List Element} (huniform : Uniform (kind :: f) es)
    (hfit : forall e : Element, e ∈ es -> forall t : Tensor, t ∈ e ->
      2 * (min es.length whole.size * t.data.length) ≤ limit.toNat)
    (input : Pipeline) (path path' : String) (calls calls' : Nat -> Usage)
    (hnested : Gives
      (inputScript ctx input (inner.pathUnder path)
        (inputPulls ctx inner input (inner.pathUnder path)
          (inputPulls ctx outer (.batch inner input) path calls)))
      es)
    (hsingle : Gives
      (inputScript ctx input path' (inputPulls ctx whole input path' calls')) es) :
    (inner.dropRemainder = true -> outer.dropRemainder = true -> whole.dropRemainder = true ->
      forall k : Nat,
        let w := cut es whole.size k
        (Pipeline.batch outer (.batch inner input)).answer ctx path calls k =
            (if (k + 1) * whole.size ≤ es.length then
              .ok (some (block [UInt64.ofNat outer.size, UInt64.ofNat inner.size] (kind :: f) w))
            else .ok none) ∧
          (Pipeline.batch whole input).answer ctx path' calls' k =
            if (k + 1) * whole.size ≤ es.length then
              .ok (some (block [UInt64.ofNat whole.size] (kind :: f) w))
            else .ok none) ∧
    (inner.dropRemainder = false -> outer.dropRemainder = false -> whole.dropRemainder = false ->
      forall k : Nat,
        let w := cut es whole.size k
        let rest := es.length % whole.size
        (Pipeline.batch outer (.batch inner input)).answer ctx path calls k =
            (if k * whole.size < es.length then
              if k = es.length / whole.size ∧ inner.size < rest ∧ rest % inner.size ≠ 0 then
                .error (.error (.shapeMismatch 0
                  ⟨UInt64.ofNat inner.size :: kind.2.dims⟩ (rest / inner.size)
                  ⟨UInt64.ofNat (rest % inner.size) :: kind.2.dims⟩))
              else
                .ok (some (block
                  [UInt64.ofNat (batches w.length inner.size false),
                    UInt64.ofNat (min inner.size w.length)]
                  (kind :: f) w))
            else .ok none) ∧
          (Pipeline.batch whole input).answer ctx path' calls' k =
            if k * whole.size < es.length then
              .ok (some (block [UInt64.ofNat w.length] (kind :: f) w))
            else .ok none) := by
  have hinner := inner.size_pos
  have houter := outer.size_pos
  have hone := stage_answer_of_uniform hgrants hsize huniform
    (window_fits (Nat.le_refl _) hfit) hsingle
  have htwo (hdrop : outer.dropRemainder = inner.dropRemainder) :=
    nested_answer_of_uniform hgrants hdrop (hwhole ▸ hsize) huniform (hwhole ▸ hfit) hnested
  constructor
  · intro hinnerDrop houterDrop hwholeDrop k w
    rw [htwo (houterDrop.trans hinnerDrop.symm) k, hone k, hinnerDrop, hwholeDrop,
      List.getElem?_map, getElem?_windows]
    simp only [← hwhole, lt_batches_true_iff whole.size_pos]
    split
    · next hk =>
        have hfull : w.length = whole.size := by
          rw [length_cut]
          rw [Nat.succ_mul] at hk
          omega
        constructor
        · rw [batchesOutcome_of_full hinner houter (hfull.trans hwhole)]
          rfl
        · rw [Option.map_some, batchOf, hfull]
    · exact ⟨rfl, rfl⟩
  · intro hinnerKeep houterKeep hwholeKeep k w rest
    rw [htwo (houterKeep.trans hinnerKeep.symm) k, hone k, hinnerKeep, hwholeKeep,
      List.getElem?_map, getElem?_windows, ← hwhole]
    simp only [lt_batches_false_iff whole.size_pos]
    split
    · next hk =>
        refine ⟨?_, rfl⟩
        rw [batchesOutcome_of_cut hwhole whole.size_pos hk]
        split
        · rfl
        · rfl
    · exact ⟨rfl, rfl⟩

def Stage.fours : Stage := ⟨4, by decide, by decide, false, false, .v2⟩

def sevenIntegers : TensorSource where
  first := integers [] [0]
  rest := [1, 2, 3, 4, 5, 6].map fun n => integers [] [n]
  declared := none
  declared_ok := by
    intro shapes h
    cases h
  sized := true

open Segmentation Stacking in
theorem nested_batches_compose_of_seven_integers :
    Context.default.allocator.Grants 64 ∧
      Uniform [(.int64, Shape.scalar)] sevenIntegers.elements ∧
      (forall e : Element, e ∈ sevenIntegers.elements -> forall t : Tensor, t ∈ e ->
        2 * (min sevenIntegers.elements.length Stage.fours.size * t.data.length) ≤ 64) ∧
      (forall (path : String) (calls : Nat -> Usage),
        Gives ((Pipeline.tensors sevenIntegers).answer Context.default path calls)
          sevenIntegers.elements) ∧
      (let nested := Pipeline.batch Stage.pairs (.batch Stage.pairs (.tensors sevenIntegers))
        let answer := nested.answer Context.default "Iterator" fun _ => Usage.empty
        answer 0 = .ok (some (integers [2, 2] [0, 1, 2, 3])) ∧
          answer 1 = .error (.error (.shapeMismatch 0 ⟨[2]⟩ 1 ⟨[1]⟩)) ∧
          answer 2 = .ok none) ∧
      (let single := Pipeline.batch Stage.fours (.tensors sevenIntegers)
        let answer := single.answer Context.default "Iterator" fun _ => Usage.empty
        answer 0 = .ok (some (integers [4] [0, 1, 2, 3])) ∧
          answer 1 = .ok (some (integers [3] [4, 5, 6])) ∧
          answer 2 = .ok none) := by
  have hgrants : Context.default.allocator.Grants 64 := Allocator.heap_grants (by decide)
  have huniform : Uniform [(.int64, Shape.scalar)] sevenIntegers.elements := by
    constructor
    · decide
    · decide
  have hfit : forall e : Element, e ∈ sevenIntegers.elements -> forall t : Tensor, t ∈ e ->
      2 * (min sevenIntegers.elements.length Stage.fours.size * t.data.length) ≤ 64 := by
    decide
  have hgives (path : String) (calls : Nat -> Usage) :
      Gives ((Pipeline.tensors sevenIntegers).answer Context.default path calls)
        sevenIntegers.elements :=
    fun i _ => Pipeline.answer_tensors (by decide) _ _ _ i
  have hwhole : Stage.fours.size = Stage.pairs.size * Stage.pairs.size := rfl
  have hsize : Stage.fours.size ≤ Stage.windowLimit := by decide
  have hcompose := (nested_batches_compose hgrants hwhole hsize huniform hfit
    (.tensors sevenIntegers) "Iterator" "Iterator" (fun _ => Usage.empty) (fun _ => Usage.empty)
    (hgives _ _) (hgives _ _)).2 rfl rfl rfl
  rcases hcompose 0 with ⟨hnested₀, hsingle₀⟩
  rcases hcompose 1 with ⟨hnested₁, hsingle₁⟩
  rcases hcompose 2 with ⟨hnested₂, hsingle₂⟩
  refine ⟨hgrants, huniform, hfit, hgives, ?_, ?_⟩
  · exact ⟨hnested₀.trans rfl, hnested₁.trans rfl, hnested₂.trans rfl⟩
  · exact ⟨hsingle₀.trans rfl, hsingle₁.trans rfl, hsingle₂.trans rfl⟩

end TensorPipeline
