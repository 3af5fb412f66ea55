import TensorPipeline.Iterator
import TensorPipeline.Proofs.Delivery
import TensorPipeline.Proofs.Stacking.Placed
import TensorPipeline.Proofs.Values

/-!
# Tensors hold the bytes they ask for

Every way to come by a tensor gives one whose bytes are as many as its shape and its
type ask for.  Those that build a tensor check it or write the bytes themselves, and a
batch is as long as the buffer granted for it.  So it holds at every depth of a
pipeline, where it makes one check of a copy superfluous: in the windows that stages
stack, a tensor of the shape and the type of the first of its column fits its slot.
-/

namespace TensorPipeline

/-!
## Building tensors
-/

namespace Tensor

variable {d : DType} {s : Shape} {t : Tensor}

theorem wellFormed_of_ofBytes {data : List UInt8} (h : ofBytes d s data = .ok t) :
    t.WellFormed := by
  unfold ofBytes at h
  split at h
  · cases h
  · next expected hexpected =>
      split at h
      · next hlength =>
          cases h
          rw [WellFormed, hexpected, hlength]
          rfl
      · cases h

theorem wellFormed_of_ofValues
    {vs : List d.Value} (hfits : vs.length * d.width < 2 ^ 64) (h : ofValues d s vs = .ok t) :
    t.WellFormed := by
  rcases ofValues_eq_ok_iff.mp h with ⟨⟨hvolume, _⟩, rfl⟩
  exact wellFormed_of_ofBytes (ofBytes_flatMap_encode hvolume hfits)

theorem wellFormed_ofScalar (d : DType) (v : d.Value) : (ofScalar d v).WellFormed := by
  have hbytes : Shape.scalar.byteSize? d = some (UInt64.ofNat d.width) := by
    cases d <;> rfl
  have hwidth : (UInt64.ofNat d.width).toNat = d.width := by
    cases d <;> rfl
  rw [WellFormed, ofScalar, hbytes, d.length_encode]
  exact congrArg some hwidth

theorem wellFormed_of_allocate
    {ctx : Context} {usage : Usage} (h : (allocate ctx usage d s).1 = some t) :
    t.WellFormed := by
  unfold allocate Context.allocate at h
  split at h
  · cases h
  · next bytes hbytes =>
      rcases Option.map_eq_some_iff.mp h with ⟨buffer, hbuffer, rfl⟩
      rw [WellFormed, hbytes]
      exact congrArg some (ctx.allocator.exact_length hbuffer).symm

end Tensor

/-!
## Elements that are delivered
-/

def Pipeline.held : Pipeline -> List Tensor
  | range _ _ => []
  | tensors source => source.elements.flatten
  | counting _ input => input.held
  | faulty _ input => input.held
  | batch _ input => input.held

theorem inherited_wellFormed (ctx : Context) :
    Inherited ctx fun p e =>
      (forall t : Tensor, t ∈ p.held -> t.WellFormed) ->
        forall t : Tensor, t ∈ e -> t.WellFormed where
  range start stop value := by
    intro _ t ht
    rw [List.mem_singleton.mp ht]
    exact Tensor.wellFormed_ofScalar .int64 value
  tensors source e he := by
    intro hheld t ht
    exact hheld t (List.mem_flatten.mpr ⟨e, he, ht⟩)
  counting tally input e h := h
  faulty failAt input e h := h
  batch stage input usage window batch haccepts hwindow hstack := by
    intro _
    refine Stacking.stack_wellFormed ?_ hstack
    exact Nat.lt_of_le_of_lt haccepts.length_le (Nat.lt_trans stage.size_lt (by decide))

/-- The tensors that can be come by: built from bytes, from values or from one value,
allocated, or taken from an element that any iterator has delivered whose pipeline
starts from such tensors.  Values that are held in memory take fewer bytes than 64 bits
can count. -/
inductive Tensor.Obtainable : Tensor -> Prop where
  | ofBytes {d : DType} {s : Shape} {data : List UInt8} {t : Tensor} :
      Tensor.ofBytes d s data = .ok t -> Obtainable t
  | ofValues {d : DType} {s : Shape} {vs : List d.Value} {t : Tensor} :
      vs.length * d.width < 2 ^ 64 -> Tensor.ofValues d s vs = .ok t -> Obtainable t
  | ofScalar (d : DType) (v : d.Value) : Obtainable (Tensor.ofScalar d v)
  | allocate {ctx : Context} {usage : Usage} {d : DType} {s : Shape} {t : Tensor} :
      (Tensor.allocate ctx usage d s).1 = some t -> Obtainable t
  | delivered {ctx : Context} {it : Iterator} {usage : Usage} {e : Element} {t : Tensor} :
      (forall held : Tensor, held ∈ it.pipeline.held -> Obtainable held) ->
        (it.next ctx usage).1 = .ok (some e) -> t ∈ e -> Obtainable t

theorem Tensor.Obtainable.wellFormed {t : Tensor} (h : t.Obtainable) : t.WellFormed := by
  induction h with
  | ofBytes h => exact wellFormed_of_ofBytes h
  | ofValues hfits h => exact wellFormed_of_ofValues hfits h
  | ofScalar d v => exact wellFormed_ofScalar d v
  | allocate h => exact wellFormed_of_allocate h
  | delivered hheld hnext ht ih =>
      rename_i ctx it usage e t
      exact (inherited_wellFormed ctx).advance it.pipeline it.path usage it.cursor e hnext ih t ht

theorem Tensor.WellFormed.obtainable {t : Tensor} (h : t.WellFormed) : t.Obtainable := by
  rcases h.byteSize?_eq with ⟨bytes, hbytes, hlength⟩
  have haccepted : ofBytes t.dtype t.shape t.data = .ok t := by
    rw [ofBytes, hbytes]
    exact if_pos hlength.symm
  exact Obtainable.ofBytes haccepted

/-!
## Windows at every depth
-/

/-- A stage of the pipeline, at whatever depth, can pull this window: its input has
delivered the elements from wherever it stood. -/
inductive Pipeline.Stacks (ctx : Context) : Pipeline -> List Element -> Prop where
  | outer {stage : Stage} {input : Pipeline} {path : String} {usage : Usage}
      {cell : Guarded (Feed (Cursor input))} {window : List Element} :
      (stage.pull path (input.advance ctx (input.pathUnder path)) usage cell).1 = .ok window ->
      Stacks ctx (.batch stage input) window
  | inner (stage : Stage) {input : Pipeline} {window : List Element} :
      Stacks ctx input window -> Stacks ctx (.batch stage input) window
  | counting (tally : Nat) {input : Pipeline} {window : List Element} :
      Stacks ctx input window -> Stacks ctx (.counting tally input) window
  | faulty (failAt : UInt64) {input : Pipeline} {window : List Element} :
      Stacks ctx input window -> Stacks ctx (.faulty failAt input) window

theorem Pipeline.Stacks.wellFormed
    {ctx : Context} {p : Pipeline} {window : List Element} (h : p.Stacks ctx window)
    (hheld : forall t : Tensor, t ∈ p.held -> t.WellFormed) :
    window.length < 2 ^ 64 ∧
      forall e : Element, e ∈ window -> forall t : Tensor, t ∈ e -> t.WellFormed := by
  induction h with
  | outer hpull =>
      rename_i stage input path usage cell window
      have hdelivers := (inherited_wellFormed ctx).advance input (input.pathUnder path)
      rcases hp : stage.pull path (input.advance ctx (input.pathUnder path)) usage cell with
        ⟨result, cell', usage'⟩
      rw [hp] at hpull
      cases hpull
      rcases Stage.pull_delivers hdelivers hp with ⟨hwindow, hlength⟩
      constructor
      · exact Nat.lt_of_le_of_lt hlength (Nat.lt_trans stage.size_lt (by decide))
      · intro e he
        exact hwindow e he hheld
  | inner stage _ ih => exact ih hheld
  | counting tally _ ih => exact ih hheld
  | faulty failAt _ ih => exact ih hheld

/-!
## Failures of a pull
-/

theorem Stage.pull_error_cases
    {γ : Type} {advance : Usage -> γ -> Step γ} {s : Stage} {path : String} {usage : Usage}
    {cell : Guarded (Feed γ)} {f : Failure}
    (h : (s.pull path advance usage cell).1 = .error f) :
    f = .error (.stagePoisoned path) ∨ f = .crash .capacityOverflow ∨
      exists (usage' : Usage) (cursor : γ), (advance usage' cursor).result = .error f := by
  unfold pull at h
  split at h
  · cases h
    exact Or.inl rfl
  · split at h
    · cases h
    · next cursor _ =>
        split at h
        · cases h
          exact Or.inr (Or.inl rfl)
        · rcases hp : pullWindow advance s.size [] usage cursor with ⟨pulled, cursor', usage'⟩
          rw [hp] at h
          cases pulled with
          | full window => cases h
          | ended window => cases h
          | failed f' =>
              cases h
              exact Or.inr (Or.inr (exists_of_pullWindow_failed (congrArg Prod.fst hp)))

theorem Pipeline.advance_not_slotSize
    {ctx : Context} (p : Pipeline) (hheld : forall t : Tensor, t ∈ p.held -> t.WellFormed)
    (path : String) (usage : Usage) (cursor : Cursor p) (index component actual slot : Nat) :
    (p.advance ctx path usage cursor).result ≠
      .error (.error (.tensor (.slotSize index component actual slot))) := by
  induction p generalizing path usage with
  | range start stop =>
      intro h
      replace h : (advanceRange stop path usage cursor).result = _ := h
      unfold advanceRange at h
      split at h
      · cases h
      · split at h
        · cases h
        · split at h
          · cases h
          · cases h
  | tensors source =>
      intro h
      replace h : (advanceTensors source usage cursor).result = _ := h
      unfold advanceTensors at h
      split at h
      · cases h
      · cases h
  | counting tally input ih => exact ih hheld path (usage.bump tally) cursor
  | faulty failAt input ih =>
      rcases cursor with ⟨pulls, cursor⟩
      rw [advance_faulty]
      split
      · intro h
        cases h
      · exact ih hheld path usage cursor
  | batch stage input ih =>
      intro h
      rcases cursor with ⟨feed, poisoned⟩
      rcases hpull : stage.pull path (input.advance ctx (input.pathUnder path)) usage
        ⟨feed, poisoned⟩ with ⟨result, cell, usage'⟩
      rw [advance_batch, hpull] at h
      cases result with
      | error f =>
          cases h
          rcases Stage.pull_error_cases (congrArg Prod.fst hpull) with
            hpoisoned | hlarge | ⟨usage'', cursor', hinput⟩
          · cases hpoisoned
          · cases hlarge
          · exact ih hheld _ usage'' cursor' hinput
      | ok window =>
          have hwindow := (Stacks.outer (congrArg Prod.fst hpull)).wellFormed hheld
          exact Stacking.stack_not_slotSize hwindow.1 hwindow.2 index component actual slot
            (Stage.stack_of_deliver_error h)

/-- The tensors that can be come by are those whose bytes are as many as their shape and
their type ask for.  In every window that a stage of a pipeline stacks, at whatever depth
and in whatever order copies run, each tensor has a slot, and one of the shape and the
type of the first of its column is as long as its slot, so that its copy succeeds; and no
pull ever fails because a tensor does not fit. -/
theorem tensors_hold_their_bytes :
    (forall t : Tensor, t.Obtainable <-> t.WellFormed) ∧
      forall (ctx : Context) (p : Pipeline),
        (forall t : Tensor, t ∈ p.held -> t.Obtainable) ->
        (forall (window : List Element) (component : Nat) (first : Tensor)
            (rest : List Tensor) (placement : Placement),
          p.Stacks ctx window -> Stacking.column window component = first :: rest ->
          Stacking.Placed ctx (first :: rest) placement ->
          placement.map Prod.fst = first :: rest ∧
            forall (index : Nat) (t : Tensor) (slot : List UInt8),
              (t, slot) ∈ placement -> t.shape = first.shape -> t.dtype = first.dtype ->
              t.data.length = slot.length ∧
                copyToSlot component first.dtype index t slot = .ok t.data) ∧
          forall (path : String) (usage : Usage) (cursor : Cursor p)
            (index component actual slot : Nat),
            (p.advance ctx path usage cursor).result ≠
              .error (.error (.tensor (.slotSize index component actual slot))) := by
  refine ⟨fun t => ⟨fun h => h.wellFormed, fun h => h.obtainable⟩, ?_⟩
  intro ctx p hobtained
  have hheld (t : Tensor) (ht : t ∈ p.held) : t.WellFormed := (hobtained t ht).wellFormed
  constructor
  · intro window component first rest placement hstacks hcolumn hplaced
    rcases hstacks.wellFormed hheld with ⟨hcount, hwf⟩
    have hlong : (first :: rest).length < 2 ^ 64 := by
      rw [← hcolumn]
      exact Nat.lt_of_le_of_lt (List.length_filterMap_le _ _) hcount
    have hwf' (t : Tensor) (ht : t ∈ first :: rest) : t.WellFormed := by
      rw [← hcolumn] at ht
      exact Stacking.wellFormed_of_mem_column hwf ht
    refine ⟨(hplaced.slots hlong).1, ?_⟩
    intro index t slot hmem hshape hdtype
    have hlength := hplaced.fits hlong hwf' hmem hshape hdtype
    exact ⟨hlength, Stacking.copyToSlot_of_fits hdtype hlength component index⟩
  · exact p.advance_not_slotSize hheld

def nothingAndByte (b : UInt8) : Element := [⟨.int64, ⟨[0]⟩, []⟩, ⟨.uint8, ⟨[]⟩, [b]⟩]

def fourOfNothingAndByte : TensorSource where
  first := nothingAndByte 1
  rest := [nothingAndByte 2, nothingAndByte 3, nothingAndByte 4]
  declared := none
  declared_ok _ h := nomatch h
  sized := true

def pairsOfNothingAndByte : Pipeline :=
  .batch { Stage.pairs with parallelCopy := true }
    (.batch Stage.pairs (.tensors fourOfNothingAndByte))

def twoBytes (a b : UInt8) : Tensor := ⟨.uint8, ⟨[2]⟩, [a, b]⟩

def innerPairs : List Element :=
  [[⟨.int64, ⟨[2, 0]⟩, []⟩, twoBytes 1 2], [⟨.int64, ⟨[2, 0]⟩, []⟩, twoBytes 3 4]]

def pairOfPairs : Element := [⟨.int64, ⟨[2, 2, 0]⟩, []⟩, ⟨.uint8, ⟨[2, 2]⟩, [1, 2, 3, 4]⟩]

theorem tensors_hold_their_bytes_in_pairs_of_pairs :
    (forall t : Tensor, t ∈ pairsOfNothingAndByte.held -> t.Obtainable) ∧
      (pairsOfNothingAndByte.advance Stacking.backwards "Iterator::BatchV2" Usage.empty
        pairsOfNothingAndByte.start).result = .ok (some pairOfPairs) ∧
      (forall t : Tensor, t ∈ pairOfPairs -> t.Obtainable ∧ t.WellFormed) ∧
      pairsOfNothingAndByte.Stacks Stacking.backwards innerPairs ∧
      Stacking.column innerPairs 1 = [twoBytes 1 2, twoBytes 3 4] ∧
      Stacking.Placed Stacking.backwards [twoBytes 1 2, twoBytes 3 4]
        [(twoBytes 1 2, [0, 0]), (twoBytes 3 4, [0, 0])] ∧
      copyToSlot 1 .uint8 1 (twoBytes 3 4) [0, 0] = .ok [3, 4] := by
  rcases tensors_hold_their_bytes with ⟨hiff, hpipeline⟩
  have hheld : forall t : Tensor, t ∈ pairsOfNothingAndByte.held -> t.WellFormed := by
    show forall t : Tensor, t ∈ fourOfNothingAndByte.elements.flatten -> t.WellFormed
    decide
  have hobtained (t : Tensor) (ht : t ∈ pairsOfNothingAndByte.held) : t.Obtainable :=
    (hiff t).mpr (hheld t ht)
  let it : Iterator :=
    { pipeline := pairsOfNothingAndByte
      path := "Iterator::BatchV2"
      cursor := pairsOfNothingAndByte.start }
  have hnext : (it.next Stacking.backwards Usage.empty).1 = .ok (some pairOfPairs) := by
    with_unfolding_all rfl
  have hdelivered (t : Tensor) (ht : t ∈ pairOfPairs) : t.Obtainable :=
    Tensor.Obtainable.delivered hobtained hnext ht
  have hpull : (Stage.pull { Stage.pairs with parallelCopy := true } "Iterator::BatchV2"
      ((Pipeline.batch Stage.pairs (.tensors fourOfNothingAndByte)).advance Stacking.backwards
        "Iterator::BatchV2::BatchV2") Usage.empty pairsOfNothingAndByte.start).1 =
        .ok innerPairs := by
    with_unfolding_all rfl
  have hstacks : pairsOfNothingAndByte.Stacks Stacking.backwards innerPairs :=
    Pipeline.Stacks.outer hpull
  have hcolumn : Stacking.column innerPairs 1 = [twoBytes 1 2, twoBytes 3 4] := rfl
  have hbytes : ((twoBytes 1 2).shape.stacked
      (UInt64.ofNat [twoBytes 1 2, twoBytes 3 4].length)).byteSize? (twoBytes 1 2).dtype =
        some 4 := by
    decide
  have hwidth : (twoBytes 1 2).shape.byteSize? (twoBytes 1 2).dtype = some 2 := by decide
  have hgranted : Stacking.backwards.allocator.serve [] 4 = some [0, 0, 0, 0] := by decide
  have hcut : slotsOf [twoBytes 1 2, twoBytes 3 4].length (2 : UInt64).toNat [0, 0, 0, 0] =
      .ok [[0, 0], [0, 0]] := by
    with_unfolding_all rfl
  have hplaced := Stacking.Placed.intro hbytes hwidth hgranted hcut
  rcases hpipeline Stacking.backwards pairsOfNothingAndByte hobtained with ⟨hcopies, _⟩
  have hcopy := (hcopies innerPairs 1 _ _ _ hstacks hcolumn hplaced).2 1 (twoBytes 3 4) [0, 0]
    (List.mem_cons_of_mem _ List.mem_cons_self) rfl rfl
  exact ⟨hobtained, hnext, fun t ht => ⟨hdelivered t ht, (hiff t).mp (hdelivered t ht)⟩,
    hstacks, hcolumn, hplaced, hcopy.2⟩

end TensorPipeline
