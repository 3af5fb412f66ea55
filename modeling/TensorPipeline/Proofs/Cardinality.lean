import TensorPipeline.Iterator
import TensorPipeline.Proofs.Counting
import TensorPipeline.Proofs.Resumption

/-!
# What a pipeline counts and what it delivers

The cardinality of a pipeline is computed in 64 bits from its definition, layer by
layer.  Beside it stands the number of elements without any bound.  The two agree,
as no layer counts beyond the elements of its input, and calls that meet no failure
deliver just that many elements before they answer with the end.  A pipeline over a
range without an end never answers so, whatever its calls come to.
-/

namespace TensorPipeline

/-!
## Counting in 64 bits
-/

theorem Cardinality.toNat_batchCount
    (n : UInt64) (s : Stage) :
    (batchCount n (UInt64.ofNat s.size) s.dropRemainder).toNat =
      batches n.toNat s.size s.dropRemainder := by
  have hsize : (UInt64.ofNat s.size).toNat = s.size :=
    UInt64.toNat_ofNat_of_lt' (Nat.lt_trans s.size_lt (by decide))
  have hcount := batches_le s.size_pos n.toNat s.dropRemainder
  have hrest : (n % UInt64.ofNat s.size != 0 && !s.dropRemainder) = true <->
      n.toNat % s.size ≠ 0 ∧ s.dropRemainder = false := by
    rw [Bool.and_eq_true, bne_iff_ne, Bool.not_eq_true', ne_eq, ← UInt64.toNat_inj,
      UInt64.toNat_mod, hsize]
    rfl
  unfold batchCount
  unfold batches at hcount ⊢
  rw [UInt64.toNat_add, UInt64.toNat_div, hsize]
  by_cases h : n.toNat % s.size ≠ 0 ∧ s.dropRemainder = false
  · rw [if_pos h] at hcount ⊢
    rw [if_pos (hrest.mpr h)]
    exact Nat.mod_eq_of_lt (Nat.lt_of_le_of_lt hcount n.toNat_lt)
  · rw [if_neg h] at hcount ⊢
    rw [if_neg fun hrest' => h (hrest.mp hrest')]
    exact Nat.mod_eq_of_lt (Nat.lt_of_le_of_lt hcount n.toNat_lt)

namespace Pipeline

/-- The number of elements, of which there is none if they never end. -/
def extent : Pipeline -> Option Nat
  | range start (some stop) => some (stop.toInt - start.toInt).toNat
  | range _ none => none
  | tensors source => some source.elements.length
  | counting _ input => input.extent
  | faulty _ input => input.extent
  | batch stage input => input.extent.map fun n => batches n stage.size stage.dropRemainder

def leaf : Pipeline -> Pipeline
  | counting _ input => input.leaf
  | faulty _ input => input.leaf
  | batch _ input => input.leaf
  | source => source

theorem extent_of_finite
    {p : Pipeline} (haddr : p.Addressable) {n : UInt64} (h : p.cardinality = .finite n) :
    p.extent = some n.toNat := by
  induction p generalizing n with
  | range start stop =>
      cases stop with
      | none => cases h
      | some stop =>
          cases h
          have hlow := start.le_toInt
          have hhigh := stop.toInt_lt
          have hspan : (stop.toInt - start.toInt).toNat < 2 ^ 64 := by omega
          exact congrArg some (UInt64.toNat_ofNat_of_lt' hspan).symm
  | tensors source =>
      rw [cardinality, TensorSource.cardinality] at h
      split at h
      · cases h
        exact congrArg some
          (UInt64.toNat_ofNat_of_lt' (Nat.lt_trans haddr (by decide))).symm
      · cases h
  | counting tally input ih => exact ih haddr h
  | faulty failAt input ih => exact ih haddr h
  | batch stage input ih =>
      rw [cardinality] at h
      cases hinput : input.cardinality with
      | finite m =>
          rw [hinput] at h
          cases h
          rw [extent, ih haddr hinput, Cardinality.toNat_batchCount]
          rfl
      | infinite =>
          rw [hinput] at h
          cases h
      | unknown =>
          rw [hinput] at h
          cases h

theorem extent_of_infinite {p : Pipeline} (h : p.cardinality = .infinite) : p.extent = none := by
  induction p with
  | range start stop =>
      cases stop with
      | none => rfl
      | some stop => cases h
  | tensors source =>
      rw [cardinality, TensorSource.cardinality] at h
      split at h
      · cases h
      · cases h
  | counting tally input ih => exact ih h
  | faulty failAt input ih => exact ih h
  | batch stage input ih =>
      rw [cardinality] at h
      cases hinput : input.cardinality with
      | finite m =>
          rw [hinput] at h
          cases h
      | infinite =>
          rw [extent, ih hinput]
          rfl
      | unknown =>
          rw [hinput] at h
          cases h

theorem cardinality_eq_unknown_iff (p : Pipeline) :
    p.cardinality = .unknown <-> p.leaf.cardinality = .unknown := by
  induction p with
  | range start stop => rfl
  | tensors source => rfl
  | counting tally input ih => exact ih
  | faulty failAt input ih => exact ih
  | batch stage input ih =>
      rw [leaf, ← ih, cardinality]
      cases input.cardinality with
      | finite m => exact ⟨fun h => Cardinality.noConfusion h, fun h => Cardinality.noConfusion h⟩
      | infinite => exact Iff.rfl
      | unknown => exact Iff.rfl

theorem extent_le_remaining {p : Pipeline} {m : Nat} (h : p.extent = some m) :
    m ≤ p.remaining p.start := by
  induction p generalizing m with
  | range start stop =>
      cases stop with
      | none => cases h
      | some stop =>
          cases h
          exact Nat.le_refl _
  | tensors source =>
      cases h
      exact Nat.le_refl _
  | counting tally input ih => exact ih h
  | faulty failAt input ih => exact ih h
  | batch stage input ih =>
      rcases Option.map_eq_some_iff.mp h with ⟨n, hn, rfl⟩
      exact Nat.le_trans (batches_le stage.size_pos n stage.dropRemainder) (ih hn)

end Pipeline

/-!
## Sources
-/

namespace Pipeline

variable {ctx : Context} {path : String} {calls : Nat -> Usage}

theorem advanceRange_of_lt
    {stop c : Int64} (h : c.toInt < stop.toInt) (usage : Usage) :
    advanceRange (some stop) path usage (Guarded.ofContent c) =
      ⟨.ok (some [Tensor.ofScalar .int64 c]), Guarded.ofContent (c + 1), usage⟩ := by
  have hopen : ¬ stop ≤ c := by
    rw [Int64.le_iff_toInt_le]
    omega
  have hmax : c ≠ Int64.maxValue := by
    rintro rfl
    have hstop := stop.toInt_lt
    have hvalue : Int64.maxValue.toInt = 2 ^ 63 - 1 := by decide
    omega
  simp [advanceRange, Guarded.ofContent, hopen, hmax]

theorem advanceRange_of_ge
    {stop c : Int64} (h : stop.toInt ≤ c.toInt) (usage : Usage) :
    advanceRange (some stop) path usage (Guarded.ofContent c) =
      ⟨.ok none, Guarded.ofContent c, usage⟩ := by
  simp [advanceRange, Guarded.ofContent, Int64.le_iff_toInt_le, h]

theorem toInt_succ {stop c : Int64} (h : c.toInt < stop.toInt) :
    (c + 1).toInt = c.toInt + 1 := by
  have hlow := c.le_toInt
  have hstop := stop.toInt_lt
  rw [Int64.toInt_add]
  show (c.toInt + 1).bmod (2 ^ 64) = c.toInt + 1
  exact Int.bmod_eq_of_le (by omega) (by omega)

theorem cursorAfter_range
    (start stop : Int64) (ctx : Context) (path : String) (calls : Nat -> Usage) (k : Nat) :
    exists c : Int64,
      (range start (some stop)).cursorAfter ctx path calls k = Guarded.ofContent c ∧
        (k ≤ (stop.toInt - start.toInt).toNat -> c.toInt = start.toInt + k) ∧
        ((stop.toInt - start.toInt).toNat < k -> stop.toInt ≤ c.toInt) := by
  induction k with
  | zero =>
      refine ⟨start, rfl, fun _ => (Int.add_zero _).symm, ?_⟩
      intro h
      exact absurd h (Nat.not_lt_zero _)
  | succ k ih =>
      rcases ih with ⟨c, hcursor, hbefore, hafter⟩
      rw [cursorAfter_succ, reply_eq, hcursor]
      show exists c' : Int64, (advanceRange (some stop) path (calls k)
        (Guarded.ofContent c)).cursor = _ ∧ _
      by_cases hlt : c.toInt < stop.toInt
      · rw [advanceRange_of_lt hlt]
        refine ⟨c + 1, rfl, ?_, ?_⟩
        · intro hk
          have hc := hbefore (Nat.le_of_succ_le hk)
          rw [toInt_succ hlt]
          omega
        · intro hk
          rw [toInt_succ hlt]
          rcases Nat.lt_or_eq_of_le (Nat.le_of_lt_succ hk) with hk | rfl
          · exact Int.le_trans (hafter hk) (Int.le_of_lt (Int.lt_succ c.toInt))
          · have hc := hbefore (Nat.le_refl _)
            omega
      · rw [advanceRange_of_ge (Int.not_lt.mp hlt)]
        refine ⟨c, rfl, ?_, fun _ => Int.not_lt.mp hlt⟩
        intro hk
        have hc := hbefore (Nat.le_of_succ_le hk)
        omega

theorem answer_range_eq_none_iff
    (start stop : Int64) (ctx : Context) (path : String) (calls : Nat -> Usage) (k : Nat) :
    (range start (some stop)).answer ctx path calls k = .ok none <->
      (stop.toInt - start.toInt).toNat ≤ k := by
  rcases cursorAfter_range start stop ctx path calls k with ⟨c, hcursor, hbefore, hafter⟩
  rw [answer, reply_eq, hcursor]
  show (advanceRange (some stop) path (calls k) (Guarded.ofContent c)).result = _ <-> _
  rcases Nat.lt_or_ge k (stop.toInt - start.toInt).toNat with hk | hk
  · have hc := hbefore (Nat.le_of_lt hk)
    rw [advanceRange_of_lt (by omega)]
    constructor
    · intro h
      cases h
    · intro h
      exact absurd h (Nat.not_le.mpr hk)
  · have hc : stop.toInt ≤ c.toInt := by
      rcases Nat.lt_or_eq_of_le hk with hk | rfl
      · exact hafter hk
      · have hc := hbefore (Nat.le_refl _)
        omega
    rw [advanceRange_of_ge hc]
    exact ⟨fun _ => hk, fun _ => rfl⟩

theorem cursorAfter_tensors
    {source : TensorSource} (haddr : source.elements.length < 2 ^ 63) (ctx : Context)
    (path : String) (calls : Nat -> Usage) (k : Nat) :
    exists next : UInt64,
      (tensors source).cursorAfter ctx path calls k = next ∧
        next.toNat = min k source.elements.length := by
  induction k with
  | zero => exact ⟨0, rfl, (Nat.zero_min _).symm⟩
  | succ k ih =>
      rcases ih with ⟨next, hcursor, hnext⟩
      rw [cursorAfter_succ, reply_eq, hcursor]
      show exists next' : UInt64, (advanceTensors source (calls k) next).cursor = _ ∧ _
      unfold advanceTensors
      split
      · next e he =>
          have hlt := (List.getElem?_eq_some_iff.mp he).1
          refine ⟨next + 1, rfl, ?_⟩
          have hsucc := toNat_succ_of_getElem? haddr he
          omega
      · next he =>
          have hge := List.getElem?_eq_none_iff.mp he
          exact ⟨next, rfl, by omega⟩

theorem answer_tensors
    {source : TensorSource} (haddr : source.elements.length < 2 ^ 63) (ctx : Context)
    (path : String) (calls : Nat -> Usage) (k : Nat) :
    (tensors source).answer ctx path calls k = .ok source.elements[k]? := by
  rcases cursorAfter_tensors haddr ctx path calls k with ⟨next, hcursor, hnext⟩
  rw [answer, reply_eq, hcursor]
  show (advanceTensors source (calls k) next).result = _
  have hsame : source.elements[next.toNat]? = source.elements[k]? := by
    rcases Nat.le_total k source.elements.length with hk | hk
    · rw [hnext, Nat.min_eq_left hk]
    · rw [hnext, Nat.min_eq_right hk, List.getElem?_eq_none (Nat.le_refl _),
        List.getElem?_eq_none hk]
  rw [← hsame]
  unfold advanceTensors
  split
  · next e he => rw [he]
  · next he => rw [he]

end Pipeline

/-!
## Layers
-/

namespace Pipeline

variable {ctx : Context} {path : String} {calls : Nat -> Usage}

theorem cursorAfter_counting (tally : Nat) (input : Pipeline) (n : Nat) :
    (counting tally input).cursorAfter ctx path calls n =
      input.cursorAfter ctx path (fun i => (calls i).bump tally) n := by
  induction n with
  | zero => rfl
  | succ n ih =>
      rw [cursorAfter_succ, cursorAfter_succ, reply_eq, reply_eq, ih]
      rfl

theorem answer_counting (tally : Nat) (input : Pipeline) (n : Nat) :
    (counting tally input).answer ctx path calls n =
      input.answer ctx path (fun i => (calls i).bump tally) n := by
  rw [answer, answer, reply_eq, reply_eq, cursorAfter_counting]
  rfl

theorem advance_faulty_of_ne
    {failAt : UInt64} {input : Pipeline} {usage : Usage} {cursor : FaultyCursor (Cursor input)}
    (h : forall f : Failure,
      ((faulty failAt input).advance ctx path usage cursor).result ≠ .error f) :
    (faulty failAt input).advance ctx path usage cursor =
      ⟨(input.advance ctx path usage cursor.input).result,
        ⟨cursor.pulls + 1, (input.advance ctx path usage cursor.input).cursor⟩,
        (input.advance ctx path usage cursor.input).usage⟩ := by
  rw [advance_faulty] at h ⊢
  split at h
  · exact absurd rfl (h _)
  · next hpulls => rw [if_neg hpulls]

theorem cursorAfter_faulty
    {failAt : UInt64} {input : Pipeline} {n : Nat}
    (hanswers : forall i : Nat, i < n -> forall f : Failure,
      (faulty failAt input).answer ctx path calls i ≠ .error f) :
    ((faulty failAt input).cursorAfter ctx path calls n).input =
      input.cursorAfter ctx path calls n := by
  induction n with
  | zero => rfl
  | succ n ih =>
      have hinput := ih fun i hi => hanswers i (Nat.lt_succ_of_lt hi)
      have hstep := advance_faulty_of_ne (hanswers n (Nat.lt_succ_self n))
      rw [cursorAfter_succ, cursorAfter_succ, reply_eq, reply_eq, ← hinput]
      exact congrArg (fun step => step.cursor.input) hstep

theorem answer_faulty
    {failAt : UInt64} {input : Pipeline} {n : Nat}
    (hanswers : forall i : Nat, i ≤ n -> forall f : Failure,
      (faulty failAt input).answer ctx path calls i ≠ .error f) :
    (faulty failAt input).answer ctx path calls n = input.answer ctx path calls n := by
  have hinput := cursorAfter_faulty fun i hi => hanswers i (Nat.le_of_lt hi)
  have hstep := advance_faulty_of_ne (hanswers n (Nat.le_refl n))
  rw [answer, answer, reply_eq, reply_eq, ← hinput]
  exact congrArg Step.result hstep

/-- Calls that meet no failure deliver as many elements as there are, and then
answer with the end. -/
theorem answer_eq_none_iff
    {p : Pipeline} (haddr : p.Addressable) {m : Nat} (hextent : p.extent = some m) {k : Nat}
    (hanswers : forall i : Nat, i ≤ k -> forall f : Failure,
      p.answer ctx path calls i ≠ .error f) :
    p.answer ctx path calls k = .ok none <-> m ≤ k := by
  induction p generalizing path calls m k with
  | range start stop =>
      cases stop with
      | none => cases hextent
      | some stop =>
          cases hextent
          exact answer_range_eq_none_iff start stop ctx path calls k
  | tensors source =>
      cases hextent
      rw [answer_tensors haddr, Except.ok.injEq, List.getElem?_eq_none_iff]
  | counting tally input ih =>
      rw [answer_counting]
      apply ih haddr hextent
      intro i hi f
      rw [← answer_counting]
      exact hanswers i hi f
  | faulty failAt input ih =>
      rw [answer_faulty hanswers]
      apply ih haddr hextent
      intro i hi f
      rw [← answer_faulty fun j hj => hanswers j (Nat.le_trans hj hi)]
      exact hanswers i hi f
  | batch stage input ih =>
      rcases Option.map_eq_some_iff.mp hextent with ⟨n, hn, rfl⟩
      by_cases hsize : stage.size ≤ Stage.windowLimit
      · apply Segmentation.stage_answer_eq_none_iff hsize
        intro i hi
        have hquiet (j : Nat) (hj : j ≤ i) (f : Failure) :=
          Segmentation.not_error_of_answers hsize
            (fun k' hk' => hanswers k' (Nat.le_of_lt_succ hk')) (Nat.lt_of_le_of_lt hj hi) f
        have hend := ih haddr hn hquiet
        constructor
        · intro hlt
          cases hscript : input.answer ctx (input.pathUnder path)
            (Segmentation.inputPulls ctx stage input path calls) i with
          | error f => exact absurd hscript (hquiet i (Nat.le_refl i) f)
          | ok answer =>
              cases answer with
              | none => exact absurd (hend.mp hscript) (Nat.not_le.mpr hlt)
              | some e => exact ⟨e, hscript⟩
        · intro heq
          exact hend.mpr (Nat.le_of_eq heq.symm)
      · have hcell : (batch stage input).cursorAfter ctx path calls 0 =
            Guarded.ofContent (.active input.start) :=
          rfl
        have hcrash : (batch stage input).answer ctx path calls 0 =
            .error (.crash .capacityOverflow) := by
          rw [answer, reply_eq, hcell, advance_batch,
            Stage.pull_of_large (Nat.lt_of_not_le hsize)]
        exact absurd hcrash (hanswers 0 (Nat.zero_le k) _)

end Pipeline

/-!
## Pipelines without an end
-/

def GoesOn {γ : Type} (property : γ -> Prop) (advance : Usage -> γ -> Step γ) : Prop :=
  forall (usage : Usage) (cursor : γ), property cursor ->
    (advance usage cursor).result ≠ .ok none ∧ property (advance usage cursor).cursor

theorem pullWindow_goesOn
    {γ : Type} {property : γ -> Prop} {advance : Usage -> γ -> Step γ}
    (hgoes : GoesOn property advance) (room : Nat) (taken : List Element) (usage : Usage)
    {cursor : γ} (hcursor : property cursor) :
    property (pullWindow advance room taken usage cursor).2.1 ∧
      ((exists f : Failure, (pullWindow advance room taken usage cursor).1 = .failed f) ∨
        exists window : List Element,
          (pullWindow advance room taken usage cursor).1 = .full window ∧
            window.length = taken.length + room) := by
  induction room generalizing taken usage cursor with
  | zero => exact ⟨hcursor, Or.inr ⟨taken.reverse, rfl, List.length_reverse⟩⟩
  | succ room ih =>
      rcases hgoes usage cursor hcursor with ⟨hresult, hnext⟩
      unfold pullWindow
      rcases hs : advance usage cursor with ⟨result, cursor', usage'⟩
      rw [hs] at hresult hnext
      cases result with
      | error f => exact ⟨hnext, Or.inl ⟨f, rfl⟩⟩
      | ok answer =>
          cases answer with
          | none => exact absurd rfl hresult
          | some e =>
              have hrest := ih (e :: taken) usage' hnext
              rw [List.length_cons, Nat.add_assoc, Nat.add_comm 1] at hrest
              exact hrest

namespace Pipeline

def Undrained : (p : Pipeline) -> Cursor p -> Prop
  | range _ _, _ => True
  | tensors _, _ => True
  | counting _ input, cursor => input.Undrained cursor
  | faulty _ input, cursor => input.Undrained cursor.input
  | batch _ input, cell =>
      exists cursor : Cursor input, cell.content = .active cursor ∧ input.Undrained cursor

theorem undrained_start (p : Pipeline) : p.Undrained p.start := by
  induction p with
  | range start stop => trivial
  | tensors source => trivial
  | counting tally input ih => exact ih
  | faulty failAt input ih => exact ih
  | batch stage input ih => exact ⟨input.start, rfl, ih⟩

theorem advanceRange_goesOn (path : String) (usage : Usage) (cell : Guarded Int64) :
    (advanceRange none path usage cell).result ≠ .ok none := by
  unfold advanceRange
  split
  · intro h
    cases h
  · split
    · next h => cases h
    · split
      · intro h
        cases h
      · intro h
        cases h

theorem advance_goesOn
    {p : Pipeline} (hextent : p.extent = none) (ctx : Context) (path : String) :
    GoesOn p.Undrained (p.advance ctx path) := by
  induction p generalizing path with
  | range start stop =>
      cases stop with
      | none =>
          intro usage cell _
          exact ⟨advanceRange_goesOn path usage cell, trivial⟩
      | some stop => cases hextent
  | tensors source => cases hextent
  | counting tally input ih =>
      intro usage cursor hcursor
      exact ih hextent path _ cursor hcursor
  | faulty failAt input ih =>
      intro usage cursor hcursor
      rcases cursor with ⟨pulls, cursor⟩
      rw [advance_faulty]
      split
      · constructor
        · intro h
          cases h
        · exact hcursor
      · exact ih hextent path usage cursor hcursor
  | batch stage input ih =>
      intro usage cell hcell
      have hinput : input.extent = none := Option.map_eq_none_iff.mp hextent
      rcases cell with ⟨feed, poisoned⟩
      rcases hcell with ⟨cursor, rfl, hcursor⟩
      cases poisoned with
      | true =>
          constructor
          · intro h
            cases h
          · exact ⟨cursor, rfl, hcursor⟩
      | false =>
          show Step.result ((batch stage input).advance ctx path usage
              (Guarded.ofContent (.active cursor))) ≠ _ ∧
            Undrained (batch stage input) (Step.cursor ((batch stage input).advance ctx path
              usage (Guarded.ofContent (.active cursor))))
          rw [advance_batch]
          by_cases hsize : stage.size ≤ Stage.windowLimit
          · have hwindow := pullWindow_goesOn (ih hinput (input.pathUnder path)) stage.size []
              usage hcursor
            rw [Stage.pull_of_active hsize]
            rcases hp : pullWindow (input.advance ctx (input.pathUnder path)) stage.size [] usage
              cursor with ⟨pulled, cursor', usage'⟩
            rw [hp] at hwindow
            rcases hwindow with ⟨hnext, ⟨f, rfl⟩ | ⟨window, rfl, hlength⟩⟩
            · constructor
              · intro h
                cases h
              · exact ⟨cursor', rfl, hnext⟩
            · rw [List.length_nil, Nat.zero_add] at hlength
              refine ⟨?_, cursor', rfl, hnext⟩
              show (stage.deliver ctx usage' window).1 ≠ .ok none
              rw [Stage.deliver_of_full hlength]
              exact map_some_ne_none _
          · rw [Stage.pull_of_large (Nat.lt_of_not_le hsize)]
            constructor
            · intro h
              cases h
            · exact ⟨cursor, rfl, hcursor⟩

theorem undrained_cursorAfter
    {p : Pipeline} (hextent : p.extent = none) (ctx : Context) (path : String)
    (calls : Nat -> Usage) (n : Nat) : p.Undrained (p.cursorAfter ctx path calls n) := by
  induction n with
  | zero => exact p.undrained_start
  | succ n ih => exact (advance_goesOn hextent ctx path (calls n) _ ih).2

theorem answer_ne_none
    {p : Pipeline} (hextent : p.extent = none) (ctx : Context) (path : String)
    (calls : Nat -> Usage) (n : Nat) : p.answer ctx path calls n ≠ .ok none :=
  (advance_goesOn hextent ctx path (calls n) _
    (undrained_cursorAfter hextent ctx path calls n)).1

end Pipeline

/-!
## Draining
-/

theorem reply_cons
    {γ : Type} (advance : Usage -> γ -> Step γ) (start : γ) (usage : Nat -> Usage) (n : Nat) :
    reply advance start usage (n + 1) =
      reply advance (advance (usage 0) start).cursor (fun i => usage (i + 1)) n := by
  have hcursor := cursorAfter_add advance start usage 1 n
  simp only [Nat.add_comm 1] at hcursor
  rw [reply, hcursor]
  rfl

theorem Iterator.collect_eq_ok
    {ctx : Context} {p : Pipeline} {path : String} {limit : Nat} {taken es : List Element}
    {cursor : Cursor p} {usage : Usage}
    (h : (collect ctx limit taken ⟨p, path, cursor⟩ usage).1 = .ok es) :
    exists (calls : Nat -> Usage) (n : Nat),
      es.length = taken.length + n ∧
        (forall i : Nat, i < n -> exists e : Element,
          (reply (p.advance ctx path) cursor calls i).result = .ok (some e)) ∧
        (n = limit ∨
          n < limit ∧ (reply (p.advance ctx path) cursor calls n).result = .ok none) := by
  induction limit generalizing taken cursor usage with
  | zero =>
      cases h
      refine ⟨fun _ => usage, 0, List.length_reverse, ?_, Or.inl rfl⟩
      intro i hi
      exact absurd hi (Nat.not_lt_zero i)
  | succ limit ih =>
      unfold collect next at h
      rcases hs : p.advance ctx path usage cursor with ⟨result, cursor', usage'⟩
      rw [hs] at h
      cases result with
      | error f => cases h
      | ok answer =>
          cases answer with
          | none =>
              cases h
              refine ⟨fun _ => usage, 0, List.length_reverse, ?_, ?_⟩
              · intro i hi
                exact absurd hi (Nat.not_lt_zero i)
              · exact Or.inr ⟨Nat.succ_pos limit, congrArg Step.result hs⟩
          | some e =>
              rcases ih h with ⟨calls, n, hlength, helements, hstop⟩
              let longer : Nat -> Usage := fun i => Nat.casesOn i usage calls
              have hlater (i : Nat) : reply (p.advance ctx path) cursor longer (i + 1) =
                  reply (p.advance ctx path) cursor' calls i := by
                rw [reply_cons]
                show reply _ (p.advance ctx path usage cursor).cursor calls i = _
                rw [hs]
              refine ⟨longer, n + 1, ?_, ?_, ?_⟩
              · rw [hlength, List.length_cons, Nat.add_assoc, Nat.add_comm 1]
              · intro i hi
                cases i with
                | zero => exact ⟨e, congrArg Step.result hs⟩
                | succ i =>
                    rw [hlater]
                    exact helements i (Nat.lt_of_succ_lt_succ hi)
              · rw [hlater]
                rcases hstop with rfl | ⟨hlt, hend⟩
                · exact Or.inl rfl
                · exact Or.inr ⟨Nat.succ_lt_succ hlt, hend⟩

theorem Iterator.length_drain
    {ctx : Context} {p : Pipeline} (haddr : p.Addressable) {m : Nat} (hextent : p.extent = some m)
    {path : String} {usage : Usage} {es : List Element}
    (h : ((startAt p path).drain ctx usage).1 = .ok es) : es.length = m := by
  rcases collect_eq_ok h with ⟨calls, n, hlength, helements, hstop⟩
  rw [List.length_nil, Nat.zero_add] at hlength
  rw [hlength]
  have hquiet (k : Nat) (hk : k < n) (i : Nat) (hi : i ≤ k) (f : Failure) :
      p.answer ctx path calls i ≠ .error f := by
    rcases helements i (Nat.lt_of_le_of_lt hi hk) with ⟨e, he⟩
    intro herror
    cases he.symm.trans herror
  -- no element is delivered behind the last
  have hle : n ≤ m := by
    apply Nat.le_of_not_lt
    intro hlt
    rcases helements m hlt with ⟨e, he⟩
    have hend := (Pipeline.answer_eq_none_iff haddr hextent (hquiet m hlt)).mpr (Nat.le_refl m)
    cases he.symm.trans hend
  apply Nat.le_antisymm hle
  rcases hstop with rfl | ⟨_, hend⟩
  · exact Nat.le_succ_of_le (Pipeline.extent_le_remaining hextent)
  · apply (Pipeline.answer_eq_none_iff haddr hextent ?_).mp hend
    intro i hi f
    rcases Nat.lt_or_eq_of_le hi with hlt | rfl
    · exact hquiet i hlt i (Nat.le_refl i) f
    · intro herror
      cases hend.symm.trans herror

/-!
## The promise and the delivery
-/

open Segmentation in
/-- A pipeline that promises a number of elements delivers just that many: the
number is the one without any bound, calls without a failure answer with the end
from that number on and not before, and draining collects as many.  One that
promises no end never answers with it.  Nothing is promised just where the source
promises nothing.  A stage over any `n` elements answers other than with the end
once for each window that they are cut into, whether or not it can be stacked. -/
theorem cardinality_counts_elements
    (ctx : Context) (p : Pipeline) (path : String) (haddr : p.Addressable) :
    (forall n : UInt64, p.cardinality = .finite n ->
      p.extent = some n.toNat ∧
      (forall (calls : Nat -> Usage) (k : Nat),
        (forall i : Nat, i ≤ k -> forall f : Failure, p.answer ctx path calls i ≠ .error f) ->
          (p.answer ctx path calls k = .ok none <-> n.toNat ≤ k)) ∧
      forall (usage : Usage) (es : List Element),
        ((Iterator.startAt p path).drain ctx usage).1 = .ok es -> es.length = n.toNat) ∧
    (p.cardinality = .infinite ->
      forall (calls : Nat -> Usage) (k : Nat), p.answer ctx path calls k ≠ .ok none) ∧
    (p.cardinality = .unknown <-> p.leaf.cardinality = .unknown) ∧
    (forall (s : Stage) (calls : Nat -> Usage) (n : Nat), s.size ≤ Stage.windowLimit ->
      (forall i : Nat, i < n -> exists e : Element,
        inputScript ctx p path (inputPulls ctx s p path calls) i = .ok (some e)) ->
      inputScript ctx p path (inputPulls ctx s p path calls) n = .ok none ->
      forall k : Nat,
        (Pipeline.batch s p).answer ctx path calls k ≠ .ok none <->
          k < batches n s.size s.dropRemainder) := by
  refine ⟨?_, ?_, p.cardinality_eq_unknown_iff, ?_⟩
  · intro n hfinite
    have hextent := Pipeline.extent_of_finite haddr hfinite
    refine ⟨hextent, ?_, ?_⟩
    · intro calls k hanswers
      exact Pipeline.answer_eq_none_iff haddr hextent hanswers
    · intro usage es hdrain
      exact Iterator.length_drain haddr hextent hdrain
  · intro hinfinite calls k
    exact Pipeline.answer_ne_none (Pipeline.extent_of_infinite hinfinite) ctx path calls k
  · intro s calls n hsize helements hend k
    rw [ne_eq, stage_answer_eq_none_iff hsize, Nat.not_le]
    intro i _
    constructor
    · exact helements i
    · rintro rfl
      exact hend

def pairsOfPairs : Pipeline :=
  .batch Stage.pairs (.counting 0 (.batch Stage.pairs (.range 0 (some 6))))

def integers (dims : List UInt64) (values : List Int64) : Element :=
  [⟨.int64, ⟨dims⟩, values.flatMap fun n => (Tensor.ofScalar .int64 n).data⟩]

open Segmentation in
theorem cardinality_counts_elements_of_pairs_of_pairs :
    pairsOfPairs.Addressable ∧
      pairsOfPairs.cardinality = .finite 2 ∧
      (forall i : Nat, i ≤ 2 -> forall f : Failure,
        pairsOfPairs.answer Context.default "Iterator::BatchV2" (fun _ => Usage.empty) i ≠
          .error f) ∧
      pairsOfPairs.answer Context.default "Iterator::BatchV2" (fun _ => Usage.empty) 2 =
        .ok none ∧
      ((Iterator.startAt pairsOfPairs "Iterator::BatchV2").drain Context.default
        Usage.empty).1 = .ok [integers [2, 2] [0, 1, 2, 3], integers [1, 2] [4, 5]] ∧
      [integers [2, 2] [0, 1, 2, 3], integers [1, 2] [4, 5]].length = (2 : UInt64).toNat := by
  have hcheck : forall i : Nat, i ≤ 2 ->
      (pairsOfPairs.answer Context.default "Iterator::BatchV2" (fun _ => Usage.empty) i).isOk =
        true := by
    with_unfolding_all decide
  have hanswers : forall i : Nat, i ≤ 2 -> forall f : Failure,
      pairsOfPairs.answer Context.default "Iterator::BatchV2" (fun _ => Usage.empty) i ≠
        .error f := by
    intro i hi f herror
    have hi := hcheck i hi
    rw [herror] at hi
    cases hi
  have haddr : pairsOfPairs.Addressable := trivial
  have hfinite : pairsOfPairs.cardinality = .finite 2 := by decide
  rcases (cardinality_counts_elements Context.default pairsOfPairs "Iterator::BatchV2" haddr).1 2
    hfinite with ⟨_, hend, hdrain⟩
  have hall : ((Iterator.startAt pairsOfPairs "Iterator::BatchV2").drain Context.default
      Usage.empty).1 = .ok [integers [2, 2] [0, 1, 2, 3], integers [1, 2] [4, 5]] := by
    with_unfolding_all rfl
  refine ⟨haddr, hfinite, hanswers, ?_, hall, hdrain Usage.empty _ hall⟩
  exact (hend (fun _ => Usage.empty) 2 hanswers).mpr (by decide)

end TensorPipeline
