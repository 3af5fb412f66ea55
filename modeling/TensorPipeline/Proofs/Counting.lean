import TensorPipeline.Proofs.Segmentation

/-!
# Windows over a list

When the answers of the input are the elements of a list and then the end, the
place before every call can be computed: full windows come one behind the other
as long as the list lasts, the window in which it ends is short or empty, and
after that there is nothing left.  Only the answers that the calls so far have
inspected matter, so nothing is asked of those behind them.
-/

namespace TensorPipeline

/-- How many windows of `size` a list of `n` elements is cut into, the last of
them short unless short ones are dropped. -/
def batches (n size : Nat) (dropRemainder : Bool) : Nat :=
  n / size + if n % size ≠ 0 ∧ dropRemainder = false then 1 else 0

theorem batches_le_iff
    {n size k : Nat} (hsize : 0 < size) (dropRemainder : Bool) :
    batches n size dropRemainder ≤ k <->
      n < (k + 1) * size ∧ (dropRemainder = false -> n ≤ k * size) := by
  have hsplit := Nat.div_add_mod n size
  have hmod := Nat.mod_lt n hsize
  have hquotient : n < (k + 1) * size <-> n / size ≤ k := by
    rw [← Nat.div_lt_iff_lt_mul hsize, Nat.lt_succ_iff]
  unfold batches
  rw [hquotient]
  cases dropRemainder with
  | true =>
      rw [if_neg fun h => Bool.noConfusion h.2, Nat.add_zero]
      exact ⟨fun h => ⟨h, fun hkeep => Bool.noConfusion hkeep⟩, And.left⟩
  | false =>
      by_cases hzero : n % size = 0
      · rw [if_neg fun h => h.1 hzero, Nat.add_zero]
        refine ⟨fun h => ⟨h, fun _ => ?_⟩, And.left⟩
        rw [← hsplit, hzero, Nat.add_zero, Nat.mul_comm]
        exact Nat.mul_le_mul_right size h
      · rw [if_pos ⟨hzero, rfl⟩, Nat.succ_le_iff]
        constructor
        · intro hlt
          refine ⟨Nat.le_of_lt hlt, fun _ => ?_⟩
          exact Nat.le_of_lt ((Nat.div_lt_iff_lt_mul hsize).mp hlt)
        · rintro ⟨hle, hkept⟩
          refine Nat.lt_of_le_of_ne hle ?_
          rintro rfl
          have hmany := hkept rfl
          rw [Nat.mul_comm] at hmany
          omega

theorem batches_le {size : Nat} (hsize : 0 < size) (n : Nat) (dropRemainder : Bool) :
    batches n size dropRemainder ≤ n := by
  rw [batches_le_iff hsize]
  have hle : n * 1 ≤ n * size := Nat.mul_le_mul_left n hsize
  rw [Nat.mul_one] at hle
  refine ⟨?_, fun _ => hle⟩
  rw [Nat.succ_mul]
  exact Nat.lt_of_le_of_lt hle (Nat.lt_add_of_pos_right hsize)

theorem map_some_ne_none {ε α : Type} (result : Except ε α) : result.map some ≠ .ok none := by
  intro h
  cases result with
  | error f => cases h
  | ok value => cases h

namespace Segmentation

/-- Of the first `bound` answers, those that there are elements for in a list of
`m` are elements, and the one behind them is the end. -/
def Lists (script : Script) (m bound : Nat) : Prop :=
  forall i : Nat, i < bound ->
    (i < m -> exists e : Element, script i = .ok (some e)) ∧ (i = m -> script i = .ok none)

theorem Lists.mono
    {script : Script} {m bound bound' : Nat} (h : Lists script m bound) (hle : bound' ≤ bound) :
    Lists script m bound' :=
  fun i hi => h i (Nat.lt_of_lt_of_le hi hle)

theorem exists_window (script : Script) (room i : Nat) :
    exists (pulled : Pulled) (j : Nat), Window script room i (leading script room i) pulled j := by
  induction room generalizing i with
  | zero => exact ⟨.full [], i, Window.full rfl⟩
  | succ room ih =>
      cases hscript : script i with
      | error f =>
          have hleading : leading script (room + 1) i = [] := by rw [leading, hscript]
          rw [hleading]
          exact ⟨.failed f, i + 1, Window.failed (Nat.succ_pos room) hscript⟩
      | ok answer =>
          cases answer with
          | none =>
              have hleading : leading script (room + 1) i = [] := by rw [leading, hscript]
              rw [hleading]
              exact ⟨.ended [], i + 1, Window.ended (Nat.succ_pos room) hscript⟩
          | some e =>
              have hleading : leading script (room + 1) i = e :: leading script room (i + 1) := by
                rw [leading, hscript]
              rcases ih (i + 1) with ⟨pulled, j, hwindow⟩
              rw [hleading]
              exact ⟨prepend [e] pulled, j, hwindow.cons e⟩

section

variable {script : Script} {size m : Nat}

theorem Window.of_lists
    {i : Nat} {pulled : Pulled} {j : Nat}
    (h : Window script size i (leading script size i) pulled j) (hi : i ≤ m)
    (hlists : Lists script m j) :
    i + size ≤ m ∧ (leading script size i).length = size ∧
        pulled = .full (leading script size i) ∧ j = i + size ∨
      m < i + size ∧ i + (leading script size i).length = m ∧
        pulled = .ended (leading script size i) ∧ j = m + 1 := by
  have hreach : i + (leading script size i).length ≤ j := by
    cases h with
    | full hlength => exact Nat.le_of_eq (congrArg (i + ·) hlength)
    | ended _ _ => exact Nat.le_succ _
    | failed _ _ => exact Nat.le_succ _
  -- an element at the place of the end would have to be the end
  have hwithin : i + (leading script size i).length ≤ m := by
    apply Nat.le_of_not_lt
    intro hlt
    rcases Nat.exists_eq_add_of_le hi with ⟨d, rfl⟩
    rcases script_of_leading (Nat.lt_of_add_lt_add_left hlt) with ⟨e, he⟩
    have hend := (hlists (i + d) (Nat.lt_of_lt_of_le hlt hreach)).2 rfl
    rw [he] at hend
    cases hend
  generalize leading script size i = w at h hwithin
  cases h with
  | full hlength =>
      rw [hlength] at hwithin
      exact Or.inl ⟨hwithin, hlength, rfl, rfl⟩
  | ended hlength hstop =>
      rcases Nat.lt_or_eq_of_le hwithin with hlt | heq
      · rcases (hlists _ (Nat.lt_succ_self _)).1 hlt with ⟨e, he⟩
        rw [hstop] at he
        cases he
      · exact Or.inr ⟨by omega, heq, rfl, by rw [heq]⟩
  | failed hlength hstop =>
      rcases Nat.lt_or_eq_of_le hwithin with hlt | heq
      · rcases (hlists _ (Nat.lt_succ_self _)).1 hlt with ⟨e, he⟩
        rw [hstop] at he
        cases he
      · have hend := (hlists _ (Nat.lt_succ_self _)).2 heq
        rw [hstop] at hend
        cases hend

def placeIn (size m k : Nat) : Place :=
  if k * size ≤ m then ⟨k * size, false⟩ else ⟨m + 1, true⟩

theorem placeBefore_of_lists
    {k : Nat} (hlists : Lists script m (placeBefore size script k).inspected) :
    placeBefore size script k = placeIn size m k := by
  induction k with
  | zero => rw [placeIn, Nat.zero_mul, if_pos (Nat.zero_le m), placeBefore]
  | succ k ih =>
      have hbefore := ih (hlists.mono (Place.inspected_le_next _))
      rw [placeBefore, hbefore] at hlists
      rw [placeBefore, hbefore]
      unfold placeIn at hlists ⊢
      split at hlists
      · next hk =>
          rw [if_pos hk]
          rcases exists_window script size (k * size) with ⟨pulled, j, hwindow⟩
          rw [Place.next_of_window hwindow] at hlists ⊢
          rw [Nat.succ_mul]
          rcases hwindow.of_lists hk hlists with ⟨hlasts, _, rfl, rfl⟩ | ⟨hends, _, rfl, rfl⟩
          · rw [if_pos hlasts]
            rfl
          · rw [if_neg (Nat.not_le.mpr hends)]
            rfl
      · next hk =>
          have hlater : ¬ (k + 1) * size ≤ m := fun h =>
            hk (Nat.le_trans (Nat.mul_le_mul_right size (Nat.le_succ k)) h)
          rw [if_neg hk, if_neg hlater, Place.next, if_pos rfl]

theorem answer_of_lists
    {k : Nat} (hlists : Lists script m (placeBefore size script (k + 1)).inspected)
    (dropRemainder : Bool)
    (aggregate : Nat -> List Element -> Except Failure (Option Element)) :
    (placeBefore size script k).answer size dropRemainder script aggregate =
      if (k + 1) * size ≤ m then
        aggregate ((k + 1) * size) (leading script size (k * size))
      else if k * size < m ∧ dropRemainder = false then
        aggregate (m + 1) (leading script size (k * size))
      else .ok none := by
  rw [placeBefore] at hlists
  have hbefore := placeBefore_of_lists (hlists.mono (Place.inspected_le_next _))
  rw [hbefore] at hlists ⊢
  unfold placeIn at hlists ⊢
  split at hlists
  · next hk =>
      rw [if_pos hk]
      rcases exists_window script size (k * size) with ⟨pulled, j, hwindow⟩
      rw [Place.next_of_window hwindow] at hlists
      rw [Place.answer_of_window hwindow, Nat.succ_mul]
      rcases hwindow.of_lists hk hlists with ⟨hlasts, _, rfl, rfl⟩ | ⟨hends, hlength, rfl, rfl⟩
      · rw [if_pos hlasts]
        rfl
      · rw [if_neg (Nat.not_le.mpr hends)]
        generalize leading script size (k * size) = w at hlength ⊢
        cases w with
        | nil =>
            have hnone : ¬ k * size < m := Nat.not_lt.mpr (Nat.le_of_eq hlength.symm)
            rw [if_neg fun h => hnone h.1]
            rfl
        | cons e w =>
            have hsome : k * size < m := by
              rw [← hlength]
              exact Nat.lt_add_of_pos_right (Nat.succ_pos _)
            cases dropRemainder with
            | true =>
                rw [if_neg fun h => Bool.noConfusion h.2]
                rfl
            | false =>
                rw [if_pos ⟨hsome, rfl⟩]
                rfl
  · next hk =>
      have hlater : ¬ (k + 1) * size ≤ m := fun h =>
        hk (Nat.le_trans (Nat.mul_le_mul_right size (Nat.le_succ k)) h)
      rw [if_neg hk, if_neg hlater, if_neg fun h => hk (Nat.le_of_lt h.1), Place.answer, if_pos rfl]

end

/-!
## A stage over a list
-/

theorem Lists.not_error
    {script : Script} {size m k : Nat}
    (hlists : Lists script m (placeBefore size script k).inspected) {i : Nat}
    (hi : i < (placeBefore size script k).inspected) (f : Failure) : script i ≠ .error f := by
  have hle : i ≤ m := by
    rw [placeBefore_of_lists hlists, placeIn] at hi
    split at hi
    · next hk => exact Nat.le_of_lt (Nat.lt_of_lt_of_le hi hk)
    · exact Nat.le_of_lt_succ hi
  intro herror
  rcases Nat.lt_or_eq_of_le hle with hlt | heq
  · rcases (hlists i hi).1 hlt with ⟨e, he⟩
    rw [herror] at he
    cases he
  · have hend := (hlists i hi).2 heq
    rw [herror] at hend
    cases hend

section Stage

variable {ctx : Context} {s : Stage} {input : Pipeline} {path : String}
  {calls : Nat -> Usage}

theorem stackAfter_ne_none (pulls : Nat -> Usage) (n : Nat) (window : List Element) :
    stackAfter ctx s input path pulls n window ≠ .ok none :=
  map_some_ne_none _

theorem stage_answer_of_lists
    (hsize : s.size ≤ Stage.windowLimit) {m k : Nat}
    (hlists : Lists (inputScript ctx input path (inputPulls ctx s input path calls)) m
      (placeBefore s.size (inputScript ctx input path (inputPulls ctx s input path calls))
        (k + 1)).inspected) :
    (Pipeline.batch s input).answer ctx path calls k =
      if (k + 1) * s.size ≤ m then
        stackAfter ctx s input path (inputPulls ctx s input path calls) ((k + 1) * s.size)
          (leading (inputScript ctx input path (inputPulls ctx s input path calls)) s.size
            (k * s.size))
      else if k * s.size < m ∧ s.dropRemainder = false then
        stackAfter ctx s input path (inputPulls ctx s input path calls) (m + 1)
          (leading (inputScript ctx input path (inputPulls ctx s input path calls)) s.size
            (k * s.size))
      else .ok none := by
  rw [← answer_of_lists hlists]
  exact (follows_inputPulls hsize k fun i hi c => hlists.not_error hi (.crash c)).1

theorem stage_answer_eq_none_iff
    (hsize : s.size ≤ Stage.windowLimit) {m k : Nat}
    (hlists : Lists (inputScript ctx input path (inputPulls ctx s input path calls)) m
      (placeBefore s.size (inputScript ctx input path (inputPulls ctx s input path calls))
        (k + 1)).inspected) :
    (Pipeline.batch s input).answer ctx path calls k = .ok none <->
      batches m s.size s.dropRemainder ≤ k := by
  rw [stage_answer_of_lists hsize hlists, batches_le_iff s.size_pos]
  split
  · next hfull =>
      constructor
      · intro h
        exact absurd h (stackAfter_ne_none _ _ _)
      · intro h
        exact absurd h.1 (Nat.not_lt.mpr hfull)
  · next hfull =>
      split
      · next hshort =>
          constructor
          · intro h
            exact absurd h (stackAfter_ne_none _ _ _)
          · intro h
            exact absurd (h.2 hshort.2) (Nat.not_le.mpr hshort.1)
      · next hshort =>
          constructor
          · intro _
            refine ⟨Nat.not_le.mp hfull, fun hkeep => Nat.not_lt.mp fun hlt => ?_⟩
            exact hshort ⟨hlt, hkeep⟩
          · intro _
            rfl

theorem not_error_of_answer
    (hsize : s.size ≤ Stage.windowLimit) {n : Nat} {place : Place}
    (hbefore : Invariant ctx s input path calls n place)
    (hanswer : forall f : Failure, (Pipeline.batch s input).answer ctx path calls n ≠ .error f)
    {i : Nat} (hle : place.inspected ≤ i)
    (hlt : i < (place.next s.size
      (inputScript ctx input path (inputPulls ctx s input path calls))).inspected)
    (f : Failure) :
    inputScript ctx input path (inputPulls ctx s input path calls) i ≠ .error f := by
  rcases place with ⟨start, ended⟩
  cases ended with
  | true => exact absurd hlt (Nat.not_lt.mpr hle)
  | false =>
      rcases pull_of_fresh hsize (hbefore.fresh rfl) with ⟨pulled, j, hread, _, hpull⟩
      rw [Place.next_of_window hread] at hlt
      intro herror
      have hfailed := hread.failed_of_error hle hlt herror
      apply hanswer f
      have hcell : (Pipeline.batch s input).cursorAfter ctx path calls n =
          Guarded.ofContent (.active (inputPulling ctx s input path calls start).cursor) :=
        hbefore.cell_eq
      rw [Pipeline.answer, Pipeline.reply_eq, hcell, Pipeline.advance_batch, hpull, hfailed]

theorem not_error_of_answers
    (hsize : s.size ≤ Stage.windowLimit) {n : Nat}
    (hanswers : forall k : Nat, k < n -> forall f : Failure,
      (Pipeline.batch s input).answer ctx path calls k ≠ .error f)
    {i : Nat}
    (hi : i < (placeBefore s.size
      (inputScript ctx input path (inputPulls ctx s input path calls)) n).inspected)
    (f : Failure) :
    inputScript ctx input path (inputPulls ctx s input path calls) i ≠ .error f := by
  induction n generalizing i f with
  | zero => exact absurd hi (Nat.not_lt_zero i)
  | succ n ih =>
      have hbefore := Invariant.after hsize n fun i hi c =>
        ih (fun k hk => hanswers k (Nat.lt_succ_of_lt hk)) hi (.crash c)
      rcases Nat.lt_or_ge i (placeBefore s.size
        (inputScript ctx input path (inputPulls ctx s input path calls)) n).inspected with
        hold | hnew
      · exact ih (fun k hk => hanswers k (Nat.lt_succ_of_lt hk)) hold f
      · exact not_error_of_answer hsize hbefore (hanswers n (Nat.lt_succ_self n)) hnew hi f

end Stage

end Segmentation

end TensorPipeline
