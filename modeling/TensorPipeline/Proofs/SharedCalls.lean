import TensorPipeline.Proofs.Delivery
import TensorPipeline.Proofs.Resumption
import TensorPipeline.Proofs.Segmentation
import TensorPipeline.Proofs.Stacking.AtOnce

/-!
# Calls on one iterator by many callers

Callers that share an iterator over a batch stage go through two phases each.
The first holds the stage's lock and takes a window from the input; the second
stacks the window and touches nothing that is shared.  Between the two phases of
one call any number of phases of other calls may run, and the iterator may be
saved.

Whatever the order, the pull phases come one after another, and the call whose
phase is number `k` among them takes the window that call number `k` of a single
caller takes.  What it answers is made of that window alone; only a pool that orders
its copies by what has been used may make it name another fault.
-/

namespace TensorPipeline

def Stage.conclude (s : Stage) (ctx : Context) (usage : Usage) :
    Except Failure (List Element) -> Except Failure (Option Element)
  | .error f => .error f
  | .ok window => (s.deliver ctx usage window).1

namespace Shared

structure Call where
  caller : Nat
  number : Nat
  pulled : Except Failure (List Element)

/-- The stage's cell, the number of first phases so far, the calls between their
phases, the calls answered, and what saving came to after how many first
phases. -/
structure State (input : Pipeline) where
  cell : Guarded (Feed (Cursor input))
  pulls : Nat
  inFlight : List Call
  answered : List (Call × Except Failure (Option Element))
  saved : List (Nat × Except Error Store)

variable {input : Pipeline}

def State.calls (x : State input) : List Call := x.answered.map Prod.fst ++ x.inFlight

def State.start (input : Pipeline) : State input where
  cell := Guarded.ofContent (.active input.start)
  pulls := 0
  inFlight := []
  answered := []
  saved := []

/-- One phase of one call, or one save.  The first phase number `i` finds `us i`
used, and the second phase of that call finds `vs i`. -/
inductive Step (ctx : Context) (s : Stage) (path : String) (us vs : Nat -> Usage) :
    State input -> State input -> Prop where
  | pull {x : State input} {caller : Nat} {pulled : Except Failure (List Element)}
      {cell : Guarded (Feed (Cursor input))} {usage : Usage} :
      (forall c : Call, c ∈ x.inFlight -> c.caller ≠ caller) ->
      s.pull path (input.advance ctx (input.pathUnder path)) (us x.pulls) x.cell =
        (pulled, cell, usage) ->
      Step ctx s path us vs x
        { x with
          cell := cell
          pulls := x.pulls + 1
          inFlight := ⟨caller, x.pulls, pulled⟩ :: x.inFlight }
  | answer {x : State input} {before after : List Call} {c : Call} :
      x.inFlight = before ++ c :: after ->
      Step ctx s path us vs x
        { x with
          inFlight := before ++ after
          answered := (c, s.conclude ctx (vs c.number) c.pulled) :: x.answered }
  | save {x : State input} :
      Step ctx s path us vs x
        { x with
          saved :=
            (x.pulls, (Pipeline.batch s input).save path x.cell Table.empty) :: x.saved }

inductive Reachable (ctx : Context) (s : Stage) (path : String) (us vs : Nat -> Usage) :
    State input -> Prop where
  | start : Reachable ctx s path us vs (State.start input)
  | step {x y : State input} :
      Reachable ctx s path us vs x -> Step ctx s path us vs x y -> Reachable ctx s path us vs y

/-!
## The phases of a single caller
-/

def firstPhase (ctx : Context) (s : Stage) (input : Pipeline) (path : String)
    (us : Nat -> Usage) (n : Nat) :
    Except Failure (List Element) × Guarded (Feed (Cursor input)) × Usage :=
  s.pull path (input.advance ctx (input.pathUnder path)) (us n)
    ((Pipeline.batch s input).cursorAfter ctx path us n)

section

variable {ctx : Context} {s : Stage} {path : String} {us vs : Nat -> Usage}

theorem advance_result_eq_conclude (usage : Usage) (cell : Guarded (Feed (Cursor input))) :
    ((Pipeline.batch s input).advance ctx path usage cell).result =
      s.conclude ctx
        (s.pull path (input.advance ctx (input.pathUnder path)) usage cell).2.2
        (s.pull path (input.advance ctx (input.pathUnder path)) usage cell).1 := by
  rw [Pipeline.advance_batch]
  rcases s.pull path (input.advance ctx (input.pathUnder path)) usage cell with
    ⟨_ | window, cell', usage'⟩
  · rfl
  · rfl

theorem answer_eq_conclude (n : Nat) :
    (Pipeline.batch s input).answer ctx path us n =
      s.conclude ctx (firstPhase ctx s input path us n).2.2
        (firstPhase ctx s input path us n).1 :=
  advance_result_eq_conclude (us n) _

theorem cursorAfter_succ_eq (n : Nat) :
    (Pipeline.batch s input).cursorAfter ctx path us (n + 1) =
      (firstPhase ctx s input path us n).2.1 :=
  Pipeline.advance_batch_cursor ctx s input path (us n) _

theorem conclude_eq_some
    {usage : Usage} {n : Nat} {batch : Element}
    (h : s.conclude ctx usage (firstPhase ctx s input path us n).1 = .ok (some batch)) :
    exists window : List Element,
      (firstPhase ctx s input path us n).1 = .ok window ∧
        (stack ctx s.parallelCopy usage window).1 = .ok batch := by
  rcases hphase : firstPhase ctx s input path us n with ⟨_ | window, cell, usage'⟩
  · rw [hphase] at h
    cases h
  · rw [hphase] at h
    have hany : Delivers (fun _ => True) (input.advance ctx (input.pathUnder path)) := by
      intro _ _ _ _
      trivial
    have hlength := (Stage.pull_delivers hany hphase).2
    exact ⟨window, rfl, (Stage.deliver_eq_some hlength h).2⟩

theorem conclude_alike
    {L : Likeness} (s : Stage)
    (hstack : forall {u v : Usage} (window : List Element), L.usages u v ->
      L.Outcomes (stack ctx s.parallelCopy u window) (stack ctx s.parallelCopy v window))
    {u v : Usage} (husage : L.usages u v) (pulled : Except Failure (List Element)) :
    L.Answers (s.conclude ctx u pulled) (s.conclude ctx v pulled) := by
  cases pulled with
  | error f => exact L.answers_refl _
  | ok window => exact (Stage.deliver_alike rfl rfl hstack husage window).1

theorem conclude_eq
    (hctx : ctx.Memoryless) (s : Stage) (u v : Usage) (pulled : Except Failure (List Element)) :
    s.conclude ctx u pulled = s.conclude ctx v pulled :=
  Context.Memoryless.anyUsage_answers_iff.mp
    (conclude_alike s
      (fun window husage => hctx.hiddenFrom.stack_alike husage s.parallelCopy window)
      trivial pulled)

theorem conclude_anyUsage
    (hserve : ctx.allocator.Memoryless) (s : Stage) (u v : Usage)
    (pulled : Except Failure (List Element)) :
    Stacking.anyFault.Answers (s.conclude ctx u pulled) (s.conclude ctx v pulled) :=
  Stacking.anyFaultAnyUsage_answers_iff.mp
    (conclude_alike s (fun window _ => Stacking.stack_anyUsage hserve s.parallelCopy window)
      trivial pulled)

/-!
## What every step keeps
-/

/-- The shared cell is where a single caller would have it after as many calls.
The numbers of the calls are those of the first phases, each once; every call has
the window of its number, and answers what that window comes to. -/
structure Linear (ctx : Context) (s : Stage) (path : String) (us vs : Nat -> Usage)
    (x : State input) : Prop where
  cell_eq : x.cell = (Pipeline.batch s input).cursorAfter ctx path us x.pulls
  numbers : (x.calls.map Call.number).Perm (List.range x.pulls)
  pulled_eq : forall c : Call, c ∈ x.calls ->
    c.pulled = (firstPhase ctx s input path us c.number).1
  answered_eq : forall (c : Call) (result : Except Failure (Option Element)),
    (c, result) ∈ x.answered -> result = s.conclude ctx (vs c.number) c.pulled
  saved_eq : forall (k : Nat) (result : Except Error Store), (k, result) ∈ x.saved ->
    k ≤ x.pulls ∧
      result = (Pipeline.batch s input).save path
        ((Pipeline.batch s input).cursorAfter ctx path us k) Table.empty

theorem Linear.start : Linear ctx s path us vs (State.start input) where
  cell_eq := rfl
  numbers := List.Perm.nil
  pulled_eq _ hc := absurd hc List.not_mem_nil
  answered_eq _ _ hc := absurd hc List.not_mem_nil
  saved_eq _ _ hk := absurd hk List.not_mem_nil

section

variable {x : State input} (h : Linear ctx s path us vs x)

include h

theorem Linear.pull
    (caller : Nat) {pulled : Except Failure (List Element)}
    {cell : Guarded (Feed (Cursor input))} {usage : Usage}
    (hpull : s.pull path (input.advance ctx (input.pathUnder path)) (us x.pulls) x.cell =
      (pulled, cell, usage)) :
    Linear ctx s path us vs
      { x with
        cell := cell
        pulls := x.pulls + 1
        inFlight := ⟨caller, x.pulls, pulled⟩ :: x.inFlight } := by
  have hphase : firstPhase ctx s input path us x.pulls = (pulled, cell, usage) := by
    rw [firstPhase, ← h.cell_eq]
    exact hpull
  have hcalls : (x.answered.map Prod.fst ++ ⟨caller, x.pulls, pulled⟩ :: x.inFlight).Perm
      (⟨caller, x.pulls, pulled⟩ :: x.calls) :=
    List.perm_middle
  constructor
  · show cell = _
    rw [cursorAfter_succ_eq, hphase]
  · show ((x.answered.map Prod.fst ++ ⟨caller, x.pulls, pulled⟩ :: x.inFlight).map
      Call.number).Perm (List.range (x.pulls + 1))
    rw [List.range_succ]
    refine (hcalls.map Call.number).trans ?_
    exact (h.numbers.cons x.pulls).trans (List.perm_append_singleton _ _).symm
  · intro c hc
    rcases List.mem_cons.mp (hcalls.mem_iff.mp hc) with rfl | hc
    · rw [hphase]
    · exact h.pulled_eq c hc
  · exact h.answered_eq
  · intro k result hk
    rcases h.saved_eq k result hk with ⟨hle, heq⟩
    exact ⟨Nat.le_succ_of_le hle, heq⟩

theorem Linear.answer
    {before after : List Call} {c : Call} (hflight : x.inFlight = before ++ c :: after) :
    Linear ctx s path us vs
      { x with
        inFlight := before ++ after
        answered := (c, s.conclude ctx (vs c.number) c.pulled) :: x.answered } := by
  have hcalls : (c :: x.answered.map Prod.fst ++ (before ++ after)).Perm x.calls := by
    rw [State.calls, hflight, List.cons_append]
    refine List.perm_middle.symm.trans ?_
    exact List.perm_middle.symm.append_left _
  constructor
  · exact h.cell_eq
  · exact (hcalls.map Call.number).trans h.numbers
  · intro d hd
    exact h.pulled_eq d (hcalls.mem_iff.mp hd)
  · intro d result hd
    rcases List.mem_cons.mp hd with heq | hd
    · cases heq
      rfl
    · exact h.answered_eq d result hd
  · exact h.saved_eq

theorem Linear.save :
    Linear ctx s path us vs
      { x with
        saved :=
          (x.pulls, (Pipeline.batch s input).save path x.cell Table.empty) :: x.saved } := by
  constructor
  · exact h.cell_eq
  · exact h.numbers
  · exact h.pulled_eq
  · exact h.answered_eq
  · intro k result hk
    rcases List.mem_cons.mp hk with heq | hk
    · cases heq
      rw [← h.cell_eq]
      exact ⟨Nat.le_refl _, rfl⟩
    · exact h.saved_eq k result hk

theorem Linear.step {y : State input} (hstep : Step ctx s path us vs x y) :
    Linear ctx s path us vs y := by
  cases hstep with
  | pull _ hpull => exact h.pull _ hpull
  | answer hflight => exact h.answer hflight
  | save => exact h.save

end

theorem Reachable.linear {x : State input} (hrun : Reachable ctx s path us vs x) :
    Linear ctx s path us vs x := by
  induction hrun with
  | start => exact Linear.start
  | step _ hstep ih => exact ih.step hstep

theorem mem_calls_of_answered
    {x : State input} {c : Call} {result : Except Failure (Option Element)}
    (hc : (c, result) ∈ x.answered) : c ∈ x.calls :=
  List.mem_append_left _ (List.mem_map.mpr ⟨(c, result), hc, rfl⟩)

theorem Linear.result_eq
    {x : State input} (h : Linear ctx s path us vs x) {c : Call}
    {result : Except Failure (Option Element)} (hc : (c, result) ∈ x.answered) :
    result = s.conclude ctx (vs c.number) (firstPhase ctx s input path us c.number).1 := by
  rw [h.answered_eq c result hc, h.pulled_eq c (mem_calls_of_answered hc)]

theorem Linear.answers_perm
    {x : State input} (h : Linear ctx s path us vs x) (hflight : x.inFlight = [])
    {α : Type} (f : Nat -> α) :
    (x.answered.map fun a => f a.1.number).Perm ((List.range x.pulls).map f) := by
  have hnumbers := h.numbers
  rw [State.calls, hflight, List.append_nil, List.map_map] at hnumbers
  have hmap := hnumbers.map f
  rw [List.map_map] at hmap
  exact hmap

/-!
## No call has crashed
-/

structure State.Calm (x : State input) : Prop where
  pulled : forall c : Call, c ∈ x.inFlight -> Quiet c.pulled
  answered : forall (c : Call) (result : Except Failure (Option Element)),
    (c, result) ∈ x.answered -> Quiet result

theorem quiet_of_conclude
    {usage : Usage} {pulled : Except Failure (List Element)}
    (h : Quiet (s.conclude ctx usage pulled)) : Quiet pulled := by
  cases pulled with
  | ok window => exact quiet_ok window
  | error f =>
      intro c hcrash
      cases hcrash
      exact h c rfl

theorem State.Calm.firstPhase
    {x : State input} (hcalm : x.Calm) (h : Linear ctx s path us vs x) {n : Nat}
    (hn : n < x.pulls) : Quiet (firstPhase ctx s input path us n).1 := by
  rcases List.mem_map.mp (h.numbers.mem_iff.mpr (List.mem_range.mpr hn)) with ⟨c, hc, rfl⟩
  rw [← h.pulled_eq c hc]
  rcases List.mem_append.mp hc with hanswered | hflight
  · rcases List.mem_map.mp hanswered with ⟨⟨c, result⟩, hmem, rfl⟩
    have hquiet := hcalm.answered c result hmem
    rw [h.answered_eq c result hmem] at hquiet
    exact quiet_of_conclude hquiet
  · exact hcalm.pulled c hflight

theorem size_le_of_quiet (h : Quiet (firstPhase ctx s input path us 0).1) :
    s.size ≤ Stage.windowLimit := by
  by_cases hsize : s.size ≤ Stage.windowLimit
  · exact hsize
  · have hcrash := congrArg Prod.fst (Stage.pull_of_large (Nat.lt_of_not_le hsize) path
      (input.advance ctx (input.pathUnder path)) (us 0) input.start)
    exact absurd hcrash (h .capacityOverflow)

theorem sound_of_quiet
    {n : Nat} (hquiet : forall k : Nat, k < n -> Quiet (firstPhase ctx s input path us k).1) :
    (Pipeline.batch s input).Sound ((Pipeline.batch s input).cursorAfter ctx path us n) := by
  induction n with
  | zero => exact Pipeline.sound_start _
  | succ n ih =>
      have hbefore := ih fun k hk => hquiet k (Nat.lt_succ_of_lt hk)
      have hlast := hquiet n (Nat.lt_succ_self n)
      rw [cursorAfter_succ_eq]
      unfold firstPhase at hlast ⊢
      generalize (Pipeline.batch s input).cursorAfter ctx path us n = cell at hbefore hlast ⊢
      rcases cell with ⟨feed, poisoned⟩
      rcases hbefore with ⟨hpoisoned, hfeed⟩
      cases hpoisoned
      exact Stage.pull_keeps (Pipeline.advance_keeps_sound ctx input _) s path (us n) hfeed hlast

end

end Shared

/-!
## Where the windows lie
-/

namespace Segmentation

def Place.window (size : Nat) (script : Script) (place : Place) : List Element :=
  if place.ended then [] else leading script size place.inspected

section

variable {L : Likeness} {script script' : Script}
  (h : forall i : Nat, L.Answers (script i) (script' i))

include h

theorem leading_alike (room i : Nat) : leading script room i = leading script' room i := by
  induction room generalizing i with
  | zero => rfl
  | succ room ih =>
      have hanswer := h i
      rw [leading, leading]
      generalize script i = a at hanswer ⊢
      generalize script' i = b at hanswer ⊢
      cases hanswer with
      | error _ => rfl
      | ok answer =>
          cases answer with
          | none => rfl
          | some e => exact congrArg (e :: ·) (ih (i + 1))

theorem Place.next_alike (size : Nat) (place : Place) :
    place.next size script = place.next size script' := by
  unfold next
  simp only [leading_alike h]
  have hanswer := h (place.inspected + (leading script' size place.inspected).length)
  generalize script (place.inspected + _) = a at hanswer ⊢
  generalize script' (place.inspected + _) = b at hanswer ⊢
  cases hanswer with
  | error _ => rfl
  | ok _ => rfl

theorem placeBefore_alike (size n : Nat) :
    placeBefore size script n = placeBefore size script' n := by
  induction n with
  | zero => rfl
  | succ n ih => rw [placeBefore, placeBefore, ih, Place.next_alike h]

theorem Place.window_alike (size : Nat) (place : Place) :
    place.window size script = place.window size script' := by
  rw [window, window, leading_alike h]

end

end Segmentation

namespace Shared

open Segmentation

variable {ctx : Context} {s : Stage} {input : Pipeline} {path : String} {us vs : Nat -> Usage}

def handedOn : Pulled -> Except Failure (List Element)
  | .full window => .ok window
  | .ended window => .ok window
  | .failed f => .error f

theorem firstPhase_of_open
    (hsize : s.size ≤ Stage.windowLimit) {n : Nat} {place : Place}
    (h : Invariant ctx s input path us n place) (hopen : place.ended = false) :
    exists (pulled : Pulled) (j : Nat),
      Window (inputScript ctx input path (inputPulls ctx s input path us)) s.size
        place.inspected
        (leading (inputScript ctx input path (inputPulls ctx s input path us)) s.size
          place.inspected) pulled j ∧
      place.next s.size (inputScript ctx input path (inputPulls ctx s input path us)) =
        ⟨j, metEnd pulled⟩ ∧
      (firstPhase ctx s input path us n).1 = handedOn pulled := by
  rcases place with ⟨i, ended⟩
  cases hopen
  rcases pull_of_fresh hsize (h.fresh rfl) with ⟨pulled, j, hread, _, hpull⟩
  refine ⟨pulled, j, hread, Place.next_of_window hread, ?_⟩
  rw [firstPhase, h.cell_eq, cellAt, if_neg Bool.false_ne_true, hpull]
  cases pulled with
  | full window => rfl
  | ended window => rfl
  | failed f => rfl

theorem firstPhase_of_ended
    {n : Nat} {place : Place} (h : Invariant ctx s input path us n place)
    (hended : place.ended = true) : (firstPhase ctx s input path us n).1 = .ok [] := by
  rw [firstPhase, h.cell_eq, cellAt, if_pos hended]
  rfl

theorem script_safe
    (hsize : s.size ≤ Stage.windowLimit) {n : Nat}
    (hquiet : forall k : Nat, k < n -> Quiet (firstPhase ctx s input path us k).1) :
    forall i : Nat,
      i < (placeBefore s.size
        (inputScript ctx input path (inputPulls ctx s input path us)) n).inspected ->
      forall c : Crash,
        inputScript ctx input path (inputPulls ctx s input path us) i ≠ .error (.crash c) := by
  induction n with
  | zero =>
      intro i hi
      exact absurd hi (Nat.not_lt_zero i)
  | succ n ih =>
      have hbefore := ih fun k hk => hquiet k (Nat.lt_succ_of_lt hk)
      have hinvariant := Invariant.after hsize n hbefore
      have hlast := hquiet n (Nat.lt_succ_self n)
      intro i hi c hcrash
      rw [placeBefore] at hi
      generalize placeBefore s.size
        (inputScript ctx input path (inputPulls ctx s input path us)) n = place
        at hbefore hinvariant hi
      cases hended : place.ended with
      | true =>
          rw [Place.next, if_pos hended] at hi
          exact hbefore i hi c hcrash
      | false =>
          rcases firstPhase_of_open hsize hinvariant hended with ⟨pulled, j, hread, hnext, hphase⟩
          rw [hnext] at hi
          by_cases hi' : i < place.inspected
          · exact hbefore i hi' c hcrash
          · have hfailed := hread.failed_of_error (Nat.le_of_not_lt hi') hi hcrash
            rw [hphase, hfailed] at hlast
            exact hlast c rfl

theorem firstPhase_reads
    (hsize : s.size ≤ Stage.windowLimit) {n : Nat}
    (hquiet : forall k : Nat, k < n -> Quiet (firstPhase ctx s input path us k).1)
    {window : List Element} (hwindow : (firstPhase ctx s input path us n).1 = .ok window) :
    let script := inputScript ctx input path (inputPulls ctx s input path us)
    window = (placeBefore s.size script n).window s.size script ∧
      (placeBefore s.size script n).inspected + window.length ≤
        (placeBefore s.size script (n + 1)).inspected := by
  intro script
  have hinvariant := Invariant.after hsize n (script_safe hsize hquiet)
  show window = (placeBefore s.size script n).window s.size script ∧
    (placeBefore s.size script n).inspected + window.length ≤
      ((placeBefore s.size script n).next s.size script).inspected
  generalize placeBefore s.size script n = place at hinvariant ⊢
  cases hended : place.ended with
  | true =>
      rw [firstPhase_of_ended hinvariant hended] at hwindow
      cases hwindow
      constructor
      · rw [Place.window, if_pos hended]
      · exact Place.inspected_le_next place
  | false =>
      rcases firstPhase_of_open hsize hinvariant hended with ⟨pulled, j, hread, hnext, hphase⟩
      rw [hphase] at hwindow
      rw [hnext, Place.window, if_neg (by rw [hended]; exact Bool.false_ne_true)]
      cases hread with
      | full hlength =>
          cases hwindow
          exact ⟨rfl, Nat.le_of_eq (congrArg _ hlength)⟩
      | ended _ _ =>
          cases hwindow
          exact ⟨rfl, Nat.le_succ _⟩
      | failed _ _ => cases hwindow

/-- Every window is the one that the reference reads at the number of its call,
and what the reference has inspected before a later call lies behind it. -/
structure CutBy (size : Nat) (script : Script) (x : State input) : Prop where
  window_eq : forall (c : Call) (window : List Element),
    c ∈ x.calls -> c.pulled = .ok window ->
      window = (placeBefore size script c.number).window size script
  disjoint : forall (c d : Call) (window : List Element),
    c ∈ x.calls -> d ∈ x.calls -> c.pulled = .ok window -> c.number < d.number ->
      (placeBefore size script c.number).inspected + window.length ≤
        (placeBefore size script d.number).inspected

theorem CutBy.of_alike
    {x : State input} {size : Nat} {L : Likeness} {script script' : Script}
    (h : forall i : Nat, L.Answers (script i) (script' i)) (hcut : CutBy size script x) :
    CutBy size script' x := by
  constructor
  · intro c window hc hpulled
    rw [hcut.window_eq c window hc hpulled, placeBefore_alike h, Place.window_alike h]
  · intro c d window hc hd hpulled hlt
    rw [← placeBefore_alike h, ← placeBefore_alike h]
    exact hcut.disjoint c d window hc hd hpulled hlt

theorem Linear.cutBy
    {x : State input} (h : Linear ctx s path us vs x) (hcalm : x.Calm) :
    CutBy s.size (inputScript ctx input path (inputPulls ctx s input path us)) x := by
  have hnumber (c : Call) (hc : c ∈ x.calls) : c.number < x.pulls :=
    List.mem_range.mp (h.numbers.mem_iff.mp (List.mem_map.mpr ⟨c, hc, rfl⟩))
  have hreads (c : Call) (window : List Element) (hc : c ∈ x.calls)
      (hpulled : c.pulled = .ok window) :=
    firstPhase_reads
      (size_le_of_quiet (hcalm.firstPhase h (Nat.lt_of_le_of_lt (Nat.zero_le _) (hnumber c hc))))
      (fun k hk => hcalm.firstPhase h (Nat.lt_trans hk (hnumber c hc)))
      ((h.pulled_eq c hc).symm.trans hpulled)
  constructor
  · intro c window hc hpulled
    exact (hreads c window hc hpulled).1
  · intro c d window hc hd hpulled hlt
    exact Nat.le_trans (hreads c window hc hpulled).2 (inspected_le_of_le _ _ hlt)

end Shared

/-!
## The calls of many as the calls of one
-/

open Segmentation Shared in
/-- Whatever the order of the phases, the calls have the numbers of their first
phases, and number `k` answers what call number `k` of a single caller does: in
any context if its second phase finds used what that caller's finds, and in a
context without a memory always.  Once all calls have been answered, the answers
are those of the single caller up to their order.  If the allocator has no memory
but the pool may order its copies as it likes, all this holds up to which faulty
copy of a component an answer names.

Unless a call crashes, every batch is made of one window that lies in the answers
of the input where the single caller's does, without overlap.  Then a save after
`k` first phases, at whatever point of the other calls, gives a store from which
either way of restoring leads to the place of the single caller after `k` calls,
and on to its answers from there. -/
theorem shared_calls_are_those_of_one_caller
    {ctx : Context} {s : Stage} {input : Pipeline} {parent : String}
    {us vs : Nat -> Usage} {x : State input}
    (hrun : Reachable ctx s ((Pipeline.batch s input).pathUnder parent) us vs x) :
    let p := Pipeline.batch s input
    let path := p.pathUnder parent
    (x.calls.map Call.number).Perm (List.range x.pulls) ∧
    (forall (c : Call) (result : Except Failure (Option Element)), (c, result) ∈ x.answered ->
      vs c.number = (firstPhase ctx s input path us c.number).2.2 ->
      result = p.answer ctx path us c.number) ∧
    (ctx.Memoryless -> forall usage : Nat -> Usage,
      (forall (c : Call) (result : Except Failure (Option Element)), (c, result) ∈ x.answered ->
        result = p.answer ctx path usage c.number) ∧
      (x.inFlight = [] ->
        (x.answered.map Prod.snd).Perm ((List.range x.pulls).map (p.answer ctx path usage)))) ∧
    (ctx.allocator.Memoryless -> forall usage : Nat -> Usage,
      (forall (c : Call) (result : Except Failure (Option Element)), (c, result) ∈ x.answered ->
        Stacking.anyFault.Answers result (p.answer ctx path usage c.number)) ∧
      (x.inFlight = [] ->
        exists answers : List (Except Failure (Option Element)),
          List.Forall₂ Stacking.anyFault.Answers (x.answered.map Prod.snd) answers ∧
            answers.Perm ((List.range x.pulls).map (p.answer ctx path usage)))) ∧
    (x.Calm ->
      (forall (c : Call) (batch : Element), (c, .ok (some batch)) ∈ x.answered ->
        exists window : List Element, c.pulled = .ok window ∧
          (stack ctx s.parallelCopy (vs c.number) window).1 = .ok batch) ∧
      CutBy s.size (inputScript ctx input path (inputPulls ctx s input path us)) x ∧
      (ctx.allocator.Memoryless -> forall usage : Nat -> Usage,
        CutBy s.size (inputScript ctx input path usage) x)) ∧
    (x.Calm -> p.FaultFree -> p.Addressable ->
      forall (k : Nat) (saved : Except Error Store), (k, saved) ∈ x.saved ->
        exists (store : Store) (it : Iterator),
          saved = .ok store ∧
          Iterator.restoredUnder p parent store = .ok it ∧
          (forall other : Cursor p, p.Unlocked other ->
            Iterator.restore ⟨p, path, other⟩ store = .ok it) ∧
          it = ⟨p, path, p.cursorAfter ctx path us k⟩ ∧
          (ctx.Memoryless -> forall (ws usage : Nat -> Usage) (n : Nat),
            it.answer ctx ws n = p.answer ctx path usage (k + n)) ∧
          (ctx.allocator.Memoryless -> forall (ws usage : Nat -> Usage) (n : Nat),
            Stacking.anyFault.Answers (it.answer ctx ws n)
              (p.answer ctx path usage (k + n)))) := by
  intro p path
  have hlinear := hrun.linear
  refine ⟨hlinear.numbers, ?_, ?_, ?_, ?_, ?_⟩
  · intro c result hc hfound
    rw [hlinear.result_eq hc, hfound, answer_eq_conclude]
  · intro hctx usage
    have hanswer (c : Call) (result : Except Failure (Option Element))
        (hc : (c, result) ∈ x.answered) : result = p.answer ctx path usage c.number := by
      rw [hlinear.result_eq hc, hctx.answer_eq p path usage us, answer_eq_conclude]
      exact conclude_eq hctx s _ _ _
    refine ⟨hanswer, ?_⟩
    intro hflight
    have hresults : x.answered.map Prod.snd =
        x.answered.map fun a => p.answer ctx path usage a.1.number :=
      List.map_congr_left fun a ha => hanswer a.1 a.2 ha
    rw [hresults]
    exact hlinear.answers_perm hflight _
  · intro hserve usage
    have hanswer (c : Call) (result : Except Failure (Option Element))
        (hc : (c, result) ∈ x.answered) :
        Stacking.anyFault.Answers result (p.answer ctx path usage c.number) := by
      have hsame := Stacking.answers_anyUsage hserve p path us usage c.number
      rw [answer_eq_conclude] at hsame
      rw [hlinear.result_eq hc]
      exact (conclude_anyUsage hserve s _ _ _).trans Stacking.anyFault_equivalence hsame
    refine ⟨hanswer, ?_⟩
    intro hflight
    refine ⟨x.answered.map fun a => p.answer ctx path usage a.1.number, ?_,
      hlinear.answers_perm hflight _⟩
    rw [List.forall₂_map_left_iff, List.forall₂_map_right_iff, List.forall₂_same]
    exact fun a ha => hanswer a.1 a.2 ha
  · intro hcalm
    have hcut := hlinear.cutBy hcalm
    refine ⟨?_, hcut, ?_⟩
    · intro c batch hc
      rw [hlinear.pulled_eq c (mem_calls_of_answered hc)]
      exact conclude_eq_some (hlinear.result_eq hc).symm
    · intro hserve usage
      exact hcut.of_alike
        (Stacking.answers_anyUsage hserve input (input.pathUnder path) _ usage)
  · intro hcalm hfree haddr k saved hsaved
    rcases hlinear.saved_eq k saved hsaved with ⟨hle, heq⟩
    have hsound := sound_of_quiet fun n hn =>
      hcalm.firstPhase hlinear (Nat.lt_of_lt_of_le hn hle)
    rcases Iterator.restore_savedStore hfree haddr parent hsound with ⟨hnew, hplace⟩
    refine ⟨_, _, heq.trans (Pipeline.save_of_sound hsound path _), hnew, hplace, rfl, ?_, ?_⟩
    · intro hctx ws usage n
      exact hctx.answer_after p path us ws usage k n
    · intro hserve ws usage n
      exact Stacking.answers_after_anyUsage hserve p path us ws usage k n

namespace Shared

def outOfTurn : State (.range 0 (some 3)) where
  cell := Guarded.ofContent .drained
  pulls := 2
  inFlight := []
  answered :=
    [(⟨0, 0, .ok [[.ofScalar .int64 (0 : Int64)], [.ofScalar .int64 (1 : Int64)]]⟩,
      .ok (some [⟨.int64, ⟨[2]⟩, [0, 0, 0, 0, 0, 0, 0, 0, 1, 0, 0, 0, 0, 0, 0, 0]⟩])),
    (⟨1, 1, .ok [[.ofScalar .int64 (2 : Int64)]]⟩,
      .ok (some [⟨.int64, ⟨[1]⟩, [2, 0, 0, 0, 0, 0, 0, 0]⟩]))]
  saved := [(1, .ok (Table.ofPairs [("Iterator::BatchV2::Range:next", .int 2)]))]

theorem reachable_outOfTurn :
    Reachable Context.default Stage.pairs
      ((Pipeline.batch Stage.pairs (.range 0 (some 3))).pathUnder "Iterator")
      (fun _ => Usage.empty) (fun _ => Usage.empty) outOfTurn := by
  let path := (Pipeline.batch Stage.pairs (.range 0 (some 3))).pathUnder "Iterator"
  let advance := (Pipeline.range 0 (some 3)).advance Context.default
    ((Pipeline.range 0 (some 3)).pathUnder path)
  have hfirst : Stage.pairs.pull path advance Usage.empty
      (Guarded.ofContent (.active (Pipeline.start _))) =
        (.ok [[.ofScalar .int64 (0 : Int64)], [.ofScalar .int64 (1 : Int64)]],
          Guarded.ofContent (.active (Guarded.ofContent (2 : Int64))), Usage.empty) := by
    with_unfolding_all rfl
  have hsecond : Stage.pairs.pull path advance Usage.empty
      (Guarded.ofContent (.active (Guarded.ofContent (2 : Int64)))) =
        (.ok [[.ofScalar .int64 (2 : Int64)]], Guarded.ofContent .drained, Usage.empty) := by
    with_unfolding_all rfl
  have hidle (c : Call) (hc : c ∈ (State.start (.range 0 (some 3))).inFlight) :
      c.caller ≠ 0 := by
    cases hc
  have hother (pulled : Except Failure (List Element)) (c : Call)
      (hc : c ∈ [(⟨0, 0, pulled⟩ : Call)]) : c.caller ≠ 1 := by
    cases List.mem_singleton.mp hc
    exact Nat.zero_ne_one
  let unused : Nat -> Usage := fun _ => Usage.empty
  have hstart : Reachable Context.default Stage.pairs path unused unused
      (State.start (.range 0 (some 3))) :=
    Reachable.start
  have hpulled := hstart.step (Step.pull hidle hfirst)
  have hsaved := hpulled.step Step.save
  have hboth := hsaved.step (Step.pull (hother _) hsecond)
  have hlater := hboth.step (Step.answer (List.nil_append _).symm)
  have hearlier := hlater.step (Step.answer (List.nil_append _).symm)
  with_unfolding_all exact hearlier

end Shared

open Segmentation Shared in
theorem shared_calls_are_those_of_one_caller_out_of_turn :
    Reachable Context.default Stage.pairs
        ((Pipeline.batch Stage.pairs (.range 0 (some 3))).pathUnder "Iterator")
        (fun _ => Usage.empty) (fun _ => Usage.empty) outOfTurn ∧
      outOfTurn.Calm ∧
      (outOfTurn.answered.map Prod.snd).Perm
        ((List.range 2).map
          ((Pipeline.batch Stage.pairs (.range 0 (some 3))).answer Context.default
            ((Pipeline.batch Stage.pairs (.range 0 (some 3))).pathUnder "Iterator")
            fun _ => Usage.empty)) ∧
      exists it : Iterator,
        Iterator.restoredUnder (.batch Stage.pairs (.range 0 (some 3))) "Iterator"
            (Table.ofPairs [("Iterator::BatchV2::Range:next", .int 2)]) = .ok it ∧
          it.answer Context.default (fun _ => Usage.empty) 0 =
            .ok (some [⟨.int64, ⟨[1]⟩, [2, 0, 0, 0, 0, 0, 0, 0]⟩]) := by
  have hcalm : outOfTurn.Calm := by
    constructor
    · intro c hc
      cases hc
    · intro c result hc
      rcases List.mem_cons.mp hc with heq | hc
      · cases heq
        exact quiet_ok _
      · cases List.mem_singleton.mp hc
        exact quiet_ok _
  have hctx := Context.default_memoryless
  rcases shared_calls_are_those_of_one_caller reachable_outOfTurn with
    ⟨_, _, hanswers, _, _, hsaves⟩
  rcases hsaves hcalm trivial trivial 1 _ (List.mem_singleton.mpr rfl) with
    ⟨store, it, hstore, hnew, _, _, hnext, _⟩
  cases hstore
  refine ⟨reachable_outOfTurn, hcalm, (hanswers hctx _).2 rfl, it, hnew, ?_⟩
  rw [hnext hctx (fun _ => Usage.empty) (fun _ => Usage.empty) 0]
  with_unfolding_all rfl

end TensorPipeline
