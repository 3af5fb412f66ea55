import TensorPipeline.Proofs.Memoryless

/-!
# How a batch stage cuts its input

The answers of the input, taken by themselves, form a script.  A reference
reads that script from the front: each of its calls collects elements until
there are enough, an error is met, or the end is met, and the next call goes on
behind the last answer inspected.  A batch stage answers call by call as the
reference does, and its cursor stands where the reference stands.

The script is made of the answers that the pulls on the input really get.  Each
of them finds what the run has used by then, and an allocator with a memory may
answer accordingly; in a context without a memory the script is the one that the
input would give to anybody.
-/

namespace TensorPipeline
namespace Segmentation

abbrev Script := Nat -> Except Failure (Option Element)

/-- The elements among the answers from number `i` on, up to the first answer
that is none, and `room` of them at most. -/
def leading (script : Script) : Nat -> Nat -> List Element
  | 0, _ => []
  | room + 1, i =>
      match script i with
      | .ok (some e) => e :: leading script room (i + 1)
      | _ => []

/-- How many answers have been inspected, and whether the end was among
them. -/
structure Place where
  inspected : Nat
  ended : Bool
deriving DecidableEq, Repr

/-- Where one more call leads: behind the window if it is full, and else behind
the answer that cut it short. -/
def Place.next (size : Nat) (script : Script) (place : Place) : Place :=
  if place.ended then place
  else
    let window := leading script size place.inspected
    if window.length = size then ⟨place.inspected + size, false⟩
    else
      match script (place.inspected + window.length) with
      | .error _ => ⟨place.inspected + window.length + 1, false⟩
      | .ok _ => ⟨place.inspected + window.length + 1, true⟩

/-- What that call answers; `aggregate n` stacks a window once `n` answers have
been inspected. -/
def Place.answer (size : Nat) (dropRemainder : Bool) (script : Script)
    (aggregate : Nat -> List Element -> Except Failure (Option Element)) (place : Place) :
    Except Failure (Option Element) :=
  if place.ended then .ok none
  else
    let window := leading script size place.inspected
    if window.length = size then aggregate (place.inspected + size) window
    else
      match script (place.inspected + window.length) with
      | .error f => .error f
      | .ok _ =>
          if window.isEmpty || dropRemainder then .ok none
          else aggregate (place.inspected + window.length + 1) window

def placeBefore (size : Nat) (script : Script) : Nat -> Place
  | 0 => ⟨0, false⟩
  | n + 1 => (placeBefore size script n).next size script

/-!
## Pulls on the input
-/

/-- A stage between two pulls on its input: the number of its own call, the
elements still missing in that call's window, what the next pull finds used, and
the cursor of the input. -/
structure Pulling (γ : Type) where
  call : Nat
  room : Nat
  usage : Usage
  cursor : γ

section Pulls

variable {γ : Type} (advance : Usage -> γ -> Step γ) (start : γ) (size : Nat)
  (calls : Nat -> Usage)

def Pulling.next (x : Pulling γ) : Pulling γ :=
  match advance x.usage x.cursor with
  | ⟨.ok (some _), cursor, usage⟩ =>
      if x.room = 1 then ⟨x.call + 1, size, calls (x.call + 1), cursor⟩
      else ⟨x.call, x.room - 1, usage, cursor⟩
  | ⟨_, cursor, _⟩ => ⟨x.call + 1, size, calls (x.call + 1), cursor⟩

def pulling : Nat -> Pulling γ
  | 0 => ⟨0, size, calls 0, start⟩
  | n + 1 => (pulling n).next advance size calls

def pulls (n : Nat) : Usage := (pulling advance start size calls n).usage

theorem Pulling.next_cursor (x : Pulling γ) :
    (x.next advance size calls).cursor = (advance x.usage x.cursor).cursor := by
  unfold Pulling.next
  split
  · next h =>
      rw [h]
      split <;> rfl
  · next h => rw [h]

theorem cursorAfter_pulls (n : Nat) :
    cursorAfter advance start (pulls advance start size calls) n =
      (pulling advance start size calls n).cursor := by
  induction n with
  | zero => rfl
  | succ n ih =>
      rw [cursorAfter, ih]
      exact (Pulling.next_cursor advance size calls _).symm

theorem reply_pulls (n : Nat) :
    reply advance start (pulls advance start size calls) n =
      advance (pulling advance start size calls n).usage
        (pulling advance start size calls n).cursor := by
  rw [reply, cursorAfter_pulls]
  rfl

def pulledScript : Script := fun n =>
  (reply advance start (pulls advance start size calls) n).result

end Pulls

section Steps

variable {γ : Type} {advance : Usage -> γ -> Step γ} {size : Nat} {calls : Nat -> Usage}
  {result : Except Failure (Option Element)} {cursor : γ} {usage : Usage}

theorem Pulling.next_of_element
    {x : Pulling γ} {e : Element}
    (hstep : advance x.usage x.cursor = ⟨.ok (some e), cursor, usage⟩) :
    x.next advance size calls =
      if x.room = 1 then ⟨x.call + 1, size, calls (x.call + 1), cursor⟩
      else ⟨x.call, x.room - 1, usage, cursor⟩ := by
  rw [Pulling.next, hstep]

theorem Pulling.next_of_stop
    {x : Pulling γ} (hstep : advance x.usage x.cursor = ⟨result, cursor, usage⟩)
    (hstop : forall e : Element, result ≠ .ok (some e)) :
    x.next advance size calls = ⟨x.call + 1, size, calls (x.call + 1), cursor⟩ := by
  rw [Pulling.next, hstep]
  cases result with
  | error f => rfl
  | ok answer =>
      cases answer with
      | none => rfl
      | some e => exact absurd rfl (hstop e)

theorem pulledScript_of_step
    {start : γ} {i : Nat}
    (hstep : advance (pulling advance start size calls i).usage
      (pulling advance start size calls i).cursor = ⟨result, cursor, usage⟩) :
    pulledScript advance start size calls i = result ∧
      (reply advance start (pulls advance start size calls) i).usage = usage := by
  have hreply := reply_pulls advance start size calls i
  rw [hstep] at hreply
  exact ⟨congrArg Step.result hreply, congrArg Step.usage hreply⟩

end Steps

structure Pulling.Fresh {γ : Type} (size : Nat) (calls : Nat -> Usage) (call : Nat)
    (x : Pulling γ) : Prop where
  call_eq : x.call = call
  room_eq : x.room = size
  usage_eq : x.usage = calls call

/-!
## One window
-/

def prepend (front : List Element) : Pulled -> Pulled
  | .full w => .full (front ++ w)
  | .ended w => .ended (front ++ w)
  | .failed f => .failed f

inductive Window (script : Script) (room i : Nat) (w : List Element) : Pulled -> Nat -> Prop where
  | full : w.length = room -> Window script room i w (.full w) (i + room)
  | ended : w.length < room -> script (i + w.length) = .ok none ->
      Window script room i w (.ended w) (i + w.length + 1)
  | failed {f : Failure} : w.length < room -> script (i + w.length) = .error f ->
      Window script room i w (.failed f) (i + w.length + 1)

theorem Window.cons
    {script : Script} {room i : Nat} {w : List Element} {pulled : Pulled} {j : Nat}
    (h : Window script room (i + 1) w pulled j) (e : Element) :
    Window script (room + 1) i (e :: w) (prepend [e] pulled) j := by
  have hindex : i + 1 + w.length = i + (e :: w).length := by
    rw [List.length_cons]
    omega
  cases h with
  | full hlength =>
      rw [show i + 1 + room = i + (room + 1) by omega]
      exact Window.full (by rw [List.length_cons, hlength])
  | ended hlength hstop =>
      rw [hindex] at hstop ⊢
      exact Window.ended (by rw [List.length_cons]; omega) hstop
  | failed hlength hstop =>
      rw [hindex] at hstop ⊢
      exact Window.failed (by rw [List.length_cons]; omega) hstop

theorem script_of_leading
    {script : Script} {room i k : Nat} (hk : k < (leading script room i).length) :
    exists e : Element, script (i + k) = .ok (some e) := by
  induction room generalizing i k with
  | zero => exact absurd hk (Nat.not_lt_zero k)
  | succ room ih =>
      unfold leading at hk
      split at hk
      · next e he =>
          cases k with
          | zero => exact ⟨e, he⟩
          | succ k =>
              rcases ih (Nat.lt_of_succ_lt_succ hk) with ⟨e', he'⟩
              rw [Nat.add_assoc, Nat.add_comm 1] at he'
              exact ⟨e', he'⟩
      · exact absurd hk (Nat.not_lt_zero k)

theorem Window.failed_of_error
    {script : Script} {size i : Nat} {pulled : Pulled} {j : Nat}
    (h : Window script size i (leading script size i) pulled j) {k : Nat} (hle : i ≤ k)
    (hlt : k < j) {f : Failure} (herror : script k = .error f) :
    pulled = .failed f := by
  rcases Nat.exists_eq_add_of_le hle with ⟨d, rfl⟩
  have hbehind : (leading script size i).length ≤ d := by
    refine Nat.le_of_not_lt fun hd => ?_
    rcases script_of_leading hd with ⟨e, he⟩
    rw [herror] at he
    cases he
  cases h with
  | full hlength => omega
  | ended _ hstop =>
      rw [show d = (leading script size i).length by omega, hstop] at herror
      cases herror
  | failed _ hstop =>
      rw [show d = (leading script size i).length by omega, hstop] at herror
      cases herror
      rfl

section Pulls

variable {γ : Type} {advance : Usage -> γ -> Step γ} {start : γ} {size : Nat}
  {calls : Nat -> Usage}

def PullsWindow (advance : Usage -> γ -> Step γ) (start : γ) (size : Nat)
    (calls : Nat -> Usage) (room i : Nat) : Prop :=
  forall taken : List Element, exists (pulled : Pulled) (j : Nat),
    Window (pulledScript advance start size calls) room i
      (leading (pulledScript advance start size calls) room i) pulled j ∧
    pullWindow advance room taken (pulling advance start size calls i).usage
        (pulling advance start size calls i).cursor =
      (prepend taken.reverse pulled, (pulling advance start size calls j).cursor,
        (reply advance start (pulls advance start size calls) (j - 1)).usage) ∧
    (pulling advance start size calls j).Fresh size calls
      ((pulling advance start size calls i).call + 1)

theorem pullsWindow_of_stop
    {i : Nat} {result : Except Failure (Option Element)} {cursor : γ} {usage : Usage}
    (hstep : advance (pulling advance start size calls i).usage
      (pulling advance start size calls i).cursor = ⟨result, cursor, usage⟩)
    (hstop : forall e : Element, result ≠ .ok (some e)) (room : Nat) :
    PullsWindow advance start size calls (room + 1) i := by
  intro taken
  rcases pulledScript_of_step hstep with ⟨hscript, husage⟩
  have hsucc : pulling advance start size calls (i + 1) = _ :=
    Pulling.next_of_stop hstep hstop
  have hfresh : (pulling advance start size calls (i + 1)).Fresh size calls
      ((pulling advance start size calls i).call + 1) := by
    rw [hsucc]
    exact ⟨rfl, rfl, rfl⟩
  have hleading : leading (pulledScript advance start size calls) (room + 1) i = [] := by
    rw [leading, hscript]
    split
    · next e => exact absurd rfl (hstop e)
    · rfl
  rw [hleading]
  cases result with
  | error f =>
      refine ⟨.failed f, i + 1, Window.failed (Nat.succ_pos room) hscript, ?_, hfresh⟩
      rw [pullWindow, hstep, Nat.add_sub_cancel, husage, hsucc]
      rfl
  | ok answer =>
      cases answer with
      | some e => exact absurd rfl (hstop e)
      | none =>
          refine ⟨.ended [], i + 1, Window.ended (Nat.succ_pos room) hscript, ?_, hfresh⟩
          rw [pullWindow, hstep, Nat.add_sub_cancel, husage, hsucc]
          simp [prepend]

theorem pullsWindow
    (room i : Nat) (hroom : (pulling advance start size calls i).room = room + 1) :
    PullsWindow advance start size calls (room + 1) i := by
  -- by induction on the elements still missing after the next pull
  induction room generalizing i with
  | zero =>
      rcases hstep : advance (pulling advance start size calls i).usage
        (pulling advance start size calls i).cursor with ⟨_ | _ | e, cursor, usage⟩
      · exact pullsWindow_of_stop hstep (fun e h => by cases h) 0
      · exact pullsWindow_of_stop hstep (fun e h => by cases h) 0
      · intro taken
        rcases pulledScript_of_step hstep with ⟨hscript, husage⟩
        have hsucc : pulling advance start size calls (i + 1) = _ :=
          (Pulling.next_of_element hstep).trans (if_pos hroom)
        refine ⟨.full [e], i + 1, ?_, ?_, ?_⟩
        · rw [leading, hscript, leading]
          exact Window.full rfl
        · rw [pullWindow, hstep, hsucc, Nat.add_sub_cancel, husage]
          simp [pullWindow, prepend]
        · rw [hsucc]
          exact ⟨rfl, rfl, rfl⟩
  | succ room ih =>
      rcases hstep : advance (pulling advance start size calls i).usage
        (pulling advance start size calls i).cursor with ⟨_ | _ | e, cursor, usage⟩
      · exact pullsWindow_of_stop hstep (fun e h => by cases h) (room + 1)
      · exact pullsWindow_of_stop hstep (fun e h => by cases h) (room + 1)
      · intro taken
        have hmore : (pulling advance start size calls i).room ≠ 1 := by
          rw [hroom]
          omega
        have hsucc : pulling advance start size calls (i + 1) = _ :=
          (Pulling.next_of_element hstep).trans (if_neg hmore)
        rw [hroom, Nat.add_sub_cancel] at hsucc
        rcases ih (i + 1) (by rw [hsucc]) (e :: taken) with ⟨pulled, j, hwindow, hpull, hfresh⟩
        rw [hsucc] at hpull hfresh
        refine ⟨prepend [e] pulled, j, ?_, ?_, hfresh⟩
        · rw [leading, (pulledScript_of_step hstep).1]
          exact hwindow.cons e
        · rw [pullWindow, hstep]
          simp only
          rw [hpull]
          cases pulled <;> simp [prepend]

end Pulls

/-!
## The reference beside the stage
-/

def outcome (dropRemainder : Bool)
    (aggregate : List Element -> Except Failure (Option Element)) :
    Pulled -> Except Failure (Option Element)
  | .full w => aggregate w
  | .ended w => if w.isEmpty || dropRemainder then .ok none else aggregate w
  | .failed f => .error f

def metEnd : Pulled -> Bool
  | .ended _ => true
  | _ => false

section Reference

variable {script : Script} {size i : Nat} {pulled : Pulled} {j : Nat}

theorem Place.next_of_window
    (h : Window script size i (leading script size i) pulled j) :
    Place.next size script ⟨i, false⟩ = ⟨j, metEnd pulled⟩ := by
  unfold Place.next
  rw [if_neg Bool.false_ne_true]
  generalize leading script size i = w at h ⊢
  cases h with
  | full hlength => simp only [hlength, if_true, metEnd]
  | ended hlength hstop => simp only [Nat.ne_of_lt hlength, if_false, hstop, metEnd]
  | failed hlength hstop => simp only [Nat.ne_of_lt hlength, if_false, hstop, metEnd]

theorem Place.answer_of_window
    (h : Window script size i (leading script size i) pulled j) (dropRemainder : Bool)
    (aggregate : Nat -> List Element -> Except Failure (Option Element)) :
    Place.answer size dropRemainder script aggregate ⟨i, false⟩ =
      outcome dropRemainder (aggregate j) pulled := by
  unfold Place.answer
  rw [if_neg Bool.false_ne_true]
  generalize leading script size i = w at h ⊢
  cases h with
  | full hlength => simp only [hlength, if_true, outcome]
  | ended hlength hstop => simp only [Nat.ne_of_lt hlength, if_false, hstop, outcome]
  | failed hlength hstop => simp only [Nat.ne_of_lt hlength, if_false, hstop, outcome]

theorem Place.inspected_le_next (place : Place) :
    place.inspected ≤ (place.next size script).inspected := by
  unfold Place.next
  split
  · exact Nat.le_refl _
  · simp only
    split
    · exact Nat.le_add_right _ _
    · split
      · simp only
        omega
      · simp only
        omega

end Reference

def cellAt {γ : Type} (place : Place) (cursor : γ) : Guarded (Feed γ) :=
  Guarded.ofContent (if place.ended then .drained else .active cursor)

def inputScript (ctx : Context) (input : Pipeline) (path : String)
    (pulls : Nat -> Usage) : Script :=
  input.answer ctx (input.pathUnder path) pulls

def stackAfter (ctx : Context) (s : Stage) (input : Pipeline) (path : String)
    (pulls : Nat -> Usage) (n : Nat) (window : List Element) :
    Except Failure (Option Element) :=
  (stack ctx s.parallelCopy (input.reply ctx (input.pathUnder path) pulls (n - 1)).usage
    window).1.map some

/-- The stage answers as the reference does on the script of its input, call by
call and for as long as the answers inspected are no crashes, and its input has
been pulled as often as the reference has inspected. -/
def Follows (ctx : Context) (s : Stage) (input : Pipeline) (path : String)
    (calls pulls : Nat -> Usage) : Prop :=
  forall n : Nat,
    (forall i : Nat,
      i < (placeBefore s.size (inputScript ctx input path pulls) (n + 1)).inspected ->
      forall c : Crash, inputScript ctx input path pulls i ≠ .error (.crash c)) ->
    (Pipeline.batch s input).answer ctx path calls n =
        (placeBefore s.size (inputScript ctx input path pulls) n).answer s.size
          s.dropRemainder (inputScript ctx input path pulls)
          (stackAfter ctx s input path pulls) ∧
      (Pipeline.batch s input).cursorAfter ctx path calls (n + 1) =
        cellAt (placeBefore s.size (inputScript ctx input path pulls) (n + 1))
          (input.cursorAfter ctx (input.pathUnder path) pulls
            (placeBefore s.size (inputScript ctx input path pulls) (n + 1)).inspected)

section Stage

variable {ctx : Context} {s : Stage} {input : Pipeline} {path : String}
  {calls : Nat -> Usage}

def inputPulls (ctx : Context) (s : Stage) (input : Pipeline) (path : String)
    (calls : Nat -> Usage) : Nat -> Usage :=
  pulls (input.advance ctx (input.pathUnder path)) input.start s.size calls

def inputPulling (ctx : Context) (s : Stage) (input : Pipeline) (path : String)
    (calls : Nat -> Usage) : Nat -> Pulling (Cursor input) :=
  pulling (input.advance ctx (input.pathUnder path)) input.start s.size calls

theorem pull_of_fresh
    (hsize : s.size ≤ Stage.windowLimit) {i n : Nat}
    (hfresh : (inputPulling ctx s input path calls i).Fresh s.size calls n) :
    exists (pulled : Pulled) (j : Nat),
      Window (inputScript ctx input path (inputPulls ctx s input path calls))
        s.size i
        (leading (inputScript ctx input path (inputPulls ctx s input path calls))
          s.size i) pulled j ∧
      (inputPulling ctx s input path calls j).Fresh s.size calls (n + 1) ∧
      s.pull path (input.advance ctx (input.pathUnder path)) (calls n)
          (Guarded.ofContent (.active (inputPulling ctx s input path calls i).cursor)) =
        match pulled, (input.reply ctx (input.pathUnder path)
          (inputPulls ctx s input path calls) (j - 1)).usage with
        | .full window, usage =>
            (.ok window,
              Guarded.ofContent (.active (inputPulling ctx s input path calls j).cursor), usage)
        | .ended window, usage => (.ok window, Guarded.ofContent .drained, usage)
        | .failed f, usage =>
            (.error f,
              ⟨.active (inputPulling ctx s input path calls j).cursor, f.poisons⟩, usage) := by
  have hwindow : PullsWindow (input.advance ctx (input.pathUnder path)) input.start s.size
      calls s.size i := by
    rcases Nat.exists_eq_succ_of_ne_zero (Nat.ne_of_gt s.size_pos) with ⟨room, hroom⟩
    have hpulls := pullsWindow room i (hfresh.room_eq.trans hroom)
    rw [← Nat.succ_eq_add_one, ← hroom] at hpulls
    exact hpulls
  rcases hwindow [] with ⟨pulled, j, hread, hpull, hnext⟩
  rw [show (pulling (input.advance ctx (input.pathUnder path)) input.start s.size calls i).call =
    n from hfresh.call_eq] at hnext
  refine ⟨pulled, j, hread, hnext, ?_⟩
  have husage : (inputPulling ctx s input path calls i).usage = calls n := hfresh.usage_eq
  have hpull' : pullWindow (input.advance ctx (input.pathUnder path)) s.size [] (calls n)
      (inputPulling ctx s input path calls i).cursor =
        (pulled, (inputPulling ctx s input path calls j).cursor,
          (input.reply ctx (input.pathUnder path) (inputPulls ctx s input path calls)
            (j - 1)).usage) := by
    rw [← husage]
    rw [show prepend (List.reverse []) pulled = pulled by cases pulled <;> rfl] at hpull
    exact hpull
  rw [Stage.pull_of_active hsize, hpull']
  cases pulled with
  | full window => rfl
  | ended window => rfl
  | failed f => rfl

theorem advance_of_fresh
    (hsize : s.size ≤ Stage.windowLimit) {i n : Nat}
    (hfresh : (inputPulling ctx s input path calls i).Fresh s.size calls n) :
    exists (pulled : Pulled) (j : Nat),
      Window (inputScript ctx input path (inputPulls ctx s input path calls))
        s.size i
        (leading (inputScript ctx input path (inputPulls ctx s input path calls))
          s.size i) pulled j ∧
      (inputPulling ctx s input path calls j).Fresh s.size calls (n + 1) ∧
      ((forall c : Crash, pulled ≠ .failed (.crash c)) ->
        ((Pipeline.batch s input).advance ctx path (calls n)
            (Guarded.ofContent (.active (inputPulling ctx s input path calls i).cursor))).result =
          outcome s.dropRemainder
            (stackAfter ctx s input path (inputPulls ctx s input path calls) j) pulled ∧
        ((Pipeline.batch s input).advance ctx path (calls n)
            (Guarded.ofContent (.active (inputPulling ctx s input path calls i).cursor))).cursor =
          cellAt ⟨j, metEnd pulled⟩ (inputPulling ctx s input path calls j).cursor) := by
  rcases pull_of_fresh hsize hfresh with ⟨pulled, j, hread, hnext, hpull⟩
  refine ⟨pulled, j, hread, hnext, ?_⟩
  intro hsafe
  rw [Pipeline.advance_batch, hpull]
  generalize leading (inputScript ctx input path (inputPulls ctx s input path calls)) s.size i =
    w at hread
  cases hread with
  | full hlength =>
      exact ⟨Stage.deliver_of_full hlength ctx _, rfl⟩
  | ended hlength hstop =>
      exact ⟨Stage.deliver_of_short hlength ctx _, rfl⟩
  | failed hlength hstop =>
      rename_i f
      cases f with
      | error e => exact ⟨rfl, rfl⟩
      | crash c => exact absurd rfl (hsafe c)

/-- The invariant of a run: the cell is the one at the reference's place, and
while the input is not used up the next pull is the first of the next call. -/
structure Invariant (ctx : Context) (s : Stage) (input : Pipeline) (path : String)
    (calls : Nat -> Usage) (n : Nat) (place : Place) : Prop where
  cell_eq : (Pipeline.batch s input).cursorAfter ctx path calls n =
    cellAt place (inputPulling ctx s input path calls place.inspected).cursor
  fresh : place.ended = false ->
    (inputPulling ctx s input path calls place.inspected).Fresh s.size calls n

theorem Invariant.start : Invariant ctx s input path calls 0 ⟨0, false⟩ where
  cell_eq := rfl
  fresh _ := ⟨rfl, rfl, rfl⟩

theorem Invariant.next
    (hsize : s.size ≤ Stage.windowLimit) {n : Nat} {place : Place}
    (h : Invariant ctx s input path calls n place)
    (hsafe : forall i : Nat,
      i < (place.next s.size
        (inputScript ctx input path (inputPulls ctx s input path calls))).inspected ->
      forall c : Crash,
        inputScript ctx input path (inputPulls ctx s input path calls) i ≠
          .error (.crash c)) :
    (Pipeline.batch s input).answer ctx path calls n =
        place.answer s.size s.dropRemainder
          (inputScript ctx input path (inputPulls ctx s input path calls))
          (stackAfter ctx s input path (inputPulls ctx s input path calls)) ∧
      Invariant ctx s input path calls (n + 1)
        (place.next s.size
          (inputScript ctx input path (inputPulls ctx s input path calls))) := by
  rcases place with ⟨i, ended⟩
  cases ended with
  | true =>
      -- nothing is left to pull, and the stage keeps answering with the end
      have hcell : (Pipeline.batch s input).cursorAfter ctx path calls n =
          Guarded.ofContent .drained := h.cell_eq
      refine ⟨?_, ?_, fun hopen => by cases hopen⟩
      · rw [Pipeline.answer, Pipeline.reply_eq, hcell, Pipeline.advance_batch,
          Stage.pull_of_drained]
        rfl
      · rw [Pipeline.cursorAfter_succ, Pipeline.reply_eq, hcell, Pipeline.advance_batch,
          Stage.pull_of_drained]
        rfl
  | false =>
      have hcell : (Pipeline.batch s input).cursorAfter ctx path calls n =
          Guarded.ofContent (.active (inputPulling ctx s input path calls i).cursor) := h.cell_eq
      rcases advance_of_fresh hsize (h.fresh rfl) with ⟨pulled, j, hread, hfresh, hstep⟩
      have hplace := Place.next_of_window hread
      have hanswer := Place.answer_of_window hread s.dropRemainder
        (stackAfter ctx s input path (inputPulls ctx s input path calls))
      rw [hplace] at hsafe ⊢
      have hpulled : forall c : Crash, pulled ≠ .failed (.crash c) := by
        intro c hcrash
        cases hcrash
        cases hread with
        | failed _ hstop => exact hsafe _ (Nat.lt_succ_self _) c hstop
      rcases hstep hpulled with ⟨hresult, hcursor⟩
      refine ⟨?_, ?_, fun _ => hfresh⟩
      · rw [Pipeline.answer, Pipeline.reply_eq, hcell, hanswer]
        exact hresult
      · rw [Pipeline.cursorAfter_succ, Pipeline.reply_eq, hcell]
        exact hcursor

theorem inspected_le_of_le
    (size : Nat) (script : Script) {m n : Nat} (h : m ≤ n) :
    (placeBefore size script m).inspected ≤ (placeBefore size script n).inspected := by
  induction h with
  | refl => exact Nat.le_refl _
  | step _ ih => exact Nat.le_trans ih (Place.inspected_le_next _)

theorem Invariant.after
    (hsize : s.size ≤ Stage.windowLimit) (n : Nat)
    (hsafe : forall i : Nat,
      i < (placeBefore s.size
        (inputScript ctx input path (inputPulls ctx s input path calls)) n).inspected ->
      forall c : Crash,
        inputScript ctx input path (inputPulls ctx s input path calls) i ≠
          .error (.crash c)) :
    Invariant ctx s input path calls n
      (placeBefore s.size (inputScript ctx input path (inputPulls ctx s input path calls)) n) := by
  induction n with
  | zero => exact Invariant.start
  | succ n ih =>
      have hbefore := ih fun i hi =>
        hsafe i (Nat.lt_of_lt_of_le hi (inspected_le_of_le _ _ (Nat.le_succ n)))
      exact (hbefore.next hsize hsafe).2

theorem follows_inputPulls (hsize : s.size ≤ Stage.windowLimit) :
    Follows ctx s input path calls (inputPulls ctx s input path calls) := by
  intro n hsafe
  have hbefore := Invariant.after hsize n fun i hi =>
    hsafe i (Nat.lt_of_lt_of_le hi (inspected_le_of_le _ _ (Nat.le_succ n)))
  rcases hbefore.next hsize hsafe with ⟨hanswer, hafter⟩
  refine ⟨hanswer, hafter.cell_eq.trans ?_⟩
  rw [Pipeline.cursorAfter, inputPulls, cursorAfter_pulls]
  rfl

end Stage

end Segmentation

open Segmentation in
/-- A batch stage over any pipeline cuts the answers of its input as the
reference does.  The answers are those of the pulls that the stage makes; in a
context without a memory they are the answers that successive pulls on a fresh
cursor of the input get at any time. -/
theorem batch_follows_reference
    (ctx : Context) (s : Stage) (input : Pipeline) (path : String) (calls : Nat -> Usage)
    (hsize : s.size ≤ Stage.windowLimit) :
    Follows ctx s input path calls (inputPulls ctx s input path calls) ∧
      (ctx.Memoryless -> forall pulls : Nat -> Usage, Follows ctx s input path calls pulls) := by
  refine ⟨follows_inputPulls hsize, ?_⟩
  intro hctx pulls
  have hscript : inputScript ctx input path pulls =
      inputScript ctx input path (inputPulls ctx s input path calls) :=
    funext (hctx.answer_eq input (input.pathUnder path) _ _)
  have hstack : stackAfter ctx s input path pulls =
      stackAfter ctx s input path (inputPulls ctx s input path calls) := by
    funext n window
    exact congrArg (Except.map some) (hctx.stack_eq s.parallelCopy _ _ window)
  intro n
  rw [hscript, hstack,
    hctx.cursorAfter_eq input (input.pathUnder path) pulls (inputPulls ctx s input path calls)]
  exact follows_inputPulls hsize n

def pairsPastFault : Stage × Pipeline :=
  (Stage.pairs, .faulty 1 (.range 0 (some 4)))

open Segmentation in
theorem batch_follows_reference_past_fault :
    pairsPastFault.1.size ≤ Stage.windowLimit ∧
      Context.default.Memoryless ∧
      (forall i : Nat, i < 6 -> forall c : Crash,
        inputScript Context.default pairsPastFault.2 "Iterator::BatchV2"
          (fun _ => Usage.empty) i ≠ .error (.crash c)) ∧
      (Pipeline.batch pairsPastFault.1 pairsPastFault.2).answer Context.default
          "Iterator::BatchV2" (fun _ => Usage.empty) 2 =
        .ok (some [⟨.int64, ⟨[1]⟩, [3, 0, 0, 0, 0, 0, 0, 0]⟩]) := by
  have hsize : pairsPastFault.1.size ≤ Stage.windowLimit := by decide
  have hsafe : forall i : Nat, i < 6 -> forall c : Crash,
      inputScript Context.default pairsPastFault.2 "Iterator::BatchV2"
        (fun _ => Usage.empty) i ≠ .error (.crash c) := by
    have hcheck : forall i : Nat, i < 6 ->
        (match inputScript Context.default pairsPastFault.2 "Iterator::BatchV2"
          (fun _ => Usage.empty) i with
        | .error f => f.poisons
        | .ok _ => false) = false := by decide
    intro i hi c hcrash
    have hi := hcheck i hi
    rw [hcrash] at hi
    cases hi
  refine ⟨hsize, Context.default_memoryless, hsafe, ?_⟩
  have hfollows := (batch_follows_reference Context.default pairsPastFault.1 pairsPastFault.2
    "Iterator::BatchV2" (fun _ => Usage.empty) hsize).2 Context.default_memoryless
    (fun _ => Usage.empty) 2 hsafe
  exact hfollows.1.trans (by with_unfolding_all rfl)

end TensorPipeline
