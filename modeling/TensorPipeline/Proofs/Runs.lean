import TensorPipeline.Iterator

/-!
# Runs of calls

An iterator is called again and again while others may use the same allocator
and the same tallies.  A run is therefore a sequence of calls together with the
usage that each of them finds.  Nothing is assumed about that sequence: it may
be the one that the calls leave behind themselves, or the one of an iterator
among many.
-/

namespace TensorPipeline

/-- The cursor after `n` calls from `start` on, of which number `i` finds
`usage i`. -/
def cursorAfter {γ : Type} (advance : Usage -> γ -> Step γ) (start : γ)
    (usage : Nat -> Usage) : Nat -> γ
  | 0 => start
  | n + 1 => (advance (usage n) (cursorAfter advance start usage n)).cursor

def reply {γ : Type} (advance : Usage -> γ -> Step γ) (start : γ)
    (usage : Nat -> Usage) (n : Nat) : Step γ :=
  advance (usage n) (cursorAfter advance start usage n)

theorem cursorAfter_succ
    {γ : Type} (advance : Usage -> γ -> Step γ) (start : γ)
    (usage : Nat -> Usage) (n : Nat) :
    cursorAfter advance start usage (n + 1) = (reply advance start usage n).cursor :=
  rfl

theorem cursorAfter_add
    {γ : Type} (advance : Usage -> γ -> Step γ) (start : γ)
    (usage : Nat -> Usage) (k n : Nat) :
    cursorAfter advance start usage (k + n) =
      cursorAfter advance (cursorAfter advance start usage k) (fun i => usage (k + i)) n := by
  induction n with
  | zero => rfl
  | succ n ih =>
      rw [← Nat.add_assoc, cursorAfter_succ, cursorAfter_succ, reply, ih]
      rfl

theorem cursorAfter_congr
    {γ : Type} {advance : Usage -> γ -> Step γ} {start : γ} {us vs : Nat -> Usage} {n : Nat}
    (h : forall i : Nat, i < n -> us i = vs i) :
    cursorAfter advance start us n = cursorAfter advance start vs n := by
  induction n with
  | zero => rfl
  | succ n ih =>
      rw [cursorAfter_succ, cursorAfter_succ, reply, reply, h n (Nat.lt_succ_self n),
        ih fun i hi => h i (Nat.lt_succ_of_lt hi)]

theorem reply_congr
    {γ : Type} {advance : Usage -> γ -> Step γ} {start : γ} {us vs : Nat -> Usage} {n : Nat}
    (h : forall i : Nat, i ≤ n -> us i = vs i) :
    reply advance start us n = reply advance start vs n := by
  rw [reply, reply, h n (Nat.le_refl n), cursorAfter_congr fun i hi => h i (Nat.le_of_lt hi)]

namespace Pipeline

def cursorAfter (p : Pipeline) (ctx : Context) (path : String) (usage : Nat -> Usage)
    (n : Nat) : Cursor p :=
  TensorPipeline.cursorAfter (p.advance ctx path) p.start usage n

def reply (p : Pipeline) (ctx : Context) (path : String) (usage : Nat -> Usage)
    (n : Nat) : Step (Cursor p) :=
  TensorPipeline.reply (p.advance ctx path) p.start usage n

def answer (p : Pipeline) (ctx : Context) (path : String) (usage : Nat -> Usage)
    (n : Nat) : Except Failure (Option Element) :=
  (p.reply ctx path usage n).result

theorem cursorAfter_succ
    (p : Pipeline) (ctx : Context) (path : String) (usage : Nat -> Usage) (n : Nat) :
    p.cursorAfter ctx path usage (n + 1) = (p.reply ctx path usage n).cursor :=
  rfl

theorem reply_eq
    (p : Pipeline) (ctx : Context) (path : String) (usage : Nat -> Usage) (n : Nat) :
    p.reply ctx path usage n =
      p.advance ctx path (usage n) (p.cursorAfter ctx path usage n) :=
  rfl

end Pipeline

/-- The answers of an iterator to its next calls, of which number `i` finds
`usage i`. -/
def Iterator.answer (it : Iterator) (ctx : Context) (usage : Nat -> Usage) (n : Nat) :
    Except Failure (Option Element) :=
  (reply (it.pipeline.advance ctx it.path) it.cursor usage n).result

theorem Iterator.answer_cursorAfter
    (p : Pipeline) (ctx : Context) (path : String) (usage : Nat -> Usage) (k n : Nat) :
    Iterator.answer ⟨p, path, p.cursorAfter ctx path usage k⟩ ctx (fun i => usage (k + i)) n =
      p.answer ctx path usage (k + n) := by
  rw [answer, Pipeline.answer, Pipeline.reply, reply, reply, cursorAfter_add]
  rfl

/-!
## Small stages

The theorems about runs are seen at work on stages of these.
-/

def Stage.singles : Stage := ⟨1, by decide, by decide, false, false, .v2⟩

def Stage.pairs : Stage := ⟨2, by decide, by decide, false, false, .v2⟩

end TensorPipeline
