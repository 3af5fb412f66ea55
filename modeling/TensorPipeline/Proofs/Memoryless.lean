import TensorPipeline.Proofs.Simulation

/-!
# Contexts without a memory

An allocator may let its answers depend on the requests it has had before, and
a pool may order its copies by them.  In a context that does neither, what a
pull answers and where it leaves the cursor do not depend on what has been used
by then; the answers of an iterator are then a sequence of its own, whatever
other iterators do in between.
-/

namespace TensorPipeline

/-- Requests are answered without regard to earlier ones. -/
def Allocator.Memoryless (a : Allocator) : Prop :=
  forall (earlier earlier' : List UInt64) (bytes : UInt64),
    a.serve earlier bytes = a.serve earlier' bytes

/-- The allocator answers and the pool orders without regard to earlier
requests. -/
structure Context.Memoryless (ctx : Context) : Prop where
  serve_eq : forall (earlier earlier' : List UInt64) (bytes : UInt64),
    ctx.allocator.serve earlier bytes = ctx.allocator.serve earlier' bytes
  order_eq : forall (earlier earlier' : List UInt64) (n : Nat),
    ctx.pool.schedule.order earlier n = ctx.pool.schedule.order earlier' n

theorem Context.default_memoryless : Context.default.Memoryless where
  serve_eq _ _ _ := rfl
  order_eq _ _ _ := rfl

namespace Context.Memoryless

variable {ctx : Context}

def anyUsage : Likeness where
  failures := Eq
  usages _ _ := True
  failures_refl _ := rfl
  poisons_eq h := congrArg Failure.poisons h
  usages_bump _ _ := trivial

theorem anyUsage_answers_iff {α : Type} {a b : Except Failure α} :
    anyUsage.Answers a b <-> a = b :=
  Likeness.answers_iff_eq rfl

theorem hiddenFrom (h : ctx.Memoryless) : anyUsage.HiddenFrom ctx where
  serve_eq bytes _ := h.serve_eq _ _ bytes
  order_eq _ := funext (h.order_eq _ _)
  request _ _ := trivial

theorem stack_eq
    (h : ctx.Memoryless) (parallel : Bool) (u v : Usage) (window : List Element) :
    (stack ctx parallel u window).1 = (stack ctx parallel v window).1 :=
  anyUsage_answers_iff.mp (h.hiddenFrom.stack_alike trivial parallel window).1

theorem advance_simulates (h : ctx.Memoryless) (p : Pipeline) (path : String) :
    anyUsage.Simulates (p.CursorsAlike p) (p.advance ctx path) (p.advance ctx path) :=
  p.advance_simulates_self
    (fun parallel window husage => h.hiddenFrom.stack_alike husage parallel window) path

theorem answer_eq
    (h : ctx.Memoryless) (p : Pipeline) (path : String) (us vs : Nat -> Usage) (n : Nat) :
    p.answer ctx path us n = p.answer ctx path vs n :=
  anyUsage_answers_iff.mp
    (reply_alike (h.advance_simulates p path) (fun _ => trivial)
      (Pipeline.cursorsAlike_self_iff.mpr rfl) n).result

theorem cursorAfter_eq
    (h : ctx.Memoryless) (p : Pipeline) (path : String) (us vs : Nat -> Usage) (n : Nat) :
    p.cursorAfter ctx path us n = p.cursorAfter ctx path vs n :=
  Pipeline.cursorsAlike_self_iff.mp
    (cursorAfter_alike (h.advance_simulates p path) (fun _ => trivial)
      (Pipeline.cursorsAlike_self_iff.mpr rfl) n)

theorem answer_after
    (h : ctx.Memoryless) (p : Pipeline) (path : String) (us ws usage : Nat -> Usage)
    (k n : Nat) :
    Iterator.answer ⟨p, path, p.cursorAfter ctx path us k⟩ ctx ws n =
      p.answer ctx path usage (k + n) :=
  anyUsage_answers_iff.mp
    (Pipeline.answers_after (h.advance_simulates p path) (fun _ _ => trivial) us ws usage k n)

end Context.Memoryless

end TensorPipeline
