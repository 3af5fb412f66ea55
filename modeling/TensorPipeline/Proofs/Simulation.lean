import TensorPipeline.Proofs.Runs

/-!
# One run beside another

Two runs of calls are compared call by call.  What they may differ in is a
`Likeness`: which failures count as alike, and which usages may stand beside
each other.  A likeness that the calls of the inputs keep is kept by the window
that a batch stage pulls, by the stage itself, and so by every pull on two
pipelines that differ only in how their stages copy.  If the inputs keep it in pulls
of one kind only, a stage still does in the calls whose pulls are all of that kind.
-/

namespace TensorPipeline

/-- What two runs may differ in.  Failures alike have the same effect on the
locks that are held, and one more pull on a tally keeps usages alike. -/
structure Likeness where
  failures : Failure -> Failure -> Prop
  usages : Usage -> Usage -> Prop
  failures_refl : forall f : Failure, failures f f
  poisons_eq : forall {f g : Failure}, failures f g -> f.poisons = g.poisons
  usages_bump : forall {u v : Usage} (tally : Nat),
    usages u v -> usages (u.bump tally) (v.bump tally)

namespace Likeness

inductive Answers (L : Likeness) {α : Type} : Except Failure α -> Except Failure α -> Prop where
  | ok (a : α) : Answers L (.ok a) (.ok a)
  | error {f g : Failure} : L.failures f g -> Answers L (.error f) (.error g)

def Outcomes (L : Likeness) {α : Type} (a b : Except Failure α × Usage) : Prop :=
  L.Answers a.1 b.1 ∧ L.usages a.2 b.2

inductive Windows (L : Likeness) : Pulled -> Pulled -> Prop where
  | full (w : List Element) : Windows L (.full w) (.full w)
  | ended (w : List Element) : Windows L (.ended w) (.ended w)
  | failed {f g : Failure} : L.failures f g -> Windows L (.failed f) (.failed g)

structure Steps (L : Likeness) {γ δ : Type} (C : γ -> δ -> Prop)
    (a : Step γ) (b : Step δ) : Prop where
  result : L.Answers a.result b.result
  cursor : C a.cursor b.cursor
  usage : L.usages a.usage b.usage

def Simulates (L : Likeness) {γ δ : Type} (C : γ -> δ -> Prop)
    (f : Usage -> γ -> Step γ) (g : Usage -> δ -> Step δ) : Prop :=
  forall (u v : Usage) (c : γ) (d : δ),
    L.usages u v -> C c d -> L.Steps C (f u c) (g v d)

def SimulatesWhere (L : Likeness) {γ δ : Type} (condition : Usage -> γ -> Prop)
    (C : γ -> δ -> Prop) (f : Usage -> γ -> Step γ) (g : Usage -> δ -> Step δ) : Prop :=
  forall (u v : Usage) (c : γ) (d : δ),
    condition u c -> L.usages u v -> C c d -> L.Steps C (f u c) (g v d)

theorem Simulates.anywhere
    {L : Likeness} {γ δ : Type} {C : γ -> δ -> Prop} {f : Usage -> γ -> Step γ}
    {g : Usage -> δ -> Step δ} (h : L.Simulates C f g) :
    L.SimulatesWhere (fun _ _ => True) C f g :=
  fun u v c d _ husage hcursor => h u v c d husage hcursor

theorem answers_refl (L : Likeness) {α : Type} (a : Except Failure α) :
    L.Answers a a := by
  cases a with
  | ok a => exact Answers.ok a
  | error f => exact Answers.error (L.failures_refl f)

theorem Answers.map
    {L : Likeness} {α β : Type} {a b : Except Failure α} (h : L.Answers a b) (f : α -> β) :
    L.Answers (a.map f) (b.map f) := by
  cases h with
  | ok a => exact Answers.ok (f a)
  | error h => exact Answers.error h

theorem Answers.symm
    {L : Likeness} (hfailures : Equivalence L.failures) {α : Type} {a b : Except Failure α}
    (h : L.Answers a b) : L.Answers b a := by
  cases h with
  | ok a => exact Answers.ok a
  | error h => exact Answers.error (hfailures.symm h)

theorem Answers.trans
    {L : Likeness} (hfailures : Equivalence L.failures) {α : Type} {a b c : Except Failure α}
    (h : L.Answers a b) (h' : L.Answers b c) : L.Answers a c := by
  cases h with
  | ok a => exact h'
  | error h =>
      cases h' with
      | error h' => exact Answers.error (hfailures.trans h h')

theorem answers_iff_eq
    {L : Likeness} (hfailures : L.failures = Eq) {α : Type} {a b : Except Failure α} :
    L.Answers a b <-> a = b := by
  constructor
  · intro h
    cases h with
    | ok a => rfl
    | error h =>
        rw [hfailures] at h
        exact congrArg Except.error h
  · rintro rfl
    exact L.answers_refl a

end Likeness

inductive Feed.Alike {γ δ : Type} (C : γ -> δ -> Prop) : Feed γ -> Feed δ -> Prop where
  | active {c : γ} {d : δ} : C c d -> Feed.Alike C (.active c) (.active d)
  | drained : Feed.Alike C .drained .drained

structure Guarded.Alike {α β : Type} (C : α -> β -> Prop)
    (a : Guarded α) (b : Guarded β) : Prop where
  content : C a.content b.content
  poisoned : a.poisoned = b.poisoned

/-!
## Runs
-/

section Run

variable {L : Likeness} {γ δ : Type} {C : γ -> δ -> Prop}
  {f : Usage -> γ -> Step γ} {g : Usage -> δ -> Step δ}
  {c : γ} {d : δ} {us vs : Nat -> Usage}

theorem cursorAfter_alike
    (hsim : L.Simulates C f g) (husages : forall i, L.usages (us i) (vs i))
    (hstart : C c d) (n : Nat) :
    C (cursorAfter f c us n) (cursorAfter g d vs n) := by
  induction n with
  | zero => exact hstart
  | succ n ih => exact (hsim _ _ _ _ (husages n) ih).cursor

theorem reply_alike
    (hsim : L.Simulates C f g) (husages : forall i, L.usages (us i) (vs i))
    (hstart : C c d) (n : Nat) :
    L.Steps C (reply f c us n) (reply g d vs n) :=
  hsim _ _ _ _ (husages n) (cursorAfter_alike hsim husages hstart n)

end Run

/-!
## Windows
-/

def Throughout {γ : Type} (condition : Usage -> γ -> Prop) (advance : Usage -> γ -> Step γ) :
    Nat -> Usage -> γ -> Prop
  | 0, _, _ => True
  | room + 1, usage, cursor =>
      condition usage cursor ∧
        match advance usage cursor with
        | ⟨.ok (some _), cursor, usage⟩ => Throughout condition advance room usage cursor
        | _ => True

def Stage.PullsMeet {γ : Type} (s : Stage) (condition : Usage -> γ -> Prop)
    (advance : Usage -> γ -> Step γ) (usage : Usage) (cell : Guarded (Feed γ)) : Prop :=
  match cell.content with
  | .drained => True
  | .active cursor =>
      cell.poisoned = false -> s.size ≤ windowLimit ->
        Throughout condition advance s.size usage cursor

instance Throughout.decidable
    {γ : Type} {condition : Usage -> γ -> Prop}
    [forall (usage : Usage) (cursor : γ), Decidable (condition usage cursor)]
    (advance : Usage -> γ -> Step γ) :
    (room : Nat) -> (usage : Usage) -> (cursor : γ) ->
      Decidable (Throughout condition advance room usage cursor)
  | 0, _, _ => isTrue trivial
  | room + 1, usage, cursor =>
      let _ : Decidable
          (match advance usage cursor with
          | ⟨.ok (some _), cursor, usage⟩ => Throughout condition advance room usage cursor
          | _ => True) :=
        match advance usage cursor with
        | ⟨.ok (some _), cursor, usage⟩ => decidable advance room usage cursor
        | ⟨.ok none, _, _⟩ => isTrue trivial
        | ⟨.error _, _, _⟩ => isTrue trivial
      inferInstanceAs (Decidable (condition usage cursor ∧ _))

instance Stage.PullsMeet.decidable
    {γ : Type} {condition : Usage -> γ -> Prop}
    [forall (usage : Usage) (cursor : γ), Decidable (condition usage cursor)]
    (s : Stage) (advance : Usage -> γ -> Step γ) (usage : Usage) :
    (cell : Guarded (Feed γ)) -> Decidable (s.PullsMeet condition advance usage cell)
  | ⟨.drained, _⟩ => isTrue trivial
  | ⟨.active cursor, poisoned⟩ => inferInstanceAs
      (Decidable (poisoned = false -> s.size ≤ Stage.windowLimit ->
        Throughout condition advance s.size usage cursor))

section Window

variable {L : Likeness} {γ δ : Type} {C : γ -> δ -> Prop} {condition : Usage -> γ -> Prop}
  {f : Usage -> γ -> Step γ} {g : Usage -> δ -> Step δ}

theorem throughout_of_forall
    (h : forall (usage : Usage) (cursor : γ), condition usage cursor) (room : Nat)
    (usage : Usage) (cursor : γ) : Throughout condition f room usage cursor := by
  induction room generalizing usage cursor with
  | zero => trivial
  | succ room ih =>
      refine ⟨h usage cursor, ?_⟩
      split
      · exact ih _ _
      · trivial

theorem Stage.pullsMeet_of_forall
    (h : forall (usage : Usage) (cursor : γ), condition usage cursor) (s : Stage)
    (usage : Usage) (cell : Guarded (Feed γ)) : s.PullsMeet condition f usage cell := by
  unfold PullsMeet
  split
  · trivial
  · intro _ _
    exact throughout_of_forall h s.size usage _

theorem failed_of_not_throughout
    {cause : Failure -> Prop}
    (h : forall (usage : Usage) (cursor : γ), ¬ condition usage cursor ->
      exists failure : Failure, cause failure ∧ (f usage cursor).result = .error failure)
    (room : Nat) (taken : List Element) {usage : Usage} {cursor : γ}
    (hnot : ¬ Throughout condition f room usage cursor) :
    exists failure : Failure,
      cause failure ∧ (pullWindow f room taken usage cursor).1 = .failed failure := by
  induction room generalizing taken usage cursor with
  | zero => exact absurd trivial hnot
  | succ room ih =>
      unfold pullWindow
      rcases hstep : f usage cursor with ⟨result, cursor', usage'⟩
      by_cases hmeets : condition usage cursor
      · rw [Throughout, hstep] at hnot
        cases result with
        | error failure => exact absurd ⟨hmeets, trivial⟩ hnot
        | ok answer =>
            cases answer with
            | none => exact absurd ⟨hmeets, trivial⟩ hnot
            | some e => exact ih (e :: taken) fun hrest => hnot ⟨hmeets, hrest⟩
      · rcases h usage cursor hmeets with ⟨failure, hcause, hfailed⟩
        rw [hstep] at hfailed
        cases hfailed
        exact ⟨failure, hcause, rfl⟩

theorem Stage.failed_of_not_pullsMeet
    {cause : Failure -> Prop}
    (h : forall (usage : Usage) (cursor : γ), ¬ condition usage cursor ->
      exists failure : Failure, cause failure ∧ (f usage cursor).result = .error failure)
    {s : Stage} {usage : Usage} {cell : Guarded (Feed γ)}
    (hnot : ¬ s.PullsMeet condition f usage cell) (path : String) :
    exists failure : Failure, cause failure ∧ (s.pull path f usage cell).1 = .error failure := by
  rcases cell with ⟨feed, poisoned⟩
  cases feed with
  | drained => exact absurd trivial hnot
  | active cursor =>
      unfold PullsMeet at hnot
      simp only [Classical.not_imp] at hnot
      rcases hnot with ⟨hpoisoned, hsize, hwindow⟩
      cases hpoisoned
      rcases failed_of_not_throughout h s.size [] hwindow with ⟨failure, hcause, hfailed⟩
      refine ⟨failure, hcause, ?_⟩
      have hpull := pull_of_active hsize path f usage cursor
      rcases hp : pullWindow f s.size [] usage cursor with ⟨pulled, cursor', usage'⟩
      rw [hp] at hfailed hpull
      cases hfailed
      exact congrArg Prod.fst hpull

theorem pullWindow_alike
    (hsim : L.SimulatesWhere condition C f g) (room : Nat) (taken : List Element)
    {u v : Usage} {c : γ} {d : δ} (hwindow : Throughout condition f room u c)
    (husage : L.usages u v) (hcursor : C c d) :
    L.Windows (pullWindow f room taken u c).1 (pullWindow g room taken v d).1 ∧
      C (pullWindow f room taken u c).2.1 (pullWindow g room taken v d).2.1 ∧
      L.usages (pullWindow f room taken u c).2.2 (pullWindow g room taken v d).2.2 := by
  induction room generalizing taken u v c d with
  | zero => exact ⟨Likeness.Windows.full _, hcursor, husage⟩
  | succ room ih =>
      rcases hwindow with ⟨hpull, hrest⟩
      have hstep := hsim _ _ _ _ hpull husage hcursor
      unfold pullWindow
      rcases hf : f u c with ⟨a, c', u'⟩
      rcases hg : g v d with ⟨b, d', v'⟩
      rw [hf, hg] at hstep
      rw [hf] at hrest
      rcases hstep with ⟨hresult, hcursor', husage'⟩
      cases hresult with
      | error hfail => exact ⟨Likeness.Windows.failed hfail, hcursor', husage'⟩
      | ok a =>
          cases a with
          | none => exact ⟨Likeness.Windows.ended _, hcursor', husage'⟩
          | some e => exact ih (e :: taken) hrest husage' hcursor'

end Window

/-!
## Stacking
-/

/-- Neither the allocator nor the pool tells apart usages that may stand beside each
other. -/
structure Likeness.HiddenFrom (L : Likeness) (ctx : Context) : Prop where
  serve_eq : forall {u v : Usage} (bytes : UInt64), L.usages u v ->
    ctx.allocator.serve u.requests bytes = ctx.allocator.serve v.requests bytes
  order_eq : forall {u v : Usage}, L.usages u v ->
    ctx.pool.schedule.order u.requests = ctx.pool.schedule.order v.requests
  request : forall {u v : Usage} (bytes : UInt64), L.usages u v ->
    L.usages (u.request bytes) (v.request bytes)

namespace Likeness.HiddenFrom

variable {L : Likeness} {ctx : Context} {u v : Usage}

theorem fillBuffer_eq
    (h : L.HiddenFrom ctx) (husage : L.usages u v) (parallel : Bool) (component : Nat)
    (first : Tensor) (column : List Tensor) (batchShape : Shape) (width : Nat)
    (buffer : List UInt8) :
    fillBuffer ctx u.requests parallel component first column batchShape width buffer =
      fillBuffer ctx v.requests parallel component first column batchShape width buffer := by
  unfold fillBuffer
  rw [h.order_eq husage]

theorem stackColumn_alike
    (h : L.HiddenFrom ctx) (husage : L.usages u v) (parallel : Bool) (component : Nat)
    (column : List Tensor) :
    L.Outcomes (stackColumn ctx parallel component u column)
      (stackColumn ctx parallel component v column) := by
  cases column with
  | nil => exact ⟨L.answers_refl _, husage⟩
  | cons first rest =>
      rw [stackColumn_cons, stackColumn_cons]
      split
      · next bytes width _ _ =>
          have hrequest := h.request bytes husage
          rw [h.serve_eq bytes husage]
          split
          · exact ⟨L.answers_refl _, hrequest⟩
          · rw [h.fillBuffer_eq hrequest]
            exact ⟨L.answers_refl _, hrequest⟩
      · exact ⟨L.answers_refl _, husage⟩

theorem stackColumns_alike
    (h : L.HiddenFrom ctx) (husage : L.usages u v) (parallel : Bool) (component : Nat)
    (columns : List (List Tensor)) :
    L.Outcomes (stackColumns ctx parallel component u columns)
      (stackColumns ctx parallel component v columns) := by
  induction columns generalizing component u v with
  | nil => exact ⟨L.answers_refl _, husage⟩
  | cons column rest ih =>
      have hcolumn := h.stackColumn_alike husage parallel component column
      rcases hu : stackColumn ctx parallel component u column with ⟨a, u'⟩
      rcases hv : stackColumn ctx parallel component v column with ⟨b, v'⟩
      rw [hu, hv] at hcolumn
      rcases hcolumn with ⟨hresult, husage'⟩
      cases hresult with
      | error hfail =>
          rw [stackColumns_of_error hu, stackColumns_of_error hv]
          exact ⟨Answers.error hfail, husage'⟩
      | ok t =>
          rw [stackColumns_of_ok hu, stackColumns_of_ok hv]
          rcases ih husage' (component + 1) with ⟨hrest, husage''⟩
          exact ⟨hrest.map (t :: ·), husage''⟩

theorem stack_alike
    (h : L.HiddenFrom ctx) (husage : L.usages u v) (parallel : Bool) (window : List Element) :
    L.Outcomes (stack ctx parallel u window) (stack ctx parallel v window) := by
  cases window with
  | nil => exact ⟨L.answers_refl _, husage⟩
  | cons first rest =>
      cases hcount : firstOtherCount first.length 0 (first :: rest) with
      | some other =>
          rw [stack_of_other_count hcount, stack_of_other_count hcount]
          exact ⟨L.answers_refl _, husage⟩
      | none =>
          rw [stack_of_equal_counts hcount, stack_of_equal_counts hcount]
          exact h.stackColumns_alike husage parallel 0 _

end Likeness.HiddenFrom

/-!
## Batch stages
-/

section Stage

variable {L : Likeness} {γ δ : Type} {C : γ -> δ -> Prop} {condition : Usage -> γ -> Prop}
  {f : Usage -> γ -> Step γ} {g : Usage -> δ -> Step δ}

theorem Stage.pull_alike
    (hsim : L.SimulatesWhere condition C f g) {s t : Stage} (hsize : s.size = t.size)
    (path : String) {u v : Usage} {a : Guarded (Feed γ)} {b : Guarded (Feed δ)}
    (hpulls : s.PullsMeet condition f u a) (husage : L.usages u v)
    (hcell : Guarded.Alike (Feed.Alike C) a b) :
    L.Answers (s.pull path f u a).1 (t.pull path g v b).1 ∧
      Guarded.Alike (Feed.Alike C) (s.pull path f u a).2.1 (t.pull path g v b).2.1 ∧
      L.usages (s.pull path f u a).2.2 (t.pull path g v b).2.2 := by
  rcases a with ⟨feed, poisoned⟩
  rcases b with ⟨feed', poisoned'⟩
  rcases hcell with ⟨hfeed, hpoisoned⟩
  cases hpoisoned
  unfold Stage.pull
  rw [← hsize]
  cases poisoned with
  | true => exact ⟨L.answers_refl _, ⟨hfeed, rfl⟩, husage⟩
  | false =>
      cases hfeed with
      | drained => exact ⟨L.answers_refl _, ⟨Feed.Alike.drained, rfl⟩, husage⟩
      | active hcursor =>
          rename_i c d
          by_cases hlimit : Stage.windowLimit < s.size
          · simp only [hlimit, if_true]
            exact ⟨L.answers_refl _, ⟨Feed.Alike.active hcursor, rfl⟩, husage⟩
          · simp only [hlimit, if_false, Bool.false_eq_true]
            have hthroughout := hpulls rfl (Nat.le_of_not_lt hlimit)
            have hwindow := pullWindow_alike hsim s.size [] hthroughout husage hcursor
            rcases hf : pullWindow f s.size [] u c with ⟨w, c', u'⟩
            rcases hg : pullWindow g s.size [] v d with ⟨w', d', v'⟩
            rw [hf, hg] at hwindow
            rcases hwindow with ⟨hw, hcursor', husage'⟩
            cases hw with
            | full w => exact ⟨L.answers_refl _, ⟨Feed.Alike.active hcursor', rfl⟩, husage'⟩
            | ended w => exact ⟨L.answers_refl _, ⟨Feed.Alike.drained, rfl⟩, husage'⟩
            | failed hfail =>
                exact ⟨Likeness.Answers.error hfail,
                  ⟨Feed.Alike.active hcursor', L.poisons_eq hfail⟩, husage'⟩

theorem Stage.deliver_alike
    {s t : Stage} (hsize : s.size = t.size) (hdrop : s.dropRemainder = t.dropRemainder)
    {ctx ctx' : Context}
    (hstack : forall {u v : Usage} (window : List Element), L.usages u v ->
      L.Outcomes (stack ctx s.parallelCopy u window) (stack ctx' t.parallelCopy v window))
    {u v : Usage} (husage : L.usages u v) (window : List Element) :
    L.Outcomes (s.deliver ctx u window) (t.deliver ctx' v window) := by
  unfold Stage.deliver
  rw [← hsize, ← hdrop]
  by_cases hempty : window.isEmpty = true
  · simp only [hempty, if_true]
    exact ⟨L.answers_refl _, husage⟩
  · by_cases hshort : (s.dropRemainder && decide (window.length < s.size)) = true
    · simp only [hempty, hshort, if_true]
      exact ⟨L.answers_refl _, husage⟩
    · simp only [hempty, hshort, if_false, Bool.false_eq_true]
      have hout := hstack window husage
      rcases ha : stack ctx s.parallelCopy u window with ⟨a, u'⟩
      rcases hb : stack ctx' t.parallelCopy v window with ⟨b, v'⟩
      rw [ha, hb] at hout
      rcases hout with ⟨hresult, husage'⟩
      cases hresult with
      | ok batch => exact ⟨L.answers_refl _, husage'⟩
      | error hfail => exact ⟨Likeness.Answers.error hfail, husage'⟩

end Stage

/-!
## Pipelines
-/

namespace Pipeline

/-- Pipelines that differ at most in how their stages copy, within what
`copies` allows. -/
inductive Alike (copies : Bool -> Bool -> Prop) : Pipeline -> Pipeline -> Prop where
  | range (start : Int64) (stop : Option Int64) :
      Alike copies (.range start stop) (.range start stop)
  | tensors (source : TensorSource) : Alike copies (.tensors source) (.tensors source)
  | counting (tally : Nat) {p q : Pipeline} :
      Alike copies p q -> Alike copies (.counting tally p) (.counting tally q)
  | faulty (failAt : UInt64) {p q : Pipeline} :
      Alike copies p q -> Alike copies (.faulty failAt p) (.faulty failAt q)
  | batch (stage : Stage) (parallel : Bool) {p q : Pipeline} :
      copies stage.parallelCopy parallel -> Alike copies p q ->
      Alike copies (.batch stage p) (.batch { stage with parallelCopy := parallel } q)

def CursorsAlike : (p q : Pipeline) -> Cursor p -> Cursor q -> Prop
  | .range _ _, .range _ _, c, d => (c : Guarded Int64) = d
  | .tensors _, .tensors _, c, d => (c : UInt64) = d
  | .counting _ p, .counting _ q, c, d => CursorsAlike p q c d
  | .faulty _ p, .faulty _ q, c, d => c.pulls = d.pulls ∧ CursorsAlike p q c.input d.input
  | .batch _ p, .batch _ q, c, d => Guarded.Alike (Feed.Alike (CursorsAlike p q)) c d
  | _, _, _, _ => False

variable {copies : Bool -> Bool -> Prop}

theorem Alike.refl (hcopies : forall parallel : Bool, copies parallel parallel) (p : Pipeline) :
    Alike copies p p := by
  induction p with
  | range start stop => exact Alike.range start stop
  | tensors source => exact Alike.tensors source
  | counting tally input ih => exact Alike.counting tally ih
  | faulty failAt input ih => exact Alike.faulty failAt ih
  | batch stage input ih => exact Alike.batch stage stage.parallelCopy (hcopies _) ih

theorem Alike.start {p q : Pipeline} (h : Alike copies p q) :
    CursorsAlike p q p.start q.start := by
  induction h with
  | range start stop => rfl
  | tensors source => rfl
  | counting tally _ ih => exact ih
  | faulty failAt _ ih => exact ⟨rfl, ih⟩
  | batch stage parallel _ _ ih => exact ⟨Feed.Alike.active ih, rfl⟩

theorem Alike.pathUnder_eq {p q : Pipeline} (h : Alike copies p q) (parent : String) :
    p.pathUnder parent = q.pathUnder parent := by
  induction h with
  | range start stop => rfl
  | tensors source => rfl
  | counting tally _ ih => exact ih
  | faulty failAt _ ih => exact ih
  | batch stage parallel _ _ ih => rfl

theorem cursorsAlike_self_iff {p : Pipeline} {c d : Cursor p} :
    CursorsAlike p p c d <-> c = d := by
  induction p with
  | range start stop => exact Iff.rfl
  | tensors source => exact Iff.rfl
  | counting tally input ih => exact ih
  | faulty failAt input ih =>
      rcases c with ⟨pulls, c⟩
      rcases d with ⟨pulls', d⟩
      constructor
      · rintro ⟨hpulls, hcursor⟩
        cases hpulls
        cases ih.mp hcursor
        rfl
      · intro h
        cases h
        exact ⟨rfl, ih.mpr rfl⟩
  | batch stage input ih =>
      rcases c with ⟨feed, poisoned⟩
      rcases d with ⟨feed', poisoned'⟩
      constructor
      · rintro ⟨hfeed, hpoisoned⟩
        cases hpoisoned
        cases hfeed with
        | active hcursor =>
            cases ih.mp hcursor
            rfl
        | drained => rfl
      · intro h
        cases h
        refine ⟨?_, rfl⟩
        cases feed with
        | active c => exact Feed.Alike.active (ih.mpr rfl)
        | drained => exact Feed.Alike.drained

variable {L : Likeness} {ctx ctx' : Context}

theorem advance_batch_simulates
    {p q : Pipeline} {s t : Stage} {path : String} {condition : Usage -> Cursor p -> Prop}
    {C : Cursor p -> Cursor q -> Prop}
    (hsize : s.size = t.size) (hdrop : s.dropRemainder = t.dropRemainder)
    (hstack : forall {u v : Usage} (window : List Element), L.usages u v ->
      L.Outcomes (stack ctx s.parallelCopy u window) (stack ctx' t.parallelCopy v window))
    (hinput : L.SimulatesWhere condition C (p.advance ctx (p.pathUnder path))
      (q.advance ctx' (q.pathUnder path))) :
    L.SimulatesWhere (s.PullsMeet condition (p.advance ctx (p.pathUnder path)))
      (Guarded.Alike (Feed.Alike C)) ((batch s p).advance ctx path)
      ((batch t q).advance ctx' path) := by
  intro u v c d hpulls husage hcell
  have hpull := Stage.pull_alike hinput hsize path hpulls husage hcell
  rw [advance_batch, advance_batch]
  rcases ha : s.pull path (p.advance ctx (p.pathUnder path)) u c with ⟨a, c', u'⟩
  rcases hb : t.pull path (q.advance ctx' (q.pathUnder path)) v d with ⟨b, d', v'⟩
  rw [ha, hb] at hpull
  rcases hpull with ⟨hresult, hcell', husage'⟩
  cases hresult with
  | error hfail => exact ⟨Likeness.Answers.error hfail, hcell', husage'⟩
  | ok window =>
      rcases Stage.deliver_alike hsize hdrop hstack husage' window with ⟨hbatch, husage''⟩
      exact ⟨hbatch, hcell', husage''⟩

theorem advanceRange_simulates (stop : Option Int64) (path : String) :
    L.Simulates Eq (advanceRange stop path) (advanceRange stop path) := by
  intro u v c d husage hcursor
  cases hcursor
  unfold advanceRange
  split
  · exact ⟨L.answers_refl _, rfl, husage⟩
  · split
    · exact ⟨L.answers_refl _, rfl, husage⟩
    · split
      · exact ⟨L.answers_refl _, rfl, husage⟩
      · exact ⟨L.answers_refl _, rfl, husage⟩

theorem advanceTensors_simulates (source : TensorSource) :
    L.Simulates Eq (advanceTensors source) (advanceTensors source) := by
  intro u v c d husage hcursor
  cases hcursor
  unfold advanceTensors
  split
  · exact ⟨L.answers_refl _, rfl, husage⟩
  · exact ⟨L.answers_refl _, rfl, husage⟩

theorem Alike.advance
    {p q : Pipeline} (h : Alike copies p q)
    (hstack : forall {parallel parallel' : Bool} {u v : Usage} (window : List Element),
      copies parallel parallel' -> L.usages u v ->
      L.Outcomes (stack ctx parallel u window) (stack ctx' parallel' v window))
    (path : String) :
    L.Simulates (CursorsAlike p q) (p.advance ctx path) (q.advance ctx' path) := by
  induction h generalizing path with
  | range start stop => exact advanceRange_simulates stop path
  | tensors source => exact advanceTensors_simulates source
  | counting tally _ ih =>
      intro u v c d husage hcursor
      exact ih path _ _ _ _ (L.usages_bump tally husage) hcursor
  | faulty failAt _ ih =>
      intro u v c d husage hcursor
      rcases c with ⟨pulls, c⟩
      rcases d with ⟨pulls', d⟩
      rcases hcursor with ⟨hpulls, hcursor⟩
      cases hpulls
      rw [advance_faulty, advance_faulty]
      split
      · exact ⟨L.answers_refl _, ⟨rfl, hcursor⟩, husage⟩
      · rcases ih path _ _ _ _ husage hcursor with ⟨hresult, hcursor', husage'⟩
        exact ⟨hresult, ⟨rfl, hcursor'⟩, husage'⟩
  | batch stage parallel hcopies hinput ih =>
      rename_i p q
      have hpath := hinput.pathUnder_eq path
      have hinput : L.Simulates (CursorsAlike p q) (p.advance ctx (p.pathUnder path))
          (q.advance ctx' (q.pathUnder path)) := by
        rw [← hpath]
        exact ih (p.pathUnder path)
      intro u v c d husage hcell
      refine advance_batch_simulates ?_ ?_ ?_ hinput.anywhere u v c d ?_ husage hcell
      · rfl
      · rfl
      · intro u v window husage
        exact hstack window hcopies husage
      · exact stage.pullsMeet_of_forall (fun _ _ => trivial) u c

theorem advance_simulates_self
    (hstack : forall {u v : Usage} (parallel : Bool) (window : List Element), L.usages u v ->
      L.Outcomes (stack ctx parallel u window) (stack ctx parallel v window))
    (p : Pipeline) (path : String) :
    L.Simulates (p.CursorsAlike p) (p.advance ctx path) (p.advance ctx path) := by
  have halike : Alike Eq p p := Alike.refl (fun _ => rfl) p
  refine halike.advance ?_ path
  intro parallel parallel' u v window hcopies husage
  cases hcopies
  exact hstack parallel window husage

theorem answers_after
    {p : Pipeline} {path : String}
    (hsim : L.Simulates (CursorsAlike p p) (p.advance ctx path) (p.advance ctx path))
    (husages : forall u v : Usage, L.usages u v) (us ws usage : Nat -> Usage) (k n : Nat) :
    L.Answers (Iterator.answer ⟨p, path, p.cursorAfter ctx path us k⟩ ctx ws n)
      (p.answer ctx path usage (k + n)) := by
  rw [← Iterator.answer_cursorAfter]
  have hstart : CursorsAlike p p p.start p.start := cursorsAlike_self_iff.mpr rfl
  have hcursors := cursorAfter_alike hsim (fun i => husages (us i) (usage i)) hstart k
  exact (reply_alike hsim (fun i => husages (ws i) (usage (k + i))) hcursors n).result

end Pipeline

end TensorPipeline
