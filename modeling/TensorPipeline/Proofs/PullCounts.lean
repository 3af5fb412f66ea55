import Mathlib.Algebra.BigOperators.Group.Finset.Piecewise
import Mathlib.Data.Fintype.Basic
import TensorPipeline.Proofs.Cardinality
import TensorPipeline.Proofs.Tallies

/-!
# How often an input is pulled

A counting layer directly below a batch stage counts the pulls that all iterators
of the stage make between them.  A call pulls a whole window unless the input ends
within it; the pull that meets the end is counted too, and none is made after it.
What an iterator has contributed therefore depends on the number of its calls
alone: not on what the others did in between, and not on whether its windows could
be stacked or a short one was dropped.
-/

namespace TensorPipeline

/-!
## Behind a number of elements
-/

/-- The cursors behind the first `n` elements: so many pulls in a row have each
delivered one. -/
inductive Pipeline.Behind (ctx : Context) (p : Pipeline) (path : String) :
    Nat -> Cursor p -> Prop where
  | start : Behind ctx p path 0 p.start
  | next {n : Nat} {c : Cursor p} {e : Element} (hbehind : Behind ctx p path n c)
      (usage : Usage) (he : (p.advance ctx path usage c).result = .ok (some e)) :
      Behind ctx p path (n + 1) (p.advance ctx path usage c).cursor

namespace Pipeline

variable {ctx : Context} {p : Pipeline} {path : String} {n : Nat} {c : Cursor p}

theorem Behind.exists_calls (h : Behind ctx p path n c) (usage : Usage) :
    exists calls : Nat -> Usage,
      p.reply ctx path calls n = p.advance ctx path usage c ∧
        forall i : Nat, i < n -> exists e : Element,
          p.answer ctx path calls i = .ok (some e) := by
  induction h generalizing usage with
  | start =>
      refine ⟨fun _ => usage, rfl, ?_⟩
      intro i hi
      exact absurd hi (Nat.not_lt_zero i)
  | next hbehind last he ih =>
      rename_i n c e
      rcases ih last with ⟨calls, hlast, helements⟩
      let longer : Nat -> Usage := Function.update calls (n + 1) usage
      have hearlier (i : Nat) (hi : i ≤ n) :
          p.reply ctx path longer i = p.reply ctx path calls i := by
        apply reply_congr
        intro j hj
        have hne : j ≠ n + 1 := by omega
        exact Function.update_of_ne hne usage calls
      refine ⟨longer, ?_, ?_⟩
      · rw [reply_eq, cursorAfter_succ, hearlier n (Nat.le_refl n), hlast]
        exact congrArg (fun u => p.advance ctx path u _) (Function.update_self _ _ _)
      · intro i hi
        have hsame := hearlier i (Nat.le_of_lt_succ hi)
        rcases Nat.lt_or_eq_of_le (Nat.le_of_lt_succ hi) with hlt | rfl
        · rw [answer, hsame]
          exact helements i hlt
        · rw [answer, hsame, hlast]
          exact ⟨e, he⟩

theorem not_error_of_elements
    {calls : Nat -> Usage}
    (helements : forall i : Nat, i < n -> exists e : Element,
      p.answer ctx path calls i = .ok (some e))
    {i : Nat} (hi : i < n) (f : Failure) : p.answer ctx path calls i ≠ .error f := by
  intro herror
  rcases helements i hi with ⟨e, he⟩
  cases he.symm.trans herror

theorem Behind.le_extent
    (haddr : p.Addressable) (h : Behind ctx p path n c) {m : Nat} (hextent : p.extent = some m) :
    n ≤ m := by
  rcases h.exists_calls Usage.empty with ⟨calls, _, helements⟩
  apply Nat.le_of_not_lt
  intro hlt
  rcases helements m hlt with ⟨e, he⟩
  have hend : p.answer ctx path calls m = .ok none := by
    apply (answer_eq_none_iff haddr hextent ?_).mpr (Nat.le_refl m)
    intro i hi f
    exact not_error_of_elements helements (Nat.lt_of_le_of_lt hi hlt) f
  cases he.symm.trans hend

theorem Behind.result_eq_none_iff
    (haddr : p.Addressable) (h : Behind ctx p path n c) {usage : Usage}
    (hcalm : forall f : Failure, (p.advance ctx path usage c).result ≠ .error f) :
    (p.advance ctx path usage c).result = .ok none <-> p.extent = some n := by
  rcases h.exists_calls usage with ⟨calls, hreply, helements⟩
  have hanswer : p.answer ctx path calls n = (p.advance ctx path usage c).result :=
    congrArg Step.result hreply
  cases hextent : p.extent with
  | none =>
      rw [← hanswer]
      constructor
      · intro hend
        exact absurd hend (answer_ne_none hextent ctx path calls n)
      · intro hnone
        cases hnone
  | some m =>
      have hle := h.le_extent haddr hextent
      have hend : p.answer ctx path calls n = .ok none <-> m ≤ n := by
        apply answer_eq_none_iff haddr hextent
        intro i hi f
        rcases Nat.lt_or_eq_of_le hi with hlt | rfl
        · exact not_error_of_elements helements hlt f
        · rw [hanswer]
          exact hcalm f
      rw [← hanswer, hend, Option.some.injEq]
      omega

end Pipeline

/-!
## Windows of counted pulls
-/

/-- Every pull adds one to the count.  Behind the first `n` elements it fails or
delivers the next one, unless there are `n` elements: then it fails or meets the
end. -/
def CountsPulls {γ : Type} (tally : Nat) (extent : Option Nat) (behind : Nat -> γ -> Prop)
    (advance : Usage -> γ -> Step γ) : Prop :=
  forall (usage : Usage) (v : UInt64) (n : Nat) (cursor : γ),
    usage.reading tally = some v -> behind n cursor ->
      (advance usage cursor).usage.reading tally = some (v + 1) ∧
      (forall e : Element, (advance usage cursor).result = .ok (some e) ->
        behind (n + 1) (advance usage cursor).cursor) ∧
      ((advance usage cursor).result = .ok none -> extent = some n)

theorem Pipeline.counting_countsPulls
    (ctx : Context) {tally : Nat} {input : Pipeline} (path : String)
    (haddr : input.Addressable) (htally : tally ∉ input.tallies) :
    CountsPulls tally (counting tally input).extent ((counting tally input).Behind ctx path)
      ((counting tally input).advance ctx path) := by
  intro usage v n cursor hreading hbehind
  refine ⟨?_, fun e he => hbehind.next usage he, ?_⟩
  · have hinput := advance_leavesAlone ctx path htally (usage.bump tally) cursor
    exact hinput.trans (Usage.reading_bump_self hreading)
  · intro hnone
    have hsame : (counting tally input).Addressable := haddr
    apply (hbehind.result_eq_none_iff hsame ?_).mp hnone
    intro f herror
    cases hnone.symm.trans herror

/-- What is known after a window that did not fail: it is full, or it lacks what the
input lacks, and the pull that met the end is counted with it. -/
inductive Counted {γ : Type} (tally : Nat) (extent : Option Nat) (behind : Nat -> γ -> Prop)
    (room n : Nat) (v : UInt64) : Pulled × γ × Usage -> Prop where
  | full {window : List Element} {cursor : γ} {usage : Usage}
      (hlength : window.length = room) (hbehind : behind (n + room) cursor)
      (hreading : usage.reading tally = some (v + UInt64.ofNat room)) :
      Counted tally extent behind room n v (.full window, cursor, usage)
  | ended {window : List Element} {cursor : γ} {usage : Usage} {more : Nat}
      (hmore : more < room) (hextent : extent = some (n + more))
      (hreading : usage.reading tally = some (v + UInt64.ofNat (more + 1))) :
      Counted tally extent behind room n v (.ended window, cursor, usage)

theorem pullWindow_counts
    {γ : Type} {tally : Nat} {extent : Option Nat} {behind : Nat -> γ -> Prop}
    {advance : Usage -> γ -> Step γ} (hcounts : CountsPulls tally extent behind advance)
    (room : Nat) (taken : List Element) {n : Nat} {cursor : γ} {usage : Usage} {v : UInt64}
    (hreading : usage.reading tally = some (v + UInt64.ofNat taken.length))
    (hbehind : behind (n + taken.length) cursor)
    (hcalm : forall f : Failure, (pullWindow advance room taken usage cursor).1 ≠ .failed f) :
    Counted tally extent behind (taken.length + room) n v
      (pullWindow advance room taken usage cursor) := by
  -- The elements taken have been counted, so the induction may begin within a window.
  induction room generalizing taken usage cursor with
  | zero => exact Counted.full List.length_reverse hbehind hreading
  | succ room ih =>
      rcases hcounts usage _ _ cursor hreading hbehind with ⟨hcount, hsome, hnone⟩
      have hsucc : v + UInt64.ofNat taken.length + 1 = v + UInt64.ofNat (taken.length + 1) := by
        rw [UInt64.ofNat_add, UInt64.add_assoc]
        rfl
      rw [hsucc] at hcount
      unfold pullWindow at hcalm ⊢
      rcases hs : advance usage cursor with ⟨result, cursor', usage'⟩
      rw [hs] at hcalm hcount hsome hnone
      cases result with
      | error f => exact absurd rfl (hcalm f)
      | ok answer =>
          cases answer with
          | some e =>
              have hlater := ih (e :: taken) hcount (hsome e rfl) hcalm
              rw [List.length_cons, Nat.add_assoc, Nat.add_comm 1] at hlater
              exact hlater
          | none =>
              have hmore : taken.length < taken.length + (room + 1) := by omega
              exact Counted.ended hmore (hnone rfl) hcount

/-!
## One iterator

What an iterator has pulled is settled by the number of its calls.
-/

/-- The pulls that `calls` calls on one iterator make if each asks for `size`
elements: one more than there are, at most. -/
def pullsMade (extent : Option Nat) (size calls : Nat) : Nat :=
  match extent with
  | some n => min (calls * size) (n + 1)
  | none => calls * size

theorem pullsMade_of_le
    {extent : Option Nat} {size calls : Nat}
    (h : forall n : Nat, extent = some n -> calls * size ≤ n + 1) :
    pullsMade extent size calls = calls * size := by
  cases extent with
  | none => rfl
  | some n => exact Nat.min_eq_left (h n rfl)

theorem pullsMade_zero (extent : Option Nat) (size : Nat) : pullsMade extent size 0 = 0 := by
  rw [pullsMade_of_le, Nat.zero_mul]
  intro n _
  rw [Nat.zero_mul]
  exact Nat.zero_le _

theorem pullsMade_of_lt {n size calls : Nat} (h : n < calls * size) :
    pullsMade (some n) size calls = n + 1 :=
  Nat.min_eq_right h

theorem Pipeline.Behind.pullsMade_eq
    {ctx : Context} {p : Pipeline} {path : String} {size calls : Nat} {c : Cursor p}
    (haddr : p.Addressable) (h : p.Behind ctx path (calls * size) c) :
    pullsMade p.extent size calls = calls * size := by
  apply pullsMade_of_le
  intro n hn
  exact Nat.le_succ_of_le (h.le_extent haddr hn)

theorem Stage.not_failed_of_pull
    {γ : Type} {s : Stage} (hsize : s.size ≤ windowLimit) {path : String}
    {advance : Usage -> γ -> Step γ} {usage : Usage} {cursor : γ}
    (hcalm : forall f : Failure,
      (s.pull path advance usage (Guarded.ofContent (.active cursor))).1 ≠ .error f)
    (f : Failure) : (pullWindow advance s.size [] usage cursor).1 ≠ .failed f := by
  intro hfailed
  rw [pull_of_active hsize] at hcalm
  rcases hp : pullWindow advance s.size [] usage cursor with ⟨pulled, cursor', usage'⟩
  rw [hp] at hcalm hfailed
  cases hfailed
  exact hcalm f rfl

section

variable {ctx : Context} {s : Stage} {input : Pipeline} {path : String} {tally : Nat}

/-- Where an iterator stands after a number of calls: behind full windows, or with
its input used up because they would have asked for more than there is. -/
inductive Stands (ctx : Context) (s : Stage) (input : Pipeline) (path : String)
    (calls : Nat) : Cursor (.batch s input) -> Prop where
  | active {c : Cursor input}
      (hbehind : input.Behind ctx (input.pathUnder path) (calls * s.size) c) :
      Stands ctx s input path calls (Guarded.ofContent (.active c))
  | drained {n : Nat} (hextent : input.extent = some n) (hmore : n < calls * s.size) :
      Stands ctx s input path calls (Guarded.ofContent .drained)

theorem Stands.start : Stands ctx s input path 0 (Pipeline.batch s input).start := by
  apply Stands.active
  rw [Nat.zero_mul]
  exact Pipeline.Behind.start

theorem Stands.pull
    (hsize : s.size ≤ Stage.windowLimit) (haddr : input.Addressable)
    (hcounts : CountsPulls tally input.extent (input.Behind ctx (input.pathUnder path))
      (input.advance ctx (input.pathUnder path)))
    {calls : Nat} {cell : Cursor (.batch s input)} (hstands : Stands ctx s input path calls cell)
    {usage : Usage} {v : UInt64} (hreading : usage.reading tally = some v)
    (hcalm : forall f : Failure,
      (s.pull path (input.advance ctx (input.pathUnder path)) usage cell).1 ≠ .error f) :
    exists (window : List Element) (cell' : Cursor (.batch s input)) (usage' : Usage)
        (made : Nat),
      s.pull path (input.advance ctx (input.pathUnder path)) usage cell =
          (.ok window, cell', usage') ∧
        Stands ctx s input path (calls + 1) cell' ∧
        usage'.reading tally = some (v + UInt64.ofNat made) ∧
        pullsMade input.extent s.size (calls + 1) =
          pullsMade input.extent s.size calls + made ∧
        (cell' = Guarded.ofContent .drained ∨ window.length = s.size) := by
  have hnext : (calls + 1) * s.size = calls * s.size + s.size := Nat.succ_mul calls s.size
  have hzero : usage.reading tally = some (v + UInt64.ofNat 0) := by
    rw [hreading]
    exact congrArg some (UInt64.add_zero v).symm
  cases hstands with
  | drained hextent hmore =>
      have hlater := Nat.lt_of_lt_of_le hmore (Nat.le_add_right _ s.size)
      rw [← hnext] at hlater
      refine ⟨[], _, usage, 0, Stage.pull_of_drained _ _ _ _, Stands.drained hextent hlater,
        hzero, ?_, Or.inl rfl⟩
      rw [hextent, pullsMade_of_lt hmore, pullsMade_of_lt hlater]
  | active hbehind =>
      rename_i c
      have hcounted := pullWindow_counts (n := calls * s.size) hcounts s.size [] hzero hbehind
        (Stage.not_failed_of_pull hsize hcalm)
      rw [Stage.pull_of_active hsize, hbehind.pullsMade_eq haddr]
      rcases hp : pullWindow (input.advance ctx (input.pathUnder path)) s.size [] usage c with
        ⟨pulled, c', usage'⟩
      rw [hp, List.length_nil, Nat.zero_add] at hcounted
      cases hcounted with
      | full hlength hfull hread =>
          rw [← hnext] at hfull
          refine ⟨_, _, usage', s.size, rfl, Stands.active hfull, hread, ?_, Or.inr hlength⟩
          rw [hfull.pullsMade_eq haddr, hnext]
      | ended hmore hextent hread =>
          rename_i window more
          have hlater : calls * s.size + more < (calls + 1) * s.size := by omega
          refine ⟨window, _, usage', more + 1, rfl, Stands.drained hextent hlater, hread, ?_,
            Or.inl rfl⟩
          rw [hextent, pullsMade_of_lt hlater, Nat.add_assoc]

end

/-!
## Iterators side by side

Any number of iterators share what they use.  They are called one after another,
in any order.
-/

def Iterator.window? (ctx : Context) (usage : Usage) :
    Iterator -> Option (Except Failure (List Element))
  | ⟨.batch stage input, path, cell⟩ =>
      some (stage.pull path (input.advance ctx (input.pathUnder path)) usage cell).1
  | _ => none

structure Family (ι : Type) where
  members : ι -> Iterator
  usage : Usage

namespace Family

variable {ι : Type}

def answer (ctx : Context) (x : Family ι) (i : ι) : Except Failure (Option Element) :=
  ((x.members i).next ctx x.usage).1

variable [DecidableEq ι]

def call (ctx : Context) (x : Family ι) (i : ι) : Family ι :=
  let (_, it, usage) := (x.members i).next ctx x.usage
  ⟨Function.update x.members i it, usage⟩

def after (ctx : Context) (x : Family ι) (order : List ι) : Family ι :=
  order.foldl (call ctx) x

theorem after_concat (ctx : Context) (x : Family ι) (order : List ι) (i : ι) :
    x.after ctx (order ++ [i]) = (x.after ctx order).call ctx i := by
  rw [after, List.foldl_append]
  rfl

structure Undisturbed (ctx : Context) (x : Family ι) (order : List ι) : Prop where
  quiet : forall (earlier : List ι) (i : ι), earlier ++ [i] <+: order ->
    Quiet ((x.after ctx earlier).answer ctx i)
  errorless : forall (earlier : List ι) (i : ι), earlier ++ [i] <+: order ->
    forall e : Error,
      ((x.after ctx earlier).members i).window? ctx (x.after ctx earlier).usage ≠
        some (.error (.error e))

theorem Undisturbed.of_prefix
    {ctx : Context} {x : Family ι} {order shorter : List ι} (h : x.Undisturbed ctx order)
    (hfront : shorter <+: order) : x.Undisturbed ctx shorter where
  quiet earlier i hi := h.quiet earlier i (hi.trans hfront)
  errorless earlier i hi := h.errorless earlier i (hi.trans hfront)

theorem Undisturbed.of_isOk
    {ctx : Context} {x : Family ι} {order : List ι}
    (h : forall k : Fin order.length,
      ((x.after ctx (order.take k)).answer ctx order[k]).isOk = true ∧
      (((x.after ctx (order.take k)).members order[k]).window? ctx
        (x.after ctx (order.take k)).usage).all Except.isOk = true) :
    x.Undisturbed ctx order := by
  have hplace {earlier : List ι} {i : ι} (hfront : earlier ++ [i] <+: order) :
      exists k : Fin order.length, order.take k = earlier ∧ order[k] = i := by
    have hlt : earlier.length < order.length := by
      have hle := hfront.length_le
      rw [List.length_append] at hle
      exact hle
    have hlast : earlier.length < (earlier ++ [i]).length := by
      rw [List.length_append]
      exact Nat.lt_succ_self _
    have hget := hfront.getElem hlast
    rw [List.getElem_concat_length rfl] at hget
    have htake := List.prefix_iff_eq_take.mp ((List.prefix_append earlier [i]).trans hfront)
    exact ⟨⟨earlier.length, hlt⟩, htake.symm, hget.symm⟩
  constructor
  · intro earlier i hfront cause hcrash
    rcases hplace hfront with ⟨k, rfl, rfl⟩
    have hok := (h k).1
    rw [hcrash] at hok
    cases hok
  · intro earlier i hfront e herror
    rcases hplace hfront with ⟨k, rfl, rfl⟩
    have hok := (h k).2
    rw [herror] at hok
    cases hok

end Family

section

variable {ι : Type} [Fintype ι] [DecidableEq ι] {ctx : Context} {s : Stage}
  {input : Pipeline} {paths : ι -> String} {tally : Nat}

structure Accounted (ctx : Context) (s : Stage) (input : Pipeline) (paths : ι -> String)
    (tally : Nat) (order : List ι) (x : Family ι) : Prop where
  stands : forall i : ι, exists c : Cursor (.batch s input),
    x.members i = ⟨.batch s input, paths i, c⟩ ∧
      Stands ctx s input (paths i) (order.count i) c
  reading : x.usage.reading tally =
    some (UInt64.ofNat (∑ i, pullsMade input.extent s.size (order.count i)))

omit [Fintype ι] in
theorem count_concat (order : List ι) (i j : ι) :
    (order ++ [i]).count j = order.count j + if i = j then 1 else 0 := by
  rw [List.count_append, List.count_singleton]
  congr 1
  simp only [beq_iff_eq]

theorem sum_pullsMade_concat
    {extent : Option Nat} {size made : Nat} {order : List ι} {i : ι}
    (hmade : pullsMade extent size (order.count i + 1) =
      pullsMade extent size (order.count i) + made) :
    ∑ j, pullsMade extent size ((order ++ [i]).count j) =
      (∑ j, pullsMade extent size (order.count j)) + made := by
  have hterm (j : ι) : pullsMade extent size ((order ++ [i]).count j) =
      pullsMade extent size (order.count j) + if i = j then made else 0 := by
    rw [count_concat]
    by_cases h : i = j
    · subst h
      rw [if_pos rfl, if_pos rfl, hmade]
    · rw [if_neg h, if_neg h]
      rfl
  rw [Finset.sum_congr rfl fun j _ => hterm j, Finset.sum_add_distrib, Finset.sum_ite_eq,
    if_pos (Finset.mem_univ i)]

variable (hsize : s.size ≤ Stage.windowLimit) (haddr : input.Addressable)
  (hcounts : forall path : String,
    CountsPulls tally input.extent (input.Behind ctx path) (input.advance ctx path))

include hsize haddr hcounts in
theorem Accounted.call
    {order : List ι} {x : Family ι} (h : Accounted ctx s input paths tally order x) {i : ι}
    (hquiet : Quiet (x.answer ctx i))
    (herrorless : forall e : Error,
      (x.members i).window? ctx x.usage ≠ some (.error (.error e))) :
    Accounted ctx s input paths tally (order ++ [i]) (x.call ctx i) ∧
      (x.answer ctx i = .ok none ->
        ((x.call ctx i).members i).drained? = some (.ok true)) := by
  rcases h.stands i with ⟨c, hmember, hstands⟩
  have hanswer : x.answer ctx i =
      ((Pipeline.batch s input).advance ctx (paths i) x.usage c).result := by
    rw [Family.answer, hmember]
    rfl
  have hcalm : forall f : Failure,
      (s.pull (paths i) (input.advance ctx (input.pathUnder (paths i))) x.usage c).1 ≠
        .error f := by
    intro f hfailed
    cases f with
    | error e =>
        apply herrorless e
        rw [hmember]
        exact congrArg some hfailed
    | crash cause =>
        apply hquiet cause
        rw [hanswer]
        exact Pipeline.advance_batch_of_failure hfailed
  rcases hstands.pull hsize haddr (hcounts _) h.reading hcalm with
    ⟨window, cell', usage', made, hpull, hstands', hread, hmade, hend⟩
  have hstep := Pipeline.advance_batch_of_window hpull
  have hcall : x.call ctx i =
      ⟨Function.update x.members i ⟨.batch s input, paths i, cell'⟩,
        (s.deliver ctx usage' window).2⟩ := by
    rw [Family.call, hmember, Iterator.next, hstep]
  have hself : (x.call ctx i).members i = ⟨.batch s input, paths i, cell'⟩ := by
    rw [hcall]
    exact Function.update_self _ _ _
  refine ⟨⟨?_, ?_⟩, ?_⟩
  · intro j
    rw [count_concat]
    by_cases hij : i = j
    · subst hij
      rw [if_pos rfl]
      exact ⟨cell', hself, hstands'⟩
    · rw [if_neg hij, hcall]
      rcases h.stands j with ⟨d, hd, hstandsj⟩
      exact ⟨d, (Function.update_of_ne (Ne.symm hij) _ _).trans hd, hstandsj⟩
  · rw [sum_pullsMade_concat hmade, UInt64.ofNat_add, ← hread, hcall]
    exact congrArg (fun t => t.counts[tally]?) (s.deliver_tallies ctx usage' window)
  · intro hnone
    rw [hself]
    rcases hend with rfl | hfull
    · rfl
    · rw [hanswer, hstep] at hnone
      have hresult := Stage.deliver_of_full hfull ctx usage'
      exact absurd (hresult.symm.trans hnone) (map_some_ne_none _)

include hsize haddr hcounts in
theorem Accounted.after
    {x : Family ι} (h : Accounted ctx s input paths tally [] x) {order : List ι}
    (hcalm : x.Undisturbed ctx order) :
    Accounted ctx s input paths tally order (x.after ctx order) := by
  induction order using List.reverseRecOn with
  | nil => exact h
  | append_singleton order i ih =>
      have hearlier := ih (hcalm.of_prefix (List.prefix_append order [i]))
      rw [Family.after_concat]
      exact (hearlier.call hsize haddr hcounts (hcalm.quiet order i (List.prefix_refl _))
        (hcalm.errorless order i (List.prefix_refl _))).1

end

/-!
## The account
-/

def Family.fresh {ι : Type} (s : Stage) (tally : Nat) (input : Pipeline) (paths : ι -> String)
    (usage : Usage) : Family ι where
  members i := Iterator.startAt (.batch s (.counting tally input)) (paths i)
  usage := usage

/-- However the calls on iterators fresh from a stage are interleaved, the count of
their pulls is the sum of what each has made, and that is one window for each of its
calls but at most one more than there are elements: whether the windows were
stacked, could not be stacked, or were too short and dropped.  An iterator has used
its input up just if its calls have asked for more than there is, and it answers
with the end only if it has. -/
theorem pulls_are_accounted_for
    {ι : Type} [Fintype ι] [DecidableEq ι] (ctx : Context) {s : Stage} {tally : Nat}
    {input : Pipeline} (paths : ι -> String) {usage : Usage} {order : List ι}
    (hsize : s.size ≤ Stage.windowLimit) (haddr : input.Addressable)
    (htally : tally ∉ input.tallies) (hzero : usage.reading tally = some 0)
    (hcalm : (Family.fresh s tally input paths usage).Undisturbed ctx order) :
    (((Family.fresh s tally input paths usage).after ctx order).usage.tallies.count tally =
      UInt64.ofNat (∑ i, pullsMade input.extent s.size (order.count i))) ∧
    (forall i : ι, exists drained : Bool,
      (((Family.fresh s tally input paths usage).after ctx order).members i).drained? =
        some (.ok drained) ∧
      (drained = true <->
        exists n : Nat, input.extent = some n ∧ n + 1 ≤ order.count i * s.size)) ∧
    forall (earlier : List ι) (i : ι), earlier ++ [i] <+: order ->
      ((Family.fresh s tally input paths usage).after ctx earlier).answer ctx i = .ok none ->
      (((Family.fresh s tally input paths usage).after ctx (earlier ++ [i])).members i).drained? =
        some (.ok true) := by
  have hinput : (Pipeline.counting tally input).Addressable := haddr
  have hcounts (path : String) :=
    Pipeline.counting_countsPulls ctx path haddr htally
  have hfresh : Accounted ctx s (.counting tally input) paths tally []
      (Family.fresh s tally input paths usage) := by
    constructor
    · intro i
      exact ⟨_, rfl, Stands.start⟩
    · have hnone : ∑ i : ι, pullsMade input.extent s.size (List.count i []) = 0 :=
        Finset.sum_eq_zero fun i _ => pullsMade_zero input.extent s.size
      rw [Pipeline.extent, hnone]
      exact hzero
  have hafter {earlier : List ι} (hfront : earlier <+: order) :=
    hfresh.after hsize hinput hcounts (hcalm.of_prefix hfront)
  have hall := hafter (List.prefix_refl order)
  refine ⟨Usage.count_of_reading hall.reading, ?_, ?_⟩
  · intro i
    rcases hall.stands i with ⟨c, hmember, hstands⟩
    rw [hmember]
    cases hstands with
    | active hbehind =>
        refine ⟨false, rfl, ?_⟩
        constructor
        · intro h
          cases h
        · rintro ⟨n, hn, hmore⟩
          have hle := hbehind.le_extent hinput hn
          omega
    | drained hextent hmore =>
        rename_i n
        exact ⟨true, rfl, fun _ => ⟨n, hextent, hmore⟩, fun _ => rfl⟩
  · intro earlier i hfront
    have hearlier := hafter ((List.prefix_append earlier [i]).trans hfront)
    rw [Family.after_concat]
    exact (hearlier.call hsize hinput hcounts (hcalm.quiet earlier i hfront)
      (hcalm.errorless earlier i hfront)).2

theorem pulls_are_accounted_for_over_three_integers :
    exists (s : Stage) (x : Family Bool),
      x = Family.fresh s 0 (.range 0 (some 3)) (fun _ => "Iterator::BatchV2") ⟨[], ⟨[0]⟩⟩ ∧
        s.size ≤ Stage.windowLimit ∧
        (Pipeline.range 0 (some 3)).Addressable ∧
        0 ∉ (Pipeline.range 0 (some 3)).tallies ∧
        x.Undisturbed Context.default [false, true, false] ∧
        (x.after Context.default [false, true, false]).usage.tallies.count 0 = 6 ∧
        (x.after Context.default [false, true]).answer Context.default false = .ok none ∧
        ((x.after Context.default [false, true, false]).members false).drained? =
          some (.ok true) ∧
        exists drained : Bool,
          ((x.after Context.default [false, true, false]).members true).drained? =
              some (.ok drained) ∧
            (drained = true <-> exists n : Nat, some 3 = some n ∧ n + 1 ≤ 1 * s.size) := by
  let s : Stage := { Stage.pairs with dropRemainder := true }
  let x : Family Bool :=
    Family.fresh s 0 (.range 0 (some 3)) (fun _ => "Iterator::BatchV2") ⟨[], ⟨[0]⟩⟩
  have hsize : s.size ≤ Stage.windowLimit := by decide
  have haddr : (Pipeline.range 0 (some 3)).Addressable := trivial
  have htally : 0 ∉ (Pipeline.range 0 (some 3)).tallies := by decide
  have hcalm : x.Undisturbed Context.default [false, true, false] := by
    apply Family.Undisturbed.of_isOk
    with_unfolding_all decide
  have hend : (x.after Context.default [false, true]).answer Context.default false =
      .ok none := by
    with_unfolding_all rfl
  rcases pulls_are_accounted_for Context.default (fun _ => "Iterator::BatchV2") hsize haddr
    htally rfl hcalm with ⟨hcount, hdrained, hnone⟩
  refine ⟨s, x, rfl, hsize, haddr, htally, hcalm, ?_, hend, ?_, hdrained true⟩
  · rw [hcount]
    decide
  · exact hnone [false, true] false (List.prefix_refl _) hend

end TensorPipeline
