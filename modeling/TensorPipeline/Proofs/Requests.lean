import TensorPipeline.Proofs.Crashes
import TensorPipeline.Proofs.Restoring

/-!
# Everything that can happen to an iterator

An iterator is made at the first element or restored from some store, and from then
on it is asked for one thing after another: an element, its position to be saved,
to be moved to a position that a store says, or whether it has used its input up.
Stores may hold anything, and a pull may find anything used.  What is said of the
cursors reached in this way is said of every run.

As long as the lock that callers meet is sound, so is everything behind it: a crash
poisons that lock, and after that nothing moves the cursor.
-/

namespace TensorPipeline

inductive Iterator.Request where
  | next (usage : Usage)
  | save (store : Store)
  | restore (store : Store)
  | tellDrained

inductive Iterator.Reply where
  | delivered (result : Except Failure (Option Element)) (usage : Usage)
  | saved (result : Except Error Store)
  | restored (result : Except Error Unit)
  | drained (result : Option (Except Error Bool))

namespace Pipeline

/-- What an iterator replies to a request, and the cursor after it.  Only a pull and
a restore that succeeds move the cursor. -/
def respond (p : Pipeline) (ctx : Context) (path : String) (c : Cursor p) :
    Iterator.Request -> Iterator.Reply × Cursor p
  | .next usage =>
      let step := p.advance ctx path usage c
      (.delivered step.result step.usage, step.cursor)
  | .save store => (.saved (p.save path c store), c)
  | .restore store =>
      let (result, moved) := settled c (p.restoreInPlace path store c)
      (.restored result, moved)
  | .tellDrained => (.drained (Iterator.drained? ⟨p, path, c⟩), c)

def after (p : Pipeline) (ctx : Context) (path : String) (c : Cursor p)
    (requests : List Iterator.Request) : Cursor p :=
  requests.foldl (fun c request => (p.respond ctx path c request).2) c

inductive Reachable (ctx : Context) (p : Pipeline) (path : String) : Cursor p -> Prop where
  | start : Reachable ctx p path p.start
  | restored {store : Store} {c : Cursor p} :
      p.restoreNew path store = .ok c -> Reachable ctx p path c
  | request (request : Iterator.Request) {c : Cursor p} :
      Reachable ctx p path c -> Reachable ctx p path (p.respond ctx path c request).2

section

variable {ctx : Context} {p : Pipeline} {path : String}

theorem after_cons
    (c : Cursor p) (request : Iterator.Request) (requests : List Iterator.Request) :
    p.after ctx path c (request :: requests) =
      p.after ctx path (p.respond ctx path c request).2 requests :=
  rfl

theorem Reachable.after
    {c : Cursor p} (h : p.Reachable ctx path c) (requests : List Iterator.Request) :
    p.Reachable ctx path (p.after ctx path c requests) := by
  induction requests generalizing c with
  | nil => exact h
  | cons request requests ih => exact ih (h.request request)

/-!
## What a restored cursor is
-/

def RestoredFrom (p : Pipeline) (path : String) (store : Store) (c : Cursor p) : Prop :=
  exists (place : Standing) (kept : List UInt64),
    p.recorded path store = .ok place ∧ p.RestoredTo place kept c

theorem Leads.restoredFrom
    {store : Store} {kept : List UInt64} {result : Except Error (Cursor p)} {c : Cursor p}
    (h : p.Leads kept (p.recorded path store) result) (hresult : result = .ok c) :
    p.RestoredFrom path store c := by
  cases hsaid : p.recorded path store with
  | ok place =>
      rw [hsaid] at h
      rcases h.of_ok with ⟨d, hd, hrestored⟩
      cases hresult.symm.trans hd
      exact ⟨place, kept, hsaid, hrestored⟩
  | error e =>
      rw [hsaid] at h
      cases hresult.symm.trans h.of_error

theorem restoreInPlace_of_locked
    {c : Cursor p} (h : ¬ p.Unlocked c) (path : String) (store : Store) :
    exists e : Error, p.restoreInPlace path store c = .error e := by
  induction p generalizing path with
  | range start stop =>
      have hpoisoned : c.poisoned = true := eq_true_of_ne_false h
      unfold restoreInPlace
      cases ofState (store.readInt (nextKey path)) with
      | error e => exact ⟨e, rfl⟩
      | ok next =>
          simp only [hpoisoned]
          exact ⟨_, rfl⟩
  | tensors source => exact absurd trivial h
  | counting tally input ih => exact ih h path
  | faulty failAt input ih =>
      rcases ih h path with ⟨e, he⟩
      unfold restoreInPlace
      rw [he]
      exact ⟨e, rfl⟩
  | batch stage input ih =>
      have hpoisoned : c.poisoned = true := eq_true_of_ne_false h
      unfold restoreInPlace
      rw [hpoisoned]
      exact ⟨_, rfl⟩

theorem settled_restoreInPlace (path : String) (c : Cursor p) (store : Store) :
    (settled c (p.restoreInPlace path store c)).2 = c ∨
      p.RestoredFrom path store (settled c (p.restoreInPlace path store c)).2 := by
  by_cases hlock : p.Unlocked c
  · have hleads := (p.leads path store).2 c hlock
    cases hresult : p.restoreInPlace path store c with
    | error e => exact Or.inl rfl
    | ok d => exact Or.inr (hleads.restoredFrom hresult)
  · rcases restoreInPlace_of_locked hlock path store with ⟨e, he⟩
    rw [he]
    exact Or.inl rfl

/-!
## Behind a sound lock
-/

/-- A position that can be written as a signed integer, as any in a list in memory
can. -/
def Writable (source : TensorSource) (next : UInt64) : Prop :=
  source.elements.length < 2 ^ 63 -> 0 ≤ next.toInt64

theorem advanceTensors_counts
    {source : TensorSource} {usage : Usage} {next : UInt64} {e : Element}
    (hlength : source.elements.length < 2 ^ 63)
    (h : (advanceTensors source usage next).result = .ok (some e)) :
    (advanceTensors source usage next).cursor.toNat = next.toNat + 1 := by
  unfold advanceTensors at h ⊢
  split at h
  · next found hfound => exact toNat_succ_of_getElem? hlength hfound
  · cases h

theorem writable_succ
    (source : TensorSource) (next : UInt64) (e : Element)
    (h : source.elements[next.toNat]? = some e) : Writable source (next + 1) := by
  intro hlength
  have hlt := (List.getElem?_eq_some_iff.mp h).1
  apply Store.nonneg_toInt64
  rw [toNat_succ_of_getElem? hlength h]
  exact Nat.lt_of_le_of_lt hlt hlength

def Admits (p : Pipeline) (place : Standing) : Prop :=
  forall position : Int64, place = .reading position -> p.admitsPosition position = true

theorem admits_of_recorded
    {store : Store} {place : Standing} (h : p.recorded path store = .ok place) :
    p.Admits place := by
  intro position hposition
  cases hposition
  unfold recorded at h
  split at h
  · cases h
  · unfold sourcePlace at h
    split at h
    · cases h
    · cases h
    · split at h
      · next hadmits =>
          cases h
          exact hadmits
      · cases h

theorem admits_standing_of_soundAt
    {c : Cursor p} (h : p.SoundAt Writable c) (haddr : p.Addressable) :
    p.Admits (p.standing c) := by
  induction p with
  | range start stop =>
      intro position _
      rfl
  | tensors source =>
      intro position hposition
      cases hposition
      exact decide_eq_true (h haddr)
  | counting tally input ih => exact ih h haddr
  | faulty failAt input ih => exact ih h haddr
  | batch stage input ih =>
      rcases c with ⟨feed, poisoned⟩
      intro position hposition
      cases feed with
      | drained => cases hposition
      | active c => exact ih h.2 haddr position (Standing.deeper_inj hposition)

theorem soundAt_of_admits
    {c : Cursor p} (h : p.Unpoisoned c) (hadmits : p.Admits (p.standing c)) :
    p.SoundAt Writable c := by
  induction p with
  | range start stop => exact h
  | tensors source =>
      intro _
      exact of_decide_eq_true (hadmits _ rfl)
  | counting tally input ih => exact ih h hadmits
  | faulty failAt input ih => exact ih h hadmits
  | batch stage input ih =>
      rcases c with ⟨feed, poisoned⟩
      refine ⟨h.1, ?_⟩
      cases feed with
      | drained => trivial
      | active c =>
          refine ih h.2 fun position hposition => ?_
          exact hadmits position (congrArg Standing.deeper hposition)

theorem RestoredFrom.soundAt
    {store : Store} {c : Cursor p} (h : p.RestoredFrom path store c) : p.SoundAt Writable c := by
  rcases h with ⟨place, kept, hplace, hrestored⟩
  apply soundAt_of_admits hrestored.unpoisoned
  rw [hrestored.standing_eq]
  exact admits_of_recorded hplace

theorem advance_locked (p : Pipeline) (path : String) :
    Stays (fun c : Cursor p => ¬ p.Unlocked c) (p.advance ctx path) := by
  induction p generalizing path with
  | range start stop =>
      intro usage cell hlocked
      have hpoisoned : cell.poisoned = true := eq_true_of_ne_false hlocked
      show ¬ (advanceRange stop path usage cell).cursor.poisoned = false
      unfold advanceRange
      rw [if_pos hpoisoned]
      exact hlocked
  | tensors source =>
      intro usage next hlocked
      exact absurd trivial hlocked
  | counting tally input ih => exact stays_counting (ih path) tally
  | faulty failAt input ih => exact stays_faulty (ih path) failAt
  | batch stage input ih =>
      intro usage cell hlocked
      rcases cell with ⟨feed, poisoned⟩
      cases eq_true_of_ne_false hlocked
      rw [advance_batch, Stage.pull_of_poisoned rfl]
      exact hlocked

theorem Reachable.invariant
    {property : Cursor p -> Prop} (hstart : property p.start)
    (hrestored : forall (store : Store) (c : Cursor p), p.RestoredFrom path store c -> property c)
    (hnext : forall (usage : Usage) (c : Cursor p), property c ->
      property (p.advance ctx path usage c).cursor)
    {c : Cursor p} (h : p.Reachable ctx path c) : property c := by
  induction h with
  | start => exact hstart
  | restored hc => exact hrestored _ _ ((p.leads path _).1.restoredFrom hc)
  | request request hbefore ih =>
      rename_i c
      cases request with
      | next usage => exact hnext usage c ih
      | save store => exact ih
      | restore store =>
          show property (settled c (p.restoreInPlace path store c)).2
          rcases settled_restoreInPlace path c store with hsame | hmoved
          · rw [hsame]
            exact ih
          · exact hrestored store _ hmoved
      | tellDrained => exact ih

theorem Reachable.soundAt {c : Cursor p} (h : p.Reachable ctx path c) :
    p.Unlocked c -> p.SoundAt Writable c := by
  apply h.invariant
  · intro _
    exact soundAt_start (fun source _ => Int64.le_refl 0) p
  · intro store c hrestored _
    exact hrestored.soundAt
  · intro usage c ih hlock
    have hbefore : p.Unlocked c :=
      Classical.byContradiction fun hlocked => advance_locked p path usage hlocked hlock
    refine advance_keeps_soundAt writable_succ ctx p path usage (ih hbefore) ?_
    intro cause hcrash
    exact (crash_of_advance hcrash).2 hlock

theorem Reachable.unpoisoned {c : Cursor p} (h : p.Reachable ctx path c)
    (hlock : p.Unlocked c) : p.Unpoisoned c := by
  rw [unpoisoned_eq]
  exact (h.soundAt hlock).mono fun _ _ _ => trivial

end

end Pipeline

end TensorPipeline
