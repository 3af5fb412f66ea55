import TensorPipeline.Proofs.Memoryless
import TensorPipeline.Proofs.Wire.RoundTrip

/-!
# Resuming from a saved position

A cursor that no crash has touched is saved as one entry: the position of the
source, or the marker of the outermost batch stage whose input is used up.  What
lies below such a stage is not saved, and not held either, so restoring the entry
gives the very cursor that was saved, whichever way it is restored.
-/

namespace TensorPipeline
namespace Pipeline

def FaultFree : Pipeline -> Prop
  | range _ _ => True
  | tensors _ => True
  | counting _ input => input.FaultFree
  | faulty _ _ => False
  | batch _ input => input.FaultFree

/-- A list of elements is short enough for its positions to be written as signed
integers, as any list in memory is. -/
def Addressable : Pipeline -> Prop
  | range _ _ => True
  | tensors source => source.elements.length < 2 ^ 63
  | counting _ input => input.Addressable
  | faulty _ input => input.Addressable
  | batch _ input => input.Addressable

end Pipeline

def Feed.Holds {γ : Type} (property : γ -> Prop) : Feed γ -> Prop
  | .active cursor => property cursor
  | .drained => True

namespace Pipeline

def Sound : (p : Pipeline) -> Cursor p -> Prop
  | range _ _, cell => cell.poisoned = false
  | tensors source, next =>
      let next : UInt64 := next
      next.toNat ≤ source.elements.length
  | counting _ input, cursor => input.Sound cursor
  | faulty _ input, cursor => input.Sound cursor.input
  | batch _ input, cell => cell.poisoned = false ∧ cell.content.Holds input.Sound

def Unlocked : (p : Pipeline) -> Cursor p -> Prop
  | range _ _, cell => cell.poisoned = false
  | tensors _, _ => True
  | counting _ input, cursor => input.Unlocked cursor
  | faulty _ input, cursor => input.Unlocked cursor.input
  | batch _ _, cell => cell.poisoned = false

/-- No crash has left a lock poisoned, and every position in a list is one of the
given places. -/
def SoundAt (places : TensorSource -> UInt64 -> Prop) : (p : Pipeline) -> Cursor p -> Prop
  | range _ _, cell => cell.poisoned = false
  | tensors source, next => places source next
  | counting _ input, cursor => input.SoundAt places cursor
  | faulty _ input, cursor => input.SoundAt places cursor.input
  | batch _ input, cell => cell.poisoned = false ∧ cell.content.Holds (input.SoundAt places)

theorem SoundAt.mono
    {places places' : TensorSource -> UInt64 -> Prop} {p : Pipeline} {c : Cursor p}
    (h : p.SoundAt places c)
    (hplaces : forall (source : TensorSource) (next : UInt64),
      places source next -> places' source next) : p.SoundAt places' c := by
  induction p with
  | range first stop => exact h
  | tensors source => exact hplaces source c h
  | counting tally input ih => exact ih h
  | faulty failAt input ih => exact ih h
  | batch stage input ih =>
      rcases c with ⟨feed, poisoned⟩
      refine ⟨h.1, ?_⟩
      cases feed with
      | drained => trivial
      | active c => exact ih h.2

theorem sound_eq (p : Pipeline) :
    p.Sound = p.SoundAt fun source next => next.toNat ≤ source.elements.length := by
  induction p with
  | range first stop => rfl
  | tensors source => rfl
  | counting tally input ih => exact ih
  | faulty failAt input ih => exact funext fun cursor => congrFun ih cursor.input
  | batch stage input ih =>
      funext cell
      rw [Sound, SoundAt, ih]

end Pipeline

/-!
## Pulls keep a cursor sound
-/

def Quiet {α : Type} (result : Except Failure α) : Prop :=
  forall c : Crash, result ≠ .error (.crash c)

theorem quiet_ok {α : Type} (value : α) : Quiet (.ok value) := by
  intro c hcrash
  cases hcrash

def Keeps {γ : Type} (property : γ -> Prop) (advance : Usage -> γ -> Step γ) : Prop :=
  forall (usage : Usage) {cursor : γ}, property cursor ->
    Quiet (advance usage cursor).result -> property (advance usage cursor).cursor

section

variable {γ : Type} {property : γ -> Prop} {advance : Usage -> γ -> Step γ}

theorem pullWindow_keeps
    (hkeeps : Keeps property advance) (room : Nat) (taken : List Element) (usage : Usage)
    {cursor : γ} (hcursor : property cursor)
    (hquiet : forall c : Crash,
      (pullWindow advance room taken usage cursor).1 ≠ .failed (.crash c)) :
    property (pullWindow advance room taken usage cursor).2.1 := by
  induction room generalizing taken usage cursor with
  | zero => exact hcursor
  | succ room ih =>
      have hstep := hkeeps usage hcursor
      unfold pullWindow at hquiet ⊢
      rcases hs : advance usage cursor with ⟨result, cursor', usage'⟩
      rw [hs] at hstep hquiet
      cases result with
      | error f =>
          refine hstep ?_
          intro c hcrash
          cases hcrash
          exact hquiet c rfl
      | ok e? =>
          have hcursor' := hstep (quiet_ok e?)
          cases e? with
          | none => exact hcursor'
          | some e => exact ih (e :: taken) usage' hcursor' hquiet

theorem Stage.pull_keeps
    (hkeeps : Keeps property advance) (s : Stage) (path : String) (usage : Usage)
    {feed : Feed γ} (hfeed : feed.Holds property)
    (hquiet : Quiet (s.pull path advance usage (Guarded.ofContent feed)).1) :
    (s.pull path advance usage (Guarded.ofContent feed)).2.1.poisoned = false ∧
      (s.pull path advance usage (Guarded.ofContent feed)).2.1.content.Holds property := by
  cases feed with
  | drained => exact ⟨rfl, trivial⟩
  | active cursor =>
      by_cases hsize : s.size ≤ windowLimit
      · have hwindow := pullWindow_keeps hkeeps s.size [] usage hfeed
        rw [s.pull_of_active hsize] at hquiet ⊢
        rcases hp : pullWindow advance s.size [] usage cursor with ⟨pulled, cursor', usage'⟩
        rw [hp] at hwindow hquiet
        cases pulled with
        | full window => exact ⟨rfl, hwindow fun c hcrash => by cases hcrash⟩
        | ended window =>
            -- the cursor of an input that has ended is not kept
            exact ⟨rfl, trivial⟩
        | failed f =>
            cases f with
            | error e => exact ⟨rfl, hwindow fun c hcrash => by cases hcrash⟩
            | crash c => exact absurd rfl (hquiet c)
      · rw [pull_of_large (Nat.lt_of_not_le hsize)] at hquiet
        exact absurd rfl (hquiet .capacityOverflow)

end

namespace Pipeline

theorem soundAt_start
    {places : TensorSource -> UInt64 -> Prop} (h : forall source : TensorSource, places source 0)
    (p : Pipeline) : p.SoundAt places p.start := by
  induction p with
  | range first stop => rfl
  | tensors source => exact h source
  | counting tally input ih => exact ih
  | faulty failAt input ih => exact ih
  | batch stage input ih => exact ⟨rfl, ih⟩

theorem sound_start (p : Pipeline) : p.Sound p.start := by
  rw [sound_eq]
  exact soundAt_start (fun _ => Nat.zero_le _) p

theorem advanceRange_sound
    {stop : Option Int64} {path : String} {usage : Usage} {cell : Guarded Int64}
    (hcell : cell.poisoned = false)
    (hquiet : Quiet (advanceRange stop path usage cell).result) :
    (advanceRange stop path usage cell).cursor.poisoned = false := by
  unfold advanceRange at hquiet ⊢
  split
  · exact hcell
  · split
    · exact hcell
    · split
      · next hpoisoned hstop hmax =>
          rw [if_neg hpoisoned, if_neg hstop, if_pos hmax] at hquiet
          exact absurd rfl (hquiet _)
      · rfl

theorem toNat_succ_of_getElem?
    {source : TensorSource} (hlength : source.elements.length < 2 ^ 63) {next : UInt64}
    {e : Element} (h : source.elements[next.toNat]? = some e) :
    (next + 1).toNat = next.toNat + 1 := by
  have hlt := (List.getElem?_eq_some_iff.mp h).1
  rw [UInt64.toNat_add]
  show (next.toNat + 1) % 2 ^ 64 = next.toNat + 1
  omega

theorem advance_keeps_soundAt
    {places : TensorSource -> UInt64 -> Prop}
    (hplaces : forall (source : TensorSource) (next : UInt64) (e : Element),
      source.elements[next.toNat]? = some e -> places source (next + 1))
    (ctx : Context) (p : Pipeline) (path : String) :
    Keeps (p.SoundAt places) (p.advance ctx path) := by
  induction p generalizing path with
  | range first stop =>
      intro usage cell hcell hquiet
      exact advanceRange_sound hcell hquiet
  | tensors source =>
      intro usage next hnext hquiet
      show places source (advanceTensors source usage next).cursor
      unfold advanceTensors
      split
      · next e he => exact hplaces source next e he
      · exact hnext
  | counting tally input ih =>
      intro usage cursor hcursor hquiet
      exact ih path _ hcursor hquiet
  | faulty failAt input ih =>
      intro usage cursor hcursor hquiet
      rcases cursor with ⟨pulls, cursor⟩
      rw [advance_faulty] at hquiet ⊢
      by_cases hpull : pulls = failAt
      · rw [if_pos hpull]
        exact hcursor
      · rw [if_neg hpull] at hquiet ⊢
        exact ih path usage hcursor hquiet
  | batch stage input ih =>
      intro usage cell hcell hquiet
      rcases cell with ⟨feed, poisoned⟩
      rcases hcell with ⟨hpoisoned, hfeed⟩
      cases hpoisoned
      have hpull := Stage.pull_keeps (ih (input.pathUnder path)) stage path usage hfeed
      rw [advance_batch] at hquiet ⊢
      rw [Guarded.ofContent] at hpull
      rcases hp : stage.pull path (input.advance ctx (input.pathUnder path)) usage
        ⟨feed, false⟩ with ⟨result, cell', usage'⟩
      rw [hp] at hpull hquiet
      cases result with
      | error f =>
          refine hpull ?_
          intro c hcrash
          cases hcrash
          exact hquiet c rfl
      | ok window => exact hpull (quiet_ok window)

theorem advance_keeps_sound (ctx : Context) (p : Pipeline) (path : String) :
    Keeps p.Sound (p.advance ctx path) := by
  rw [sound_eq]
  apply advance_keeps_soundAt
  intro source next e he
  have hlt := (List.getElem?_eq_some_iff.mp he).1
  rw [UInt64.toNat_add]
  exact Nat.le_trans (Nat.mod_le _ _) hlt

theorem sound_cursorAfter
    {ctx : Context} {p : Pipeline} {path : String} {usage : Nat -> Usage} {n : Nat}
    (hquiet : forall i : Nat, i < n -> Quiet (p.answer ctx path usage i)) :
    p.Sound (p.cursorAfter ctx path usage n) := by
  induction n with
  | zero => exact p.sound_start
  | succ n ih =>
      have hbefore := ih fun i hi => hquiet i (Nat.lt_succ_of_lt hi)
      exact advance_keeps_sound ctx p path (usage n) hbefore (hquiet n (Nat.lt_succ_self n))

end Pipeline

/-!
## The entry that is saved
-/

namespace Pipeline

/-- The one entry that a cursor writes: the position of the source, unless a
stage on the way to it is used up. -/
def savedEntry : (p : Pipeline) -> String -> Cursor p -> String × StateValue
  | range _ _, path, cell =>
      let cell : Guarded Int64 := cell
      (nextKey path, .int cell.content)
  | tensors _, path, next =>
      let next : UInt64 := next
      (nextKey path, .int next.toInt64)
  | counting _ input, path, cursor => input.savedEntry path cursor
  | faulty _ input, path, cursor => input.savedEntry path cursor.input
  | batch _ input, path, cell =>
      match cell.content with
      | Feed.drained => (drainedKey path, .text "")
      | Feed.active cursor => input.savedEntry (input.pathUnder path) cursor

def savedOver (p : Pipeline) (path : String) (c : Cursor p) (store : Store) : Store :=
  store.write (p.savedEntry path c).1 (p.savedEntry path c).2

def savedStore (p : Pipeline) (path : String) (c : Cursor p) : Store :=
  Table.empty.write (p.savedEntry path c).1 (p.savedEntry path c).2

theorem save_of_soundAt
    {places : TensorSource -> UInt64 -> Prop} {p : Pipeline} {c : Cursor p}
    (hsound : p.SoundAt places c) (path : String) (store : Store) :
    p.save path c store =
      .ok (store.write (p.savedEntry path c).1 (p.savedEntry path c).2) := by
  induction p generalizing path with
  | range first stop =>
      have hcell : c.poisoned = false := hsound
      simp only [save, hcell]
      rfl
  | tensors source => rfl
  | counting tally input ih => exact ih hsound path
  | faulty failAt input ih => exact ih hsound path
  | batch stage input ih =>
      rcases c with ⟨feed, poisoned⟩
      rcases hsound with ⟨hpoisoned, hfeed⟩
      cases hpoisoned
      cases feed with
      | drained => rfl
      | active cursor => exact ih hfeed (input.pathUnder path)

theorem save_of_sound
    {p : Pipeline} {c : Cursor p} (hsound : p.Sound c) (path : String) (store : Store) :
    p.save path c store =
      .ok (store.write (p.savedEntry path c).1 (p.savedEntry path c).2) := by
  rw [sound_eq] at hsound
  exact save_of_soundAt hsound path store

theorem pathUnder_eq (p : Pipeline) (parent : String) :
    exists name : String, p.pathUnder parent = parent ++ ("::" ++ name) := by
  induction p with
  | range first stop => exact Naming.pathUnder_eq _ parent _
  | tensors source => exact Naming.pathUnder_eq _ parent _
  | counting tally input ih => exact ih
  | faulty failAt input ih => exact ih
  | batch stage input ih => exact Naming.pathUnder_eq _ parent _

theorem savedEntry_key_eq (p : Pipeline) (path : String) (c : Cursor p) :
    exists name : String, (p.savedEntry path c).1 = path ++ name := by
  induction p generalizing path with
  | range first stop => exact ⟨_, Naming.entryKey_eq path _⟩
  | tensors source => exact ⟨_, Naming.entryKey_eq path _⟩
  | counting tally input ih => exact ih path c
  | faulty failAt input ih => exact ih path c.input
  | batch stage input ih =>
      rcases c with ⟨feed, poisoned⟩
      cases feed with
      | drained => exact ⟨_, Naming.entryKey_eq path _⟩
      | active cursor =>
          rcases input.pathUnder_eq path with ⟨below, hpath⟩
          rcases ih (input.pathUnder path) cursor with ⟨name, hname⟩
          refine ⟨"::" ++ below ++ name, hname.trans ?_⟩
          rw [hpath, String.append_assoc]

theorem drainedKey_ne_savedEntry_key (p : Pipeline) (path : String) (c : Cursor p) :
    drainedKey path ≠ (p.savedEntry (p.pathUnder path) c).1 := by
  rcases p.pathUnder_eq path with ⟨below, hpath⟩
  rcases p.savedEntry_key_eq (p.pathUnder path) c with ⟨name, hname⟩
  rw [hname, hpath, String.append_assoc, String.append_assoc]
  exact Naming.entryKey_ne_of_below (by decide)

theorem get?_savedOver_key (p : Pipeline) (path : String) (c : Cursor p) (store : Store) :
    (p.savedOver path c store).get? (p.savedEntry path c).1 = some (p.savedEntry path c).2 := by
  rw [savedOver, Table.get?_write, if_pos rfl]

theorem get?_savedOver_of_ne
    {p : Pipeline} {path : String} {c : Cursor p} {key : String}
    (h : key ≠ (p.savedEntry path c).1) (store : Store) :
    (p.savedOver path c store).get? key = store.get? key := by
  rw [savedOver, Table.get?_write, if_neg h]

theorem contains_drainedKey_savedOver (p : Pipeline) (path : String) (c : Cursor p)
    (store : Store) :
    (p.savedOver (p.pathUnder path) c store).contains (drainedKey path) =
      store.contains (drainedKey path) := by
  rw [Table.contains, get?_savedOver_of_ne (p.drainedKey_ne_savedEntry_key path c)]
  rfl

/-!
## Restoring that entry
-/

theorem restoreNew_savedStore
    {p : Pipeline} (hfree : p.FaultFree) (haddr : p.Addressable) {c : Cursor p}
    (hsound : p.Sound c) (path : String) :
    p.restoreNew path (p.savedStore path c) = .ok c := by
  induction p generalizing path with
  | range first stop =>
      have hread := Store.readInt_of_get? (get?_savedOver_key _ path c Table.empty)
      rcases c with ⟨next, poisoned⟩
      cases hsound
      exact restoreNew_range hread
  | tensors source =>
      have hread := Store.readPosition_of_get? (Nat.lt_of_le_of_lt hsound haddr)
        (get?_savedOver_key _ path c Table.empty)
      exact restoreNew_tensors hread
  | counting tally input ih => exact ih hfree haddr hsound path
  | faulty failAt input ih => exact hfree.elim
  | batch stage input ih =>
      have hentry := get?_savedOver_key (batch stage input) path c Table.empty
      rcases c with ⟨feed, poisoned⟩
      rcases hsound with ⟨hpoisoned, hfeed⟩
      cases hpoisoned
      cases feed with
      | drained => exact restoreNew_batch_of_drained (congrArg Option.isSome hentry)
      | active cursor =>
          -- the one entry lies below this stage, so its own marker is not there
          have hmarker := input.contains_drainedKey_savedOver path cursor Table.empty
          exact restoreNew_batch_of_active hmarker (ih hfree haddr hfeed (input.pathUnder path))

theorem restoreInPlace_eq_restoreNew
    {p : Pipeline} (hfree : p.FaultFree) {other : Cursor p} (hother : p.Unlocked other)
    (path : String) (store : Store) :
    p.restoreInPlace path store other = p.restoreNew path store := by
  induction p generalizing path with
  | range first stop => exact restoreInPlace_range hother
  | tensors source => rfl
  | counting tally input ih => exact ih hfree hother path
  | faulty failAt input ih => exact hfree.elim
  | batch stage input ih => exact restoreInPlace_batch hother

theorem fits_savedStore
    {p : Pipeline} {path : String} {c : Cursor p}
    (hkey : Wire.Fits (p.savedEntry path c).1) : Wire.FitsStore (p.savedStore path c) := by
  have hvalue : Wire.FitsValue (p.savedEntry path c).2 := by
    clear hkey
    induction p generalizing path with
    | range first stop => trivial
    | tensors source => trivial
    | counting tally input ih => exact ih
    | faulty failAt input ih => exact ih
    | batch stage input ih =>
        rcases c with ⟨feed, poisoned⟩
        cases feed with
        | drained => exact Wire.fits_empty
        | active cursor => exact ih
  constructor
  · show 1 < 2 ^ 64
    omega
  · intro e he
    cases List.mem_singleton.mp he
    exact ⟨hkey, hvalue⟩

end Pipeline

/-!
## The round trip
-/

theorem Iterator.restore_savedStore
    {p : Pipeline} (hfree : p.FaultFree) (haddr : p.Addressable) (parent : String)
    {c : Cursor p} (hsound : p.Sound c) :
    let path := p.pathUnder parent
    restoredUnder p parent (p.savedStore path c) = .ok ⟨p, path, c⟩ ∧
      forall other : Cursor p, p.Unlocked other ->
        restore ⟨p, path, other⟩ (p.savedStore path c) = .ok ⟨p, path, c⟩ := by
  intro path
  have hnew := Pipeline.restoreNew_savedStore hfree haddr hsound path
  refine ⟨restoredUnder_of_restoreNew hnew, ?_⟩
  intro other hother
  apply restore_of_restoreInPlace
  rw [Pipeline.restoreInPlace_eq_restoreNew hfree hother]
  exact hnew

/-- Wherever calls without a crash have left an iterator, saving it writes a
store from which either way of restoring gives the same iterator again: pipeline,
path and cursor, and with them whatever it saves.  It goes on with the answers that
the saved one would give next: those of the run, if its calls find used what the
calls of the run find, and in a context without a memory whatever they find.  The
store passes unharmed through the file of a snapshot, whose texts need a length
that can be written down. -/
theorem saved_iterator_resumes
    {p : Pipeline} (hfree : p.FaultFree) (haddr : p.Addressable)
    (ctx : Context) (parent : String) (usage : Nat -> Usage) (n : Nat)
    (hquiet : forall i : Nat, i < n -> Quiet (p.answer ctx (p.pathUnder parent) usage i)) :
    let path := p.pathUnder parent
    let it : Iterator := ⟨p, path, p.cursorAfter ctx path usage n⟩
    exists store : Store,
      it.save Table.empty = .ok store ∧
      Iterator.restoredUnder p parent store = .ok it ∧
      (forall other : Cursor p, p.Unlocked other ->
        Iterator.restore ⟨p, path, other⟩ store = .ok it) ∧
      (forall k : Nat,
        it.answer ctx (fun i => usage (n + i)) k = p.answer ctx path usage (n + k)) ∧
      (ctx.Memoryless -> forall (ws : Nat -> Usage) (k : Nat),
        it.answer ctx ws k = p.answer ctx path usage (n + k)) ∧
      (forall (job : String) (time : UInt64), Wire.Fits job -> Wire.Fits path ->
        (forall e : String × StateValue, e ∈ store.entries -> Wire.Fits e.1) ->
        let snapshot := Snapshot.ofState job path time store
        Snapshot.ofBytes? (Wire.writeSnapshot snapshot) = some snapshot ∧
          snapshot.intact = true) := by
  intro path it
  have hsound : p.Sound it.cursor := Pipeline.sound_cursorAfter hquiet
  rcases Iterator.restore_savedStore hfree haddr parent hsound with ⟨hnew, hplace⟩
  refine ⟨p.savedStore path it.cursor, Pipeline.save_of_sound hsound path _, hnew, hplace,
    Iterator.answer_cursorAfter p ctx path usage n,
    fun hctx ws k => hctx.answer_after p path usage ws usage n k, ?_⟩
  intro job time hjob hpath hkeys snapshot
  have hfits : Wire.FitsSnapshot snapshot :=
    { job := hjob
      path := hpath
      state := Pipeline.fits_savedStore (hkeys _ List.mem_cons_self)
      checksum := Wire.fits_checksum _ }
  exact ⟨Snapshot.ofBytes?_writeSnapshot hfits, beq_self_eq_true _⟩

def singlesOfPairs : Pipeline :=
  .batch { Stage.singles with dropRemainder := true }
    (.batch { Stage.pairs with version := .v1 } (.counting 0 (.range 0 (some 3))))

theorem saved_iterator_resumes_between_stages :
    singlesOfPairs.FaultFree ∧ singlesOfPairs.Addressable ∧
      (forall i : Nat, i < 2 -> Quiet (singlesOfPairs.answer Context.default
        (singlesOfPairs.pathUnder "Iterator") (fun _ => Usage.empty) i)) ∧
      exists store : Store,
        store.entries = [("Iterator::BatchV2::Batch:input_impl_empty", .text "")] ∧
        (Iterator.restore (.startUnder singlesOfPairs "Iterator") store).map Iterator.drained? =
          .ok (some (.ok false)) ∧
        (Iterator.restore (.startUnder singlesOfPairs "Iterator") store).map
            (fun it => it.answer Context.default (fun _ => Usage.empty) 0) =
          .ok (.ok none) ∧
        (Snapshot.ofBytes? (Wire.writeSnapshot (Snapshot.ofState "pairs"
          (singlesOfPairs.pathUnder "Iterator") 1700000000000 store))).map Snapshot.state =
            some store := by
  have hfree : singlesOfPairs.FaultFree := trivial
  have haddr : singlesOfPairs.Addressable := trivial
  have hfirst : singlesOfPairs.answer Context.default
      (singlesOfPairs.pathUnder "Iterator") (fun _ => Usage.empty) 0 =
        .ok (some [⟨.int64, ⟨[1, 2]⟩, [0, 0, 0, 0, 0, 0, 0, 0, 1, 0, 0, 0, 0, 0, 0, 0]⟩]) := by
    with_unfolding_all rfl
  have hsecond : singlesOfPairs.answer Context.default
      (singlesOfPairs.pathUnder "Iterator") (fun _ => Usage.empty) 1 =
        .ok (some [⟨.int64, ⟨[1, 1]⟩, [2, 0, 0, 0, 0, 0, 0, 0]⟩]) := by
    with_unfolding_all rfl
  have hquiet : forall i : Nat, i < 2 -> Quiet (singlesOfPairs.answer Context.default
      (singlesOfPairs.pathUnder "Iterator") (fun _ => Usage.empty) i) := by
    intro i hi
    rcases i with _ | i
    · rw [hfirst]
      exact quiet_ok _
    · rcases i with _ | i
      · rw [hsecond]
        exact quiet_ok _
      · omega
  have hcursor : singlesOfPairs.cursorAfter Context.default
      (singlesOfPairs.pathUnder "Iterator") (fun _ => Usage.empty) 2 =
        Guarded.ofContent (Feed.active (Guarded.ofContent Feed.drained)) := by
    with_unfolding_all rfl
  rcases saved_iterator_resumes hfree haddr Context.default "Iterator" (fun _ => Usage.empty) 2
    hquiet with ⟨store, hsave, hnew, hplace, hanswers, _, hfile⟩
  have hrestored := hplace singlesOfPairs.start rfl
  have hthird : singlesOfPairs.answer Context.default
      (singlesOfPairs.pathUnder "Iterator") (fun _ => Usage.empty) 2 = .ok none := by
    with_unfolding_all rfl
  rw [hcursor] at hsave
  have hentries : store.entries =
      [("Iterator::BatchV2::Batch:input_impl_empty", .text "")] := by
    cases hsave
    decide
  have hkeys : forall e : String × StateValue, e ∈ store.entries -> Wire.Fits e.1 := by
    intro e he
    rw [hentries] at he
    cases List.mem_singleton.mp he
    decide
  refine ⟨hfree, haddr, hquiet, store, hentries, ?_, ?_, ?_⟩
  · rw [hcursor] at hrestored
    exact congrArg (Except.map Iterator.drained?) hrestored
  · exact (congrArg (Except.map _) hrestored).trans (congrArg _ ((hanswers 0).trans hthird))
  · exact congrArg (Option.map Snapshot.state)
      (hfile "pairs" 1700000000000 (by decide) (by decide) hkeys).1

end TensorPipeline
