import TensorPipeline.Pipeline.Saved
import TensorPipeline.Plan
import TensorPipeline.Proofs.Simulation
import TensorPipeline.Proofs.Tallies

/-!
# Layers put into a pipeline

Counting and failing layers can be put between any two layers of a pipeline, below
all of them and above.  The cursor of what comes of it is a cursor of the bare
pipeline with counts of pulls in between.  Leaving those out commutes with making a
cursor, saving it and restoring it in either way, and with every pull that does not
make one of the layers put in fail.
-/

namespace TensorPipeline

/-- The ways of putting counting and failing layers into a pipeline, with what it
becomes. -/
inductive Layering : Pipeline -> Pipeline -> Type where
  | range (start : Int64) (stop : Option Int64) :
      Layering (.range start stop) (.range start stop)
  | tensors (source : TensorSource) : Layering (.tensors source) (.tensors source)
  | counting (tally : Nat) {p q : Pipeline} (inner : Layering p q) :
      Layering (.counting tally p) (.counting tally q)
  | faulty (failAt : UInt64) {p q : Pipeline} (inner : Layering p q) :
      Layering (.faulty failAt p) (.faulty failAt q)
  | batch (stage : Stage) {p q : Pipeline} (inner : Layering p q) :
      Layering (.batch stage p) (.batch stage q)
  | addCounting (tally : Nat) {p q : Pipeline} (inner : Layering p q) :
      Layering p (.counting tally q)
  | addFaulty (failAt : UInt64) {p q : Pipeline} (inner : Layering p q) :
      Layering p (.faulty failAt q)

def Feed.map {γ δ : Type} (f : γ -> δ) : Feed γ -> Feed δ
  | .active cursor => .active (f cursor)
  | .drained => .drained

def Guarded.map {α β : Type} (f : α -> β) (cell : Guarded α) : Guarded β :=
  ⟨f cell.content, cell.poisoned⟩

namespace Layering

def tallies : {p q : Pipeline} -> Layering p q -> List Nat
  | _, _, range _ _ => []
  | _, _, tensors _ => []
  | _, _, counting _ inner => inner.tallies
  | _, _, faulty _ inner => inner.tallies
  | _, _, batch _ inner => inner.tallies
  | _, _, addCounting tally inner => tally :: inner.tallies
  | _, _, addFaulty _ inner => inner.tallies

def bareCursor : {p q : Pipeline} -> Layering p q -> Cursor q -> Cursor p
  | _, _, range _ _, cell => cell
  | _, _, tensors _, next => next
  | _, _, counting _ inner, cursor => inner.bareCursor cursor
  | _, _, faulty _ inner, cursor => ⟨cursor.pulls, inner.bareCursor cursor.input⟩
  | _, _, batch _ inner, cell => cell.map (Feed.map inner.bareCursor)
  | _, _, addCounting _ inner, cursor => inner.bareCursor cursor
  | _, _, addFaulty _ inner, cursor => inner.bareCursor cursor.input

end Layering

/-!
## What a pipeline tells of itself
-/

/-- What counting and failing layers pass on from their input, and a stage makes of
what its input has. -/
structure Pipeline.PassedOn {α : Type} (value : Pipeline -> α) : Prop where
  counting : forall (tally : Nat) (input : Pipeline),
    value (.counting tally input) = value input
  faulty : forall (failAt : UInt64) (input : Pipeline),
    value (.faulty failAt input) = value input
  batch : forall (stage : Stage) (p q : Pipeline), value q = value p ->
    value (.batch stage q) = value (.batch stage p)

theorem Pipeline.PassedOn.eq
    {α : Type} {value : Pipeline -> α} (h : PassedOn value) {p q : Pipeline}
    (layers : Layering p q) : value q = value p := by
  induction layers with
  | range start stop => rfl
  | tensors source => rfl
  | counting tally inner ih => rw [h.counting, h.counting, ih]
  | faulty failAt inner ih => rw [h.faulty, h.faulty, ih]
  | batch stage inner ih => exact h.batch stage _ _ ih
  | addCounting tally inner ih => rw [h.counting, ih]
  | addFaulty failAt inner ih => rw [h.faulty, ih]

namespace Pipeline

theorem passedOn_dtypes : PassedOn dtypes where
  counting _ _ := rfl
  faulty _ _ := rfl
  batch _ _ _ h := h

theorem passedOn_shapes : PassedOn shapes where
  counting _ _ := rfl
  faulty _ _ := rfl
  batch stage _ _ h := congrArg (List.map stage.leading.concat) h

theorem passedOn_cardinality : PassedOn cardinality where
  counting _ _ := rfl
  faulty _ _ := rfl
  batch stage _ _ h :=
    congrArg (Cardinality.batched · (UInt64.ofNat stage.size) stage.dropRemainder) h

theorem passedOn_description : PassedOn description where
  counting _ _ := rfl
  faulty _ _ := rfl
  batch _ _ _ _ := rfl

theorem passedOn_pathUnder (parent : String) : PassedOn (pathUnder · parent) where
  counting _ _ := rfl
  faulty _ _ := rfl
  batch _ _ _ _ := rfl

theorem passedOn_addTo (b : PlanBuilder) : PassedOn (addTo · b) where
  counting _ _ := rfl
  faulty _ _ := rfl
  batch stage _ _ h := by
    simp only [addTo, h]

end Pipeline

/-!
## Making, saving and restoring
-/

namespace Pipeline

theorem restoreInPlace_start (p : Pipeline) (path : String) (store : Store) :
    p.restoreInPlace path store p.start = p.restoreNew path store := by
  induction p generalizing path with
  | range start stop => exact restoreInPlace_range rfl
  | tensors source => rfl
  | counting tally input ih => exact ih path
  | faulty failAt input ih => rfl
  | batch stage input ih => exact restoreInPlace_batch rfl

theorem restoreInPlace_faulty
    (failAt : UInt64) (input : Pipeline) (path : String) (store : Store) (pulls : UInt64)
    (c : Cursor input) :
    (faulty failAt input).restoreInPlace path store (FaultyCursor.mk pulls c) =
      (input.restoreInPlace path store c).map (FaultyCursor.mk pulls) := by
  simp only [restoreInPlace]
  cases input.restoreInPlace path store c with
  | error e => rfl
  | ok c => rfl

theorem restoreNew_faulty
    (failAt : UInt64) (input : Pipeline) (path : String) (store : Store) :
    (faulty failAt input).restoreNew path store =
      (input.restoreNew path store).map (FaultyCursor.mk 0) := by
  rw [← restoreInPlace_start, ← restoreInPlace_start]
  exact restoreInPlace_faulty failAt input path store 0 input.start

end Pipeline

namespace Layering

variable {p q : Pipeline}

theorem pathUnder_eq (layers : Layering p q) (parent : String) :
    q.pathUnder parent = p.pathUnder parent :=
  (Pipeline.passedOn_pathUnder parent).eq layers

theorem bareCursor_start (layers : Layering p q) : layers.bareCursor q.start = p.start := by
  induction layers with
  | range start stop => rfl
  | tensors source => rfl
  | counting tally inner ih => exact ih
  | faulty failAt inner ih => exact congrArg (FaultyCursor.mk 0) ih
  | batch stage inner ih => exact congrArg (fun c => Guarded.ofContent (Feed.active c)) ih
  | addCounting tally inner ih => exact ih
  | addFaulty failAt inner ih => exact ih

theorem save_bareCursor
    (layers : Layering p q) (path : String) (c : Cursor q) (store : Store) :
    p.save path (layers.bareCursor c) store = q.save path c store := by
  induction layers generalizing path with
  | range start stop => rfl
  | tensors source => rfl
  | counting tally inner ih => exact ih path c
  | faulty failAt inner ih => exact ih path c.input
  | batch stage inner ih =>
      rename_i p q
      rcases c with ⟨feed, poisoned⟩
      cases poisoned with
      | true => rfl
      | false =>
          cases feed with
          | drained => rfl
          | active c =>
              have hinput := ih (q.pathUnder path) c
              rw [inner.pathUnder_eq] at hinput
              simp only [Pipeline.save, inner.pathUnder_eq]
              exact hinput
  | addCounting tally inner ih => exact ih path c
  | addFaulty failAt inner ih => exact ih path c.input

theorem map_restoreNew (layers : Layering p q) (path : String) (store : Store) :
    (q.restoreNew path store).map layers.bareCursor = p.restoreNew path store := by
  induction layers generalizing path with
  | range start stop => exact congrFun Except.map_id _
  | tensors source => exact congrFun Except.map_id _
  | counting tally inner ih => exact ih path
  | faulty failAt inner ih =>
      rename_i p q
      rw [Pipeline.restoreNew_faulty, Pipeline.restoreNew_faulty, ← ih path]
      cases q.restoreNew path store with
      | error e => rfl
      | ok c => rfl
  | batch stage inner ih =>
      rename_i p q
      simp only [Pipeline.restoreNew, inner.pathUnder_eq, ← ih (p.pathUnder path)]
      cases store.contains (drainedKey path) with
      | true => rfl
      | false =>
          cases q.restoreNew (p.pathUnder path) store with
          | error e => rfl
          | ok c => rfl
  | addCounting tally inner ih => exact ih path
  | addFaulty failAt inner ih =>
      rename_i p q
      rw [Pipeline.restoreNew_faulty, ← ih path]
      cases q.restoreNew path store with
      | error e => rfl
      | ok c => rfl

theorem map_restoreInPlace
    (layers : Layering p q) (path : String) (store : Store) (c : Cursor q) :
    (q.restoreInPlace path store c).map layers.bareCursor =
      p.restoreInPlace path store (layers.bareCursor c) := by
  induction layers generalizing path with
  | range start stop => exact congrFun Except.map_id _
  | tensors source => exact congrFun Except.map_id _
  | counting tally inner ih => exact ih path c
  | faulty failAt inner ih =>
      rename_i p q
      rcases c with ⟨pulls, c⟩
      have hbare := Pipeline.restoreInPlace_faulty failAt p path store pulls (inner.bareCursor c)
      rw [Pipeline.restoreInPlace_faulty]
      refine Eq.trans ?_ hbare.symm
      rw [← ih path c]
      cases q.restoreInPlace path store c with
      | error e => rfl
      | ok c => rfl
  | batch stage inner ih =>
      rename_i p q
      rcases c with ⟨feed, poisoned⟩
      cases poisoned with
      | true => rfl
      | false =>
          -- behind a sound lock everything is made anew
          have hlayered : (Pipeline.batch stage q).restoreInPlace path store ⟨feed, false⟩ =
              (Pipeline.batch stage q).restoreNew path store :=
            Pipeline.restoreInPlace_batch rfl
          have hbare : (Pipeline.batch stage p).restoreInPlace path store
                ⟨feed.map inner.bareCursor, false⟩ =
              (Pipeline.batch stage p).restoreNew path store :=
            Pipeline.restoreInPlace_batch rfl
          have hnew := (batch stage inner).map_restoreNew path store
          exact (congrArg (Except.map _) hlayered).trans (hnew.trans hbare.symm)
  | addCounting tally inner ih => exact ih path c
  | addFaulty failAt inner ih =>
      rename_i p q
      rcases c with ⟨pulls, c⟩
      rw [Pipeline.restoreInPlace_faulty]
      refine Eq.trans ?_ (ih path c)
      cases q.restoreInPlace path store c with
      | error e => rfl
      | ok c => rfl

end Layering

/-!
## Tallies left out
-/

namespace Likeness

def Overlooks (L : Likeness) (tallies : List Nat) : Prop :=
  forall {u v : Usage} (tally : Nat), tally ∈ tallies -> L.usages u v ->
    L.usages (u.bump tally) v

def apartFrom (tallies : List Nat) : Likeness where
  failures := Eq
  usages u v := u.requests = v.requests ∧
    forall tally : Nat, tally ∉ tallies -> u.reading tally = v.reading tally
  failures_refl _ := rfl
  poisons_eq h := congrArg Failure.poisons h
  usages_bump tally h :=
    ⟨h.1, fun other hother => by
      rw [Usage.reading_bump, Usage.reading_bump, h.2 other hother]⟩

theorem apartFrom_overlooks (tallies : List Nat) : (apartFrom tallies).Overlooks tallies := by
  rintro u v tally htally ⟨hrequests, hreadings⟩
  refine ⟨hrequests, fun other hother => ?_⟩
  have hne : other ≠ tally := fun heq => hother (heq ▸ htally)
  exact (u.reading_bump_of_ne hne).trans (hreadings other hother)

theorem apartFrom_hiddenFrom (tallies : List Nat) (ctx : Context) :
    (apartFrom tallies).HiddenFrom ctx where
  serve_eq bytes h := congrArg (ctx.allocator.serve · bytes) h.1
  order_eq h := congrArg ctx.pool.schedule.order h.1
  request bytes h := ⟨congrArg (bytes :: ·) h.1, h.2⟩

end Likeness

/-!
## Pulls
-/

theorem Feed.alike_iff {γ δ : Type} {f : γ -> δ} {a : Feed γ} {b : Feed δ} :
    Feed.Alike (fun c d => f c = d) a b <-> a.map f = b := by
  constructor
  · intro h
    cases h with
    | active h => exact congrArg Feed.active h
    | drained => rfl
  · rintro rfl
    cases a with
    | active c => exact Alike.active rfl
    | drained => exact Alike.drained

theorem Guarded.alike_iff
    {γ δ : Type} {f : γ -> δ} {a : Guarded (Feed γ)} {b : Guarded (Feed δ)} :
    Guarded.Alike (Feed.Alike fun c d => f c = d) a b <-> a.map (Feed.map f) = b := by
  rcases a with ⟨feed, poisoned⟩
  rcases b with ⟨feed', poisoned'⟩
  constructor
  · rintro ⟨hfeed, hpoisoned⟩
    cases hpoisoned
    cases Feed.alike_iff.mp hfeed
    rfl
  · intro h
    cases h
    exact ⟨Feed.alike_iff.mpr rfl, rfl⟩

namespace Layering

variable {p q : Pipeline}

/-- In this pull no layer put in comes to the pull on which it fails. -/
def Spares (ctx : Context) : {p q : Pipeline} -> Layering p q -> String -> Usage -> Cursor q -> Prop
  | _, _, range _ _, _, _, _ => True
  | _, _, tensors _, _, _, _ => True
  | _, _, counting tally inner, path, usage, cursor =>
      inner.Spares ctx path (usage.bump tally) cursor
  | _, _, faulty failAt inner, path, usage, cursor =>
      cursor.pulls = failAt ∨ inner.Spares ctx path usage cursor.input
  | _, .batch _ input, batch stage inner, path, usage, cell =>
      stage.PullsMeet (inner.Spares ctx (input.pathUnder path))
        (input.advance ctx (input.pathUnder path)) usage cell
  | _, _, addCounting tally inner, path, usage, cursor =>
      inner.Spares ctx path (usage.bump tally) cursor
  | _, _, addFaulty failAt inner, path, usage, cursor =>
      cursor.pulls ≠ failAt ∧ inner.Spares ctx path usage cursor.input

instance Spares.decidable (ctx : Context) :
    {p q : Pipeline} -> (layers : Layering p q) -> (path : String) -> (usage : Usage) ->
      (cursor : Cursor q) -> Decidable (layers.Spares ctx path usage cursor)
  | _, _, .range _ _, _, _, _ => isTrue trivial
  | _, _, .tensors _, _, _, _ => isTrue trivial
  | _, _, .counting tally inner, path, usage, cursor =>
      Spares.decidable ctx inner path (usage.bump tally) cursor
  | _, _, .faulty failAt inner, path, usage, cursor =>
      let := Spares.decidable ctx inner path usage cursor.input
      inferInstanceAs
        (Decidable (cursor.pulls = failAt ∨ inner.Spares ctx path usage cursor.input))
  | _, .batch _ input, .batch stage inner, path, usage, cell =>
      let := Spares.decidable ctx inner (input.pathUnder path)
      Stage.PullsMeet.decidable stage (input.advance ctx (input.pathUnder path)) usage cell
  | _, _, .addCounting tally inner, path, usage, cursor =>
      Spares.decidable ctx inner path (usage.bump tally) cursor
  | _, _, .addFaulty failAt inner, path, usage, cursor =>
      let := Spares.decidable ctx inner path usage cursor.input
      inferInstanceAs
        (Decidable (cursor.pulls ≠ failAt ∧ inner.Spares ctx path usage cursor.input))

theorem advance_simulates
    {L : Likeness} {ctx : Context} (hctx : L.HiddenFrom ctx) (layers : Layering p q)
    (htallies : L.Overlooks layers.tallies) (path : String) :
    L.SimulatesWhere (layers.Spares ctx path) (fun c d => layers.bareCursor c = d)
      (q.advance ctx path) (p.advance ctx path) := by
  induction layers generalizing path with
  | range start stop =>
      intro u v c d _ husage hcursor
      exact Pipeline.advanceRange_simulates stop path u v c d husage hcursor
  | tensors source =>
      intro u v c d _ husage hcursor
      exact Pipeline.advanceTensors_simulates source u v c d husage hcursor
  | counting tally inner ih =>
      intro u v c d hspares husage hcursor
      exact ih htallies path _ _ _ _ hspares (L.usages_bump tally husage) hcursor
  | faulty failAt inner ih =>
      intro u v c d hspares husage hcursor
      rcases c with ⟨pulls, c⟩
      rcases d with ⟨pulls', d⟩
      have hpulls : pulls = pulls' := congrArg FaultyCursor.pulls hcursor
      have hinput : inner.bareCursor c = d := congrArg FaultyCursor.input hcursor
      cases hpulls
      rw [Pipeline.advance_faulty, Pipeline.advance_faulty]
      split
      · exact ⟨L.answers_refl _, congrArg (FaultyCursor.mk (pulls + 1)) hinput, husage⟩
      · next hpull =>
          have hstep := ih htallies path _ _ _ _ (hspares.resolve_left hpull) husage hinput
          exact ⟨hstep.result, congrArg (FaultyCursor.mk (pulls + 1)) hstep.cursor, hstep.usage⟩
  | batch stage inner ih =>
      rename_i p q
      intro u v c d hspares husage hcursor
      have hinput : L.SimulatesWhere (inner.Spares ctx (q.pathUnder path))
          (fun c d => inner.bareCursor c = d) (q.advance ctx (q.pathUnder path))
          (p.advance ctx (p.pathUnder path)) := by
        rw [← inner.pathUnder_eq path]
        exact ih htallies (q.pathUnder path)
      have hstack {u v : Usage} (window : List Element) (husage : L.usages u v) :=
        hctx.stack_alike husage stage.parallelCopy window
      have hstep := Pipeline.advance_batch_simulates rfl rfl hstack hinput u v c d hspares husage
        (Guarded.alike_iff.mpr hcursor)
      exact ⟨hstep.result, Guarded.alike_iff.mp hstep.cursor, hstep.usage⟩
  | addCounting tally inner ih =>
      intro u v c d hspares husage hcursor
      have htail : L.Overlooks inner.tallies := fun other hother =>
        htallies other (List.mem_cons_of_mem tally hother)
      exact ih htail path _ _ _ _ hspares (htallies tally List.mem_cons_self husage) hcursor
  | addFaulty failAt inner ih =>
      intro u v c d hspares husage hcursor
      rcases c with ⟨pulls, c⟩
      rcases hspares with ⟨hpull, hspares⟩
      have hstep := ih htallies path _ _ _ _ hspares husage hcursor
      rw [Pipeline.advance_faulty, if_neg hpull]
      exact ⟨hstep.result, hstep.cursor, hstep.usage⟩

theorem injected_of_not_spares
    {ctx : Context} (layers : Layering p q) {path : String} {usage : Usage} {c : Cursor q}
    (hnot : ¬ layers.Spares ctx path usage c) :
    exists pull : UInt64,
      (q.advance ctx path usage c).result = .error (.error (.injected pull)) := by
  induction layers generalizing path usage with
  | range start stop => exact absurd trivial hnot
  | tensors source => exact absurd trivial hnot
  | counting tally inner ih => exact ih hnot
  | faulty failAt inner ih =>
      rcases c with ⟨pulls, c⟩
      rcases not_or.mp hnot with ⟨hpull, hinput⟩
      rw [Pipeline.advance_faulty, if_neg hpull]
      exact ih hinput
  | batch stage inner ih =>
      rename_i p q
      have hinput (usage : Usage) (cursor : Cursor q)
          (hinner : ¬ inner.Spares ctx (q.pathUnder path) usage cursor) :
          exists failure : Failure,
            (exists pull : UInt64, failure = .error (.injected pull)) ∧
              (q.advance ctx (q.pathUnder path) usage cursor).result = .error failure := by
        rcases ih hinner with ⟨pull, hpull⟩
        exact ⟨_, ⟨pull, rfl⟩, hpull⟩
      rcases Stage.failed_of_not_pullsMeet hinput hnot path with ⟨_, ⟨pull, rfl⟩, hfailed⟩
      exact ⟨pull, Pipeline.advance_batch_of_failure hfailed⟩
  | addCounting tally inner ih => exact ih hnot
  | addFaulty failAt inner ih =>
      rcases c with ⟨pulls, c⟩
      rw [Pipeline.advance_faulty]
      split
      · exact ⟨pulls, rfl⟩
      · next hpull => exact ih fun hinput => hnot ⟨hpull, hinput⟩

end Layering

end TensorPipeline
