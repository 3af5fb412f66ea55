import Mathlib.Control.Monad.Basic
import TensorPipeline.Proofs.Layers
import TensorPipeline.Proofs.Restoring

/-!
# Layers that nobody notices

A client makes iterators over one pipeline or restores them from stores, asks any of
them for elements, to be saved and to be moved to what a store says, and has the
pipeline describe itself.  The same client over the same pipeline with counting and
failing layers put in gets the same replies, as long as no layer put in comes to the
pull on which it fails.  The counts of such layers are all that differs afterwards.
-/

namespace TensorPipeline
namespace Dialogue

/-- What a client asks for.  Iterators are numbered in the order in which they were
made. -/
inductive Request where
  | make (parent : String)
  | restoreNew (parent : String) (store : Store)
  | next (number : Nat)
  | save (number : Nat) (store : Store)
  | restore (number : Nat) (store : Store)
  | promise
  | plan (builder : PlanBuilder)

inductive Reply where
  | made (path : String)
  | notMade (e : Error)
  | delivered (result : Except Failure (Option Element))
  | saved (result : Except Error Store)
  | restored (result : Except Error Unit)
  | promised (dtypes : List DType) (shapes : List PartialShape) (cardinality : Cardinality)
      (description : String)
  | planned (builder : PlanBuilder) (id : UInt64)
  | noIterator
deriving DecidableEq

end Dialogue

structure Dialogue (p : Pipeline) where
  iterators : List (String × Cursor p)
  usage : Usage

namespace Dialogue

variable {p : Pipeline}

def start (p : Pipeline) (usage : Usage) : Dialogue p := ⟨[], usage⟩

def opened (x : Dialogue p) (path : String) (cursor : Cursor p) : Dialogue p :=
  { x with iterators := x.iterators ++ [(path, cursor)] }

def ask (x : Dialogue p) (number : Nat)
    (answer : String -> Usage -> Cursor p -> Reply × Cursor p × Usage) : Reply × Dialogue p :=
  match x.iterators[number]? with
  | none => (.noIterator, x)
  | some (path, cursor) =>
      let (reply, cursor, usage) := answer path x.usage cursor
      (reply, ⟨x.iterators.set number (path, cursor), usage⟩)

def respond (ctx : Context) (x : Dialogue p) : Request -> Reply × Dialogue p
  | .make parent => (.made (p.pathUnder parent), x.opened (p.pathUnder parent) p.start)
  | .restoreNew parent store =>
      match p.restoreNew (p.pathUnder parent) store with
      | .error e => (.notMade e, x)
      | .ok cursor => (.made (p.pathUnder parent), x.opened (p.pathUnder parent) cursor)
  | .next number =>
      x.ask number fun path usage cursor =>
        let step := p.advance ctx path usage cursor
        (.delivered step.result, step.cursor, step.usage)
  | .save number store =>
      x.ask number fun path usage cursor => (.saved (p.save path cursor store), cursor, usage)
  | .restore number store =>
      x.ask number fun path usage cursor =>
        let (result, moved) := Pipeline.settled cursor (p.restoreInPlace path store cursor)
        (.restored result, moved, usage)
  | .promise => (.promised p.dtypes p.shapes p.cardinality p.description, x)
  | .plan builder =>
      let (builder, id) := p.addTo builder
      (.planned builder id, x)

def replies (ctx : Context) : Dialogue p -> List Request -> List Reply
  | _, [] => []
  | x, request :: requests =>
      (x.respond ctx request).1 :: replies ctx (x.respond ctx request).2 requests

def after (ctx : Context) (x : Dialogue p) (requests : List Request) : Dialogue p :=
  requests.foldl (fun x request => (x.respond ctx request).2) x

end Dialogue

namespace Layering

variable {p q : Pipeline} {ctx : Context}

/-- Only a request for an element pulls, and in it no layer put in comes to the pull on
which it fails. -/
def SparesRequest (layers : Layering p q) (ctx : Context) (x : Dialogue q) :
    Dialogue.Request -> Prop
  | .next number =>
      match x.iterators[number]? with
      | none => True
      | some (path, cursor) => layers.Spares ctx path x.usage cursor
  | _ => True

def SparesAll (layers : Layering p q) (ctx : Context) : Dialogue q -> List Dialogue.Request -> Prop
  | _, [] => True
  | x, request :: requests =>
      layers.SparesRequest ctx x request ∧ layers.SparesAll ctx (x.respond ctx request).2 requests

instance (layers : Layering p q) (ctx : Context) (x : Dialogue q) :
    (request : Dialogue.Request) -> Decidable (layers.SparesRequest ctx x request)
  | .make _ => isTrue trivial
  | .restoreNew _ _ => isTrue trivial
  | .next number =>
      match hfound : x.iterators[number]? with
      | none => isTrue (by simp only [SparesRequest, hfound])
      | some (path, cursor) =>
          decidable_of_iff (layers.Spares ctx path x.usage cursor)
            (by simp only [SparesRequest, hfound])
  | .save _ _ => isTrue trivial
  | .restore _ _ => isTrue trivial
  | .promise => isTrue trivial
  | .plan _ => isTrue trivial

instance SparesAll.decidable (layers : Layering p q) (ctx : Context) :
    (x : Dialogue q) -> (requests : List Dialogue.Request) ->
      Decidable (layers.SparesAll ctx x requests)
  | _, [] => isTrue trivial
  | x, request :: requests =>
      let := SparesAll.decidable layers ctx (x.respond ctx request).2 requests
      inferInstanceAs
        (Decidable
          (layers.SparesRequest ctx x request ∧
            layers.SparesAll ctx (x.respond ctx request).2 requests))

/-- The bare dialogue has the bare cursors, and has used the same but for what the
layers put in have counted. -/
structure Matches (layers : Layering p q) (x : Dialogue q) (y : Dialogue p) : Prop where
  iterators : x.iterators.map (Prod.map id layers.bareCursor) = y.iterators
  usages : (Likeness.apartFrom layers.tallies).usages x.usage y.usage

structure SameAnswer (layers : Layering p q) (a : Dialogue.Reply × Cursor q × Usage)
    (b : Dialogue.Reply × Cursor p × Usage) : Prop where
  reply : a.1 = b.1
  cursor : layers.bareCursor a.2.1 = b.2.1
  usages : (Likeness.apartFrom layers.tallies).usages a.2.2 b.2.2

section

variable {layers : Layering p q} {x : Dialogue q} {y : Dialogue p}

theorem Matches.start (layers : Layering p q) (usage : Usage) :
    layers.Matches (Dialogue.start q usage) (Dialogue.start p usage) :=
  ⟨rfl, rfl, fun _ _ => rfl⟩

theorem Matches.opened (h : layers.Matches x y) (path : String) (c : Cursor q) :
    layers.Matches (x.opened path c) (y.opened path (layers.bareCursor c)) := by
  refine ⟨?_, h.usages⟩
  rw [Dialogue.opened, Dialogue.opened, List.map_append, h.iterators]
  rfl

theorem Matches.ask
    (h : layers.Matches x y) (number : Nat)
    {answer : String -> Usage -> Cursor q -> Dialogue.Reply × Cursor q × Usage}
    {answer' : String -> Usage -> Cursor p -> Dialogue.Reply × Cursor p × Usage}
    (hanswer : forall (path : String) (c : Cursor q), x.iterators[number]? = some (path, c) ->
      layers.SameAnswer (answer path x.usage c) (answer' path y.usage (layers.bareCursor c))) :
    (x.ask number answer).1 = (y.ask number answer').1 ∧
      layers.Matches (x.ask number answer).2 (y.ask number answer').2 := by
  unfold Dialogue.ask
  rw [← h.iterators, List.getElem?_map]
  cases hfound : x.iterators[number]? with
  | none => exact ⟨rfl, h⟩
  | some found =>
      rcases found with ⟨path, c⟩
      have hsame := hanswer path c hfound
      refine ⟨hsame.reply, ?_, hsame.usages⟩
      rw [List.map_set]
      exact congrArg (fun c => (x.iterators.map _).set number (path, c)) hsame.cursor

/-!
## One request
-/

theorem sameAnswer_next
    {u v : Usage} (husages : (Likeness.apartFrom layers.tallies).usages u v) {path : String}
    {c : Cursor q} (hspares : layers.Spares ctx path u c) :
    layers.SameAnswer
      (.delivered (q.advance ctx path u c).result, (q.advance ctx path u c).cursor,
        (q.advance ctx path u c).usage)
      (.delivered (p.advance ctx path v (layers.bareCursor c)).result,
        (p.advance ctx path v (layers.bareCursor c)).cursor,
        (p.advance ctx path v (layers.bareCursor c)).usage) := by
  have hhidden := Likeness.apartFrom_hiddenFrom layers.tallies ctx
  have hstep := advance_simulates hhidden layers (Likeness.apartFrom_overlooks _) path u v c _
    hspares husages rfl
  exact ⟨congrArg Dialogue.Reply.delivered ((Likeness.answers_iff_eq rfl).mp hstep.result),
    hstep.cursor, hstep.usage⟩

theorem sameAnswer_restore
    {u v : Usage} (husages : (Likeness.apartFrom layers.tallies).usages u v) (path : String)
    (store : Store) (c : Cursor q) :
    layers.SameAnswer
      (.restored (Pipeline.settled c (q.restoreInPlace path store c)).1,
        (Pipeline.settled c (q.restoreInPlace path store c)).2, u)
      (.restored (Pipeline.settled (layers.bareCursor c)
          (p.restoreInPlace path store (layers.bareCursor c))).1,
        (Pipeline.settled (layers.bareCursor c)
          (p.restoreInPlace path store (layers.bareCursor c))).2, v) := by
  rw [← layers.map_restoreInPlace path store c]
  cases q.restoreInPlace path store c with
  | error e => exact ⟨rfl, rfl, husages⟩
  | ok moved => exact ⟨rfl, rfl, husages⟩

theorem Matches.respond
    (h : layers.Matches x y) {request : Dialogue.Request}
    (hspares : layers.SparesRequest ctx x request) :
    (x.respond ctx request).1 = (y.respond ctx request).1 ∧
      layers.Matches (x.respond ctx request).2 (y.respond ctx request).2 := by
  cases request with
  | make parent =>
      have hopened := h.opened (p.pathUnder parent) q.start
      rw [layers.bareCursor_start] at hopened
      rw [Dialogue.respond, Dialogue.respond, layers.pathUnder_eq]
      exact ⟨rfl, hopened⟩
  | restoreNew parent store =>
      have hmap := layers.map_restoreNew (p.pathUnder parent) store
      simp only [Dialogue.respond, layers.pathUnder_eq, ← hmap]
      cases q.restoreNew (p.pathUnder parent) store with
      | error e => exact ⟨rfl, h⟩
      | ok c => exact ⟨rfl, h.opened (p.pathUnder parent) c⟩
  | next number =>
      refine h.ask number fun path c hfound => sameAnswer_next h.usages ?_
      simp only [SparesRequest, hfound] at hspares
      exact hspares
  | save number store =>
      refine h.ask number fun path c _ => ⟨?_, rfl, h.usages⟩
      exact congrArg Dialogue.Reply.saved (layers.save_bareCursor path c store).symm
  | restore number store =>
      exact h.ask number fun path c _ => sameAnswer_restore h.usages path store c
  | promise =>
      rw [Dialogue.respond, Dialogue.respond, Pipeline.passedOn_dtypes.eq layers,
        Pipeline.passedOn_shapes.eq layers, Pipeline.passedOn_cardinality.eq layers,
        Pipeline.passedOn_description.eq layers]
      exact ⟨rfl, h⟩
  | plan builder =>
      have hplan : q.addTo builder = p.addTo builder :=
        (Pipeline.passedOn_addTo builder).eq layers
      rw [Dialogue.respond, Dialogue.respond, hplan]
      exact ⟨rfl, h⟩

/-!
## All requests
-/

theorem Matches.replies
    (h : layers.Matches x y) {requests : List Dialogue.Request}
    (hspares : layers.SparesAll ctx x requests) :
    x.replies ctx requests = y.replies ctx requests ∧
      layers.Matches (x.after ctx requests) (y.after ctx requests) := by
  induction requests generalizing x y with
  | nil => exact ⟨rfl, h⟩
  | cons request requests ih =>
      rcases h.respond hspares.1 with ⟨hreply, hmatches⟩
      rcases ih hmatches hspares.2 with ⟨hreplies, hafter⟩
      refine ⟨?_, hafter⟩
      rw [Dialogue.replies, Dialogue.replies, hreply, hreplies]

theorem sparesAll_of_no_injected
    {requests : List Dialogue.Request}
    (h : forall pull : UInt64,
      Dialogue.Reply.delivered (.error (.error (.injected pull))) ∉ x.replies ctx requests) :
    layers.SparesAll ctx x requests := by
  induction requests generalizing x with
  | nil => trivial
  | cons request requests ih =>
      refine ⟨?_, ih fun pull hmem => h pull (List.mem_cons_of_mem _ hmem)⟩
      cases request with
      | next number =>
          cases hfound : x.iterators[number]? with
          | none => simp only [SparesRequest, hfound]
          | some found =>
              simp only [SparesRequest, hfound]
              refine Classical.byContradiction fun hnot => ?_
              rcases layers.injected_of_not_spares hnot with ⟨pull, hpull⟩
              refine h pull (List.mem_cons.mpr (Or.inl ?_))
              rw [Dialogue.respond, Dialogue.ask, hfound]
              exact congrArg Dialogue.Reply.delivered hpull.symm
      | _ => trivial

theorem replies_eq_of_no_injected
    (layers : Layering p q) {usage : Usage} {requests : List Dialogue.Request}
    (h : forall pull : UInt64,
      Dialogue.Reply.delivered (.error (.error (.injected pull))) ∉
        (Dialogue.start q usage).replies ctx requests) :
    (Dialogue.start q usage).replies ctx requests =
      (Dialogue.start p usage).replies ctx requests :=
  ((Matches.start layers usage).replies (sparesAll_of_no_injected h)).1

end

end Layering

/-- Whatever a client asks for, counting layers anywhere in a pipeline change no reply,
and neither do failing layers that never come to the pull on which they fail.  What
has been asked of the allocator is the same afterwards, and so is every count but
those of the layers put in. -/
theorem layers_are_transparent
    {p q : Pipeline} (layers : Layering p q) (ctx : Context) (usage : Usage)
    (requests : List Dialogue.Request)
    (hspares : layers.SparesAll ctx (Dialogue.start q usage) requests) :
    (Dialogue.start q usage).replies ctx requests =
        (Dialogue.start p usage).replies ctx requests ∧
      let used := ((Dialogue.start q usage).after ctx requests).usage
      let bare := ((Dialogue.start p usage).after ctx requests).usage
      used.requests = bare.requests ∧
        forall tally : Nat, tally ∉ layers.tallies -> used.reading tally = bare.reading tally := by
  rcases (Layering.Matches.start layers usage).replies hspares with ⟨hreplies, hafter⟩
  exact ⟨hreplies, hafter.usages⟩

def faultyPairs : Pipeline := .faulty 2 (.batch Stage.pairs (.range 0 (some 5)))

def layersOnPairs : Layering faultyPairs
    (.counting 0 (.faulty 2 (.faulty 100
      (.batch Stage.pairs (.counting 1 (.faulty 7 (.range 0 (some 5)))))))) :=
  .addCounting 0 (.faulty 2 (.addFaulty 100
    (.batch Stage.pairs (.addCounting 1 (.addFaulty 7 (.range 0 (some 5)))))))

def behindFirstPair : Store :=
  Table.ofPairs [("Iterator::BatchV2::Range:next", .int 2)]

def pairsAskedFor : List Dialogue.Request :=
  [.make "Iterator", .next 0, .save 0 Table.empty, .restoreNew "Iterator" behindFirstPair,
    .next 1, .restore 0 behindFirstPair, .next 0, .next 0, .plan PlanBuilder.empty]

theorem layers_are_transparent_on_faulty_pairs :
    let usage : Usage := ⟨[], ⟨[0, 0]⟩⟩
    let x := Dialogue.start _ usage
    layersOnPairs.SparesAll Context.default x pairsAskedFor ∧
      x.replies Context.default pairsAskedFor =
        (Dialogue.start faultyPairs usage).replies Context.default pairsAskedFor ∧
      (x.replies Context.default pairsAskedFor)[2]? = some (.saved (.ok behindFirstPair)) ∧
      (x.replies Context.default pairsAskedFor)[7]? =
        some (.delivered (.error (.error (.injected 2)))) ∧
      (x.after Context.default pairsAskedFor).usage.tallies.counts = [4, 6] := by
  intro usage x
  have hspares : layersOnPairs.SparesAll Context.default x pairsAskedFor := by
    decide +kernel
  have hsame := layers_are_transparent layersOnPairs Context.default usage pairsAskedFor hspares
  refine ⟨hspares, hsame.1, ?_, ?_, ?_⟩
  · decide +kernel
  · decide +kernel
  · decide +kernel

end TensorPipeline
