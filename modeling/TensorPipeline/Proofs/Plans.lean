import Mathlib.Data.List.Induction
import TensorPipeline.Plan
import TensorPipeline.Proofs.Cardinality

/-!
# Plans and the pipelines they describe

The nodes that a pipeline over a range adds to a plan form a chain: one for the
range, and on it one for each batch stage, each with the node before it as its only
input.  The id of a node is its place in the list, so ids lead back to nodes in
every plan that was built by adding nodes, whatever else it holds.

From such a chain the pipeline is built again, by the rules that hold for the
arguments of an operation.  Only one thing is lost on the way.  A stage of the first
version has no scalar about short last batches, and is taken to keep them.
-/

namespace TensorPipeline

namespace Pipeline

def stages : Pipeline -> List Stage
  | range _ _ => []
  | tensors _ => []
  | counting _ input => input.stages
  | faulty _ input => input.stages
  | batch stage input => input.stages ++ [stage]

def erased : Pipeline -> Pipeline
  | counting _ input => input.erased
  | faulty _ input => input.erased
  | batch stage input => batch stage input.erased
  | source => source

def batched (source : Pipeline) (stages : List Stage) : Pipeline :=
  stages.foldl (fun input stage => batch stage input) source

theorem batched_concat (source : Pipeline) (stages : List Stage) (stage : Stage) :
    batched source (stages ++ [stage]) = batch stage (batched source stages) :=
  List.foldl_append.trans rfl

theorem erased_eq (p : Pipeline) : p.erased = batched p.leaf p.stages := by
  induction p with
  | range start stop => rfl
  | tensors source => rfl
  | counting tally input ih => exact ih
  | faulty failAt input ih => exact ih
  | batch stage input ih => rw [erased, ih, stages, leaf, batched_concat]

theorem stages_batched (source : Pipeline) (stages : List Stage) :
    (batched source stages).stages = source.stages ++ stages := by
  induction stages generalizing source with
  | nil => exact (List.append_nil _).symm
  | cons stage rest ih =>
      rw [batched, List.foldl_cons, ← batched, ih, Pipeline.stages, List.append_assoc]
      rfl

end Pipeline

/-!
## The nodes of a chain
-/

def rangeNode (place : Nat) (start : Int64) (stop : Option Int64) : PlanNode where
  id := UInt64.ofNat place
  op := "RangeDataset"
  inputs := []
  scalars :=
    Table.ofPairs
      (("start", .int start) ::
        match stop with
        | none => []
        | some stop => [("stop", .int stop)])
  attrs := Table.ofPairs []

def Stage.nodeAbove (s : Stage) (below : Nat) : PlanNode where
  id := UInt64.ofNat (below + 1)
  op := s.version.opName
  inputs := [UInt64.ofNat below]
  scalars := Table.ofPairs s.planScalars
  attrs := Table.ofPairs [("parallel_copy", .bool s.parallelCopy)]

def chain (first : Nat) (start : Int64) (stop : Option Int64) (stages : List Stage) :
    List PlanNode :=
  rangeNode first start stop :: stages.mapIdx fun k s => s.nodeAbove (first + k)

theorem length_chain (first : Nat) (start : Int64) (stop : Option Int64) (stages : List Stage) :
    (chain first start stop stages).length = stages.length + 1 := by
  rw [chain, List.length_cons, List.length_mapIdx]

theorem chain_concat
    (first : Nat) (start : Int64) (stop : Option Int64) (stages : List Stage) (s : Stage) :
    chain first start stop (stages ++ [s]) =
      chain first start stop stages ++ [s.nodeAbove (first + stages.length)] := by
  rw [chain, List.mapIdx_concat]
  rfl

section

variable {p : Pipeline} {start : Int64} {stop : Option Int64}

theorem Pipeline.addTo_eq (hleaf : p.leaf = .range start stop) (b : PlanBuilder) :
    p.addTo b =
      (⟨b.nodes ++ chain b.nodes.length start stop p.stages⟩,
        UInt64.ofNat (b.nodes.length + p.stages.length)) := by
  induction p with
  | range start' stop' =>
      cases hleaf
      rfl
  | tensors source => cases hleaf
  | counting tally input ih => exact ih hleaf
  | faulty failAt input ih => exact ih hleaf
  | batch s input ih =>
      have hlength : (b.nodes ++ chain b.nodes.length start stop input.stages).length =
          b.nodes.length + input.stages.length + 1 := by
        rw [List.length_append, length_chain, Nat.add_assoc]
      rw [addTo, ih hleaf, stages, chain_concat, List.length_append, ← List.append_assoc]
      simp only [PlanBuilder.add, hlength, List.length_singleton]
      rfl

end

/-!
## Ids
-/

/-- The builders that there are: those to which nodes have been added one after
another. -/
inductive PlanBuilder.Filled : PlanBuilder -> Prop where
  | empty : Filled PlanBuilder.empty
  | add {b : PlanBuilder} (op : String) (inputs : List UInt64)
      (scalars attrs : List (String × PlanValue)) :
      Filled b -> Filled (b.add op inputs scalars attrs).1

theorem PlanBuilder.Filled.addTo
    {b : PlanBuilder} (hb : b.Filled) (p : Pipeline) : (p.addTo b).1.Filled := by
  induction p with
  | range start stop => exact hb.add _ _ _ _
  | tensors source => exact hb.add _ _ _ _
  | counting tally input ih => exact ih
  | faulty failAt input ih => exact ih
  | batch s input ih => exact ih.add _ _ _ _

theorem PlanBuilder.Filled.id_eq
    {b : PlanBuilder} (hb : b.Filled) {i : Nat} {node : PlanNode}
    (h : b.nodes[i]? = some node) : node.id = UInt64.ofNat i := by
  induction hb generalizing i node with
  | empty => cases h
  | add op inputs scalars attrs _ ih =>
      simp only [PlanBuilder.add] at h
      have hi := (List.getElem?_eq_some_iff.mp h).1
      rw [List.length_append, List.length_singleton] at hi
      rcases Nat.lt_or_eq_of_le (Nat.le_of_lt_succ hi) with hlt | rfl
      · rw [List.getElem?_append_left hlt] at h
        exact ih h
      · rw [List.getElem?_concat_length] at h
        cases h
        rfl

theorem PlanBuilder.Filled.node?_eq
    {b : PlanBuilder} (hb : b.Filled) (hroom : b.nodes.length ≤ 2 ^ 64) {i : Nat}
    {node : PlanNode} (h : b.nodes[i]? = some node) (output : UInt64) :
    (b.finish output).node? (UInt64.ofNat i) = some node := by
  rcases List.getElem?_eq_some_iff.mp h with ⟨hi, hnode⟩
  rw [Plan.node?, PlanBuilder.finish, List.find?_eq_some_iff_getElem]
  refine ⟨?_, i, hi, hnode, ?_⟩
  · rw [hb.id_eq h]
    exact beq_self_eq_true _
  · intro j hj
    have hid := hb.id_eq (List.getElem?_eq_getElem (Nat.lt_trans hj hi))
    have hi64 : i < 2 ^ 64 := Nat.lt_of_lt_of_le hi hroom
    rw [hid, Bool.not_eq_true', beq_eq_false_iff_ne, ne_eq, ← UInt64.toNat_inj,
      UInt64.toNat_ofNat_of_lt' (Nat.lt_trans hj hi64), UInt64.toNat_ofNat_of_lt' hi64]
    exact Nat.ne_of_lt hj

/-!
## Building a pipeline from its nodes
-/

def PlanValue.toInt? : PlanValue -> Option Int64
  | int value => some value
  | _ => none

def PlanValue.toBool? : PlanValue -> Option Bool
  | bool value => some value
  | _ => none

def ifPresent {α : Type} (read : PlanValue -> Option α) : Option PlanValue -> Option (Option α)
  | none => some none
  | some value => (read value).map some

namespace PlanNode

def source? (node : PlanNode) : Option Pipeline := do
  if node.op = "RangeDataset" then
    let start <- (node.scalars.get? "start").bind PlanValue.toInt?
    let stop <- ifPresent PlanValue.toInt? (node.scalars.get? "stop")
    return .range start stop
  else none

def stage? (node : PlanNode) : Option Stage := do
  let size <- (node.scalars.get? "batch_size").bind PlanValue.toInt?
  let drop <- ifPresent PlanValue.toBool? (node.scalars.get? "drop_remainder")
  let parallel <- ifPresent PlanValue.toBool? (node.attrs.get? "parallel_copy")
  (Stage.ofArguments node.op size drop parallel).toOption

end PlanNode

/-- The pipeline of the node with an id, among nodes listed latest first.  A node
reads from nodes added before it. -/
def rebuild? : List PlanNode -> UInt64 -> Option Pipeline
  | [], _ => none
  | node :: older, id =>
      if node.id = id then
        match node.inputs with
        | [] => node.source?
        | [input] => do
            let below <- rebuild? older input
            let stage <- node.stage?
            return .batch stage below
        | _ => none
      else rebuild? older id

def Plan.pipeline? (plan : Plan) : Option Pipeline := do
  let id <- plan.output
  rebuild? plan.nodes.reverse id

def Stage.toldDrop (s : Stage) : Option Bool :=
  match s.version with
  | .v1 => none
  | .v2 => some s.dropRemainder

/-- What a node tells of its stage: in the first version, nothing of dropping short
last batches. -/
def Stage.told (s : Stage) : Stage := { s with dropRemainder := s.toldDrop.getD false }

theorem Stage.told_eq_self_iff (s : Stage) :
    s.told = s <-> ¬ (s.version = .v1 ∧ s.dropRemainder = true) := by
  rcases s with ⟨size, hpos, hlt, drop, parallel, version⟩
  cases version <;> cases drop <;> simp [told, toldDrop]

theorem Stage.remainderPolicy_toldDrop (s : Stage) :
    remainderPolicy s.version s.toldDrop = .ok s.told.dropRemainder := by
  unfold told toldDrop
  cases s.version with
  | v1 => rfl
  | v2 => rfl

theorem Stage.make_size (s : Stage) (drop parallel : Bool) :
    Stage.make (Int64.ofNat s.size) drop parallel =
      .ok { s with dropRemainder := drop, parallelCopy := parallel, version := .v2 } := by
  have hsize : (Int64.ofNat s.size).toInt = s.size :=
    Int64.toInt_ofNat_of_lt s.size_lt
  have hpos : 0 < (Int64.ofNat s.size).toInt := by
    rw [hsize]
    exact Int.natCast_pos.mpr s.size_pos
  rw [Stage.make, dif_pos hpos]
  simp only [hsize, Int.toNat_natCast]

theorem OpVersion.ofOpName_opName (v : OpVersion) : OpVersion.ofOpName v.opName = .ok v := by
  cases v with
  | v1 => rfl
  | v2 => rfl

theorem Stage.ofArguments_told (s : Stage) :
    ofArguments s.version.opName (Int64.ofNat s.size) s.toldDrop (some s.parallelCopy) =
      .ok s.told := by
  simp only [ofArguments, s.version.ofOpName_opName, s.remainderPolicy_toldDrop,
    Option.getD_some, s.make_size, bind, Except.bind]
  rfl

theorem Stage.get?_size_nodeAbove (s : Stage) (below : Nat) :
    (s.nodeAbove below).scalars.get? "batch_size" = some (.int (Int64.ofNat s.size)) := by
  unfold nodeAbove planScalars
  cases s.version with
  | v1 => rfl
  | v2 => rfl

theorem Stage.get?_drop_nodeAbove (s : Stage) (below : Nat) :
    (s.nodeAbove below).scalars.get? "drop_remainder" = s.toldDrop.map PlanValue.bool := by
  unfold nodeAbove planScalars toldDrop
  cases s.version with
  | v1 => rfl
  | v2 => rfl

theorem ifPresent_bool (b : Option Bool) :
    ifPresent PlanValue.toBool? (b.map PlanValue.bool) = some b := by
  cases b with
  | none => rfl
  | some b => rfl

theorem Stage.stage?_nodeAbove (s : Stage) (below : Nat) :
    (s.nodeAbove below).stage? = some s.told := by
  have hparallel : (s.nodeAbove below).attrs.get? "parallel_copy" =
      (some s.parallelCopy).map PlanValue.bool :=
    rfl
  have hop : (s.nodeAbove below).op = s.version.opName := rfl
  rw [PlanNode.stage?, s.get?_size_nodeAbove, s.get?_drop_nodeAbove, hparallel, hop,
    ifPresent_bool, ifPresent_bool]
  simp only [Option.bind_eq_bind, Option.bind_some, PlanValue.toInt?, s.ofArguments_told]
  rfl

theorem source?_rangeNode (place : Nat) (start : Int64) (stop : Option Int64) :
    (rangeNode place start stop).source? = some (.range start stop) := by
  cases stop with
  | none => rfl
  | some stop => rfl

theorem rebuild?_chain
    (older : List PlanNode) (first : Nat) (start : Int64) (stop : Option Int64)
    (stages : List Stage) :
    rebuild? (older ++ chain first start stop stages).reverse
        (UInt64.ofNat (first + stages.length)) =
      some (Pipeline.batched (.range start stop) (stages.map Stage.told)) := by
  induction stages using List.reverseRecOn with
  | nil =>
      rw [chain, List.mapIdx_nil, List.reverse_concat, rebuild?]
      exact (if_pos rfl).trans (source?_rangeNode first start stop)
  | append_singleton stages s ih =>
      have hid : (s.nodeAbove (first + stages.length)).id =
          UInt64.ofNat (first + (stages ++ [s]).length) := by
        rw [List.length_append, ← Nat.add_assoc]
        rfl
      rw [chain_concat, ← List.append_assoc, List.reverse_concat, rebuild?, if_pos hid]
      have hinputs : (s.nodeAbove (first + stages.length)).inputs =
          [UInt64.ofNat (first + stages.length)] := rfl
      rw [hinputs]
      simp only [ih, s.stage?_nodeAbove, List.map_append, List.map_singleton,
        Pipeline.batched_concat]
      rfl

/-!
## A pipeline and its plan
-/

theorem map_told_eq_self_iff (stages : List Stage) :
    stages.map Stage.told = stages <->
      forall s : Stage, s ∈ stages -> ¬ (s.version = .v1 ∧ s.dropRemainder = true) := by
  have hmap : stages.map Stage.told = stages <->
      stages.map Stage.told = stages.map id := by
    rw [List.map_id]
  rw [hmap, List.map_inj_left]
  exact forall₂_congr fun s _ => s.told_eq_self_iff

/-- A pipeline over a range adds its chain behind the nodes that are there, and its
id is that of the last one.  Every id is the place of its node, so the plan finds
the outermost stage under the id of the pipeline.

Building the pipeline again from its nodes always succeeds.  It gives the same
range and the same stages, without the counting and failing layers, unless some
stage of the first version drops its short last batch: such stages come back as
ones that keep it. -/
theorem plan_describes_pipeline
    {p : Pipeline} {start : Int64} {stop : Option Int64} (hleaf : p.leaf = .range start stop)
    {b : PlanBuilder} (hb : b.Filled) (hroom : b.nodes.length + p.stages.length < 2 ^ 64) :
    let first := b.nodes.length
    let built := (p.addTo b).1
    let id := (p.addTo b).2
    built.nodes =
        b.nodes ++ rangeNode first start stop ::
          p.stages.mapIdx (fun k s => s.nodeAbove (first + k)) ∧
      (forall (i : Nat) (node : PlanNode), built.nodes[i]? = some node -> node.id.toNat = i) ∧
      id.toNat = first + p.stages.length ∧
      (built.finish id).node? id = built.nodes.getLast? ∧
      (built.finish id).pipeline? =
        some (Pipeline.batched (.range start stop) (p.stages.map Stage.told)) ∧
      ((built.finish id).pipeline? = some p.erased <->
        forall s : Stage, s ∈ p.stages -> ¬ (s.version = .v1 ∧ s.dropRemainder = true)) := by
  intro first built id
  have hadded := Pipeline.addTo_eq hleaf b
  have hnodes : built.nodes = b.nodes ++ chain first start stop p.stages :=
    congrArg (fun added => added.1.nodes) hadded
  have hid : id = UInt64.ofNat (first + p.stages.length) := congrArg Prod.snd hadded
  have hlength : built.nodes.length = first + p.stages.length + 1 := by
    rw [hnodes, List.length_append, length_chain, Nat.add_assoc]
  have hfilled : built.Filled := hb.addTo p
  have hrebuilt : (built.finish id).pipeline? =
      some (Pipeline.batched (.range start stop) (p.stages.map Stage.told)) := by
    show rebuild? built.nodes.reverse id = _
    rw [hnodes, hid]
    exact rebuild?_chain b.nodes first start stop p.stages
  refine ⟨hnodes, ?_, ?_, ?_, hrebuilt, ?_⟩
  · intro i node hnode
    have hi := (List.getElem?_eq_some_iff.mp hnode).1
    rw [hfilled.id_eq hnode]
    exact UInt64.toNat_ofNat_of_lt' (show i < 2 ^ 64 by omega)
  · rw [hid]
    exact UInt64.toNat_ofNat_of_lt' hroom
  · have hlast : built.nodes[first + p.stages.length]? = built.nodes.getLast? := by
      rw [List.getLast?_eq_getElem?, hlength]
      rfl
    have hplace : first + p.stages.length < built.nodes.length := by
      rw [hlength]
      exact Nat.lt_succ_self _
    have hnode := List.getElem?_eq_getElem hplace
    rw [← hlast, hnode, hid]
    exact hfilled.node?_eq (by rw [hlength]; exact hroom) hnode _
  · rw [hrebuilt, p.erased_eq, hleaf, ← map_told_eq_self_iff, Option.some.injEq]
    constructor
    · intro h
      have hstages := congrArg Pipeline.stages h
      rw [Pipeline.stages_batched, Pipeline.stages_batched] at hstages
      exact hstages
    · intro h
      rw [h]

def forgetfulPairs : Pipeline :=
  .batch { Stage.pairs with dropRemainder := true, version := .v1 }
    (.faulty 9 (.batch Stage.pairs (.counting 0 (.range 3 none))))

theorem plan_describes_pipeline_but_forgets_dropping :
    forgetfulPairs.leaf = .range 3 none ∧
      ((Pipeline.range 0 (some 4)).addTo PlanBuilder.empty).1.Filled ∧
      (forgetfulPairs.addTo ((Pipeline.range 0 (some 4)).addTo PlanBuilder.empty).1).2 = 3 ∧
      ((forgetfulPairs.addTo ((Pipeline.range 0 (some 4)).addTo PlanBuilder.empty).1).1.finish
          3).pipeline? =
        some (.batch { Stage.pairs with version := .v1 }
          (.batch Stage.pairs (.range 3 none))) := by
  have hleaf : forgetfulPairs.leaf = .range 3 none := rfl
  have hfilled := PlanBuilder.Filled.empty.addTo (.range 0 (some 4))
  rcases plan_describes_pipeline hleaf hfilled (by decide) with ⟨_, _, hid, _, hrebuilt, _⟩
  have hthree : (forgetfulPairs.addTo
      ((Pipeline.range 0 (some 4)).addTo PlanBuilder.empty).1).2 = 3 := by
    apply UInt64.toNat_inj.mp
    rw [hid]
    rfl
  refine ⟨hleaf, hfilled, hthree, ?_⟩
  rw [hthree] at hrebuilt
  exact hrebuilt

end TensorPipeline
