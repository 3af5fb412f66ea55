import TensorPipeline.Json.Text
import TensorPipeline.Proofs.Json.Reading

/-!
# Documents read back

Every document is read back from its text.  The written form of a value is built of
those of its parts, so it is enough that each way of putting documents together can
be undone: records by the names of their fields, choices by the name of the choice,
tables by the order of their keys.  A missing value is told apart from those that are
never written as nothing, and the plain values of a plan by their kind.
-/

namespace TensorPipeline

class LawfulDocument (α : Type) [Document α] : Prop where
  exact_toJson : forall a : α, (toJson a).Exact
  ofJson?_toJson : forall a : α, ofJson? (toJson a) = some a

export LawfulDocument (exact_toJson ofJson?_toJson)

/-- No value is written like one that is missing. -/
class NeverNull (α : Type) [Document α] : Prop where
  ne_null : forall a : α, toJson a ≠ .null

/-!
## Members and fields
-/

theorem mapM_map_eq_some
    {α β γ : Type} {f : β -> Option γ} {g : α -> β} {h : α -> γ} {l : List α}
    (hread : forall a : α, a ∈ l -> f (g a) = some (h a)) :
    (l.map g).mapM f = some (l.map h) := by
  induction l with
  | nil => rfl
  | cons a l ih =>
      have hrest := ih fun b hb => hread b (List.mem_cons_of_mem a hb)
      rw [List.map_cons, List.mapM_cons, hread a List.mem_cons_self, hrest]
      rfl

namespace Json

theorem filter_named
    {members : List (String × Json)} (hnodup : (members.map Prod.fst).Nodup)
    {member : String × Json} (hmember : member ∈ members) :
    ((named members).filter fun m => m.1 == some member.1) = [(some member.1, member.2)] := by
  induction members with
  | nil => cases hmember
  | cons first members ih =>
      rw [List.map_cons, List.nodup_cons] at hnodup
      rw [named, List.map_cons, ← named, List.filter_cons]
      rcases List.mem_cons.mp hmember with rfl | hmember
      · have hnone : ((named members).filter fun m => m.1 == some member.1) = [] := by
          rw [List.filter_eq_nil_iff]
          intro m hm hsame
          rcases List.mem_map.mp hm with ⟨other, hother, rfl⟩
          have hname : other.1 = member.1 := Option.some.inj (eq_of_beq hsame)
          exact hnodup.1 (hname ▸ List.mem_map_of_mem hother)
        rw [if_pos (beq_self_eq_true _), hnone]
      · have hne : first.1 ≠ member.1 := by
          intro hsame
          exact hnodup.1 (hsame ▸ List.mem_map_of_mem hmember)
        rw [if_neg, ih hnodup.2 hmember]
        intro hsame
        exact hne (Option.some.inj (eq_of_beq hsame))

theorem fields?_ofMembers
    {members : List (String × Json)} (hnodup : (members.map Prod.fst).Nodup) (atLeast : Nat) :
    (ofMembers members).fields? (members.map Prod.fst) atLeast =
      some (members.map fun member => some member.2) := by
  have hnamed : ((named members).any fun member => member.1.isNone) = false := by
    rw [List.any_eq_false]
    intro member hmember
    rcases List.mem_map.mp hmember with ⟨m, _, rfl⟩
    exact Bool.false_ne_true
  rw [ofMembers, ← named, fields?, hnamed, if_neg Bool.false_ne_true]
  apply mapM_map_eq_some
  intro member hmember
  rw [filter_named hnodup hmember]

theorem exact_ofChoice {content : Json} (h : content.Exact) (name : String) :
    (ofChoice name content).Exact :=
  Exact.object (List.forall_mem_singleton.mpr h)

end Json

/-!
## Plain values
-/

instance : LawfulDocument Bool where
  exact_toJson b := Json.Exact.bool b
  ofJson?_toJson _ := rfl

instance : LawfulDocument String where
  exact_toJson s := Json.Exact.text s
  ofJson?_toJson _ := rfl

instance : LawfulDocument UInt64 where
  exact_toJson n := Json.Exact.int n.toNat
  ofJson?_toJson n := by
    have hlt := n.toNat_lt
    show (if 0 ≤ (n.toNat : Int) ∧ (n.toNat : Int) < 0x10000000000000000 then
      some (UInt64.ofNat (n.toNat : Int).toNat) else none) = some n
    rw [if_pos (by omega), Int.toNat_natCast, UInt64.ofNat_toNat]

instance : LawfulDocument Int64 where
  exact_toJson n := Json.Exact.int n.toInt
  ofJson?_toJson n := by
    have hlow := n.le_toInt
    have hhigh := n.toInt_lt
    show (if -0x8000000000000000 ≤ n.toInt ∧ n.toInt < 0x8000000000000000 then
      some (Int64.ofInt n.toInt) else none) = some n
    rw [if_pos (by omega), Int64.ofInt_toInt]

theorem ofJson?_of_ne_null {α : Type} [Document α] {j : Json} (h : j ≠ .null) :
    (ofJson? j : Option (Option α)) = (ofJson? j).map some := by
  cases j with
  | null => exact absurd rfl h
  | bool b => rfl
  | int n => rfl
  | fraction => rfl
  | text s => rfl
  | array items => rfl
  | object members => rfl

instance {α : Type} [Document α] [LawfulDocument α] [NeverNull α] :
    LawfulDocument (Option α) where
  exact_toJson
    | none => Json.Exact.null
    | some a => exact_toJson a
  ofJson?_toJson a := by
    cases a with
    | none => rfl
    | some a =>
        show (ofJson? (toJson a) : Option (Option α)) = _
        rw [ofJson?_of_ne_null (NeverNull.ne_null a), ofJson?_toJson]
        rfl

instance {α : Type} [Document α] [LawfulDocument α] : LawfulDocument (List α) where
  exact_toJson items := by
    apply Json.Exact.array
    intro item hitem
    rcases List.mem_map.mp hitem with ⟨a, _, rfl⟩
    exact exact_toJson a
  ofJson?_toJson items := by
    show (items.map toJson).mapM ofJson? = some items
    rw [mapM_map_eq_some fun a _ => ofJson?_toJson a]
    exact congrArg some (List.map_id items)

instance {α : Type} [Document α] [LawfulDocument α] : LawfulDocument (Table α) where
  exact_toJson t := by
    apply Json.Exact.object
    intro member hmember
    rcases List.mem_map.mp hmember with ⟨e, _, rfl⟩
    exact exact_toJson e.2
  ofJson?_toJson t := by
    have hmember (e : String × α) : memberOfJson? (some e.1, toJson e.2) = some e := by
      rw [memberOfJson?, ofJson?_toJson]
      rfl
    have hread : (t.entries.map fun e => (some e.1, toJson e.2)).mapM memberOfJson? =
        some t.entries := by
      rw [mapM_map_eq_some fun e _ => hmember e]
      exact congrArg some (List.map_id t.entries)
    show (((t.entries.map fun e => (e.1, toJson e.2)).map fun member =>
      (some member.1, member.2)).mapM memberOfJson?).map Table.ofPairs = some t
    rw [List.map_map]
    exact (congrArg (Option.map Table.ofPairs) hread).trans (congrArg some t.ofPairs_entries)

/-!
## Tensors and shapes

From here on the content of a choice and the fields of a record are read as what they
are by themselves: an equation for any content comes before it is used at the written
one.
-/

instance : LawfulDocument DType where
  exact_toJson d := Json.Exact.text d.documentName
  ofJson?_toJson d := by
    cases d with
    | bool => rfl
    | uint8 => rfl
    | int32 => rfl
    | int64 => rfl
    | float32 => rfl
    | float64 => rfl

instance : LawfulDocument Shape where
  exact_toJson s := exact_toJson s.dims
  ofJson?_toJson s := congrArg (Option.map Shape.mk) (ofJson?_toJson s.dims)

theorem Dim.ofJson?_known (content : Json) :
    (ofJson? (Json.ofChoice "Known" content) : Option Dim) =
      (ofJson? content).map Dim.known :=
  rfl

instance : LawfulDocument Dim where
  exact_toJson
    | .known n => Json.exact_ofChoice (exact_toJson n) "Known"
    | .unknown => Json.Exact.text "Unknown"
  ofJson?_toJson d := by
    cases d with
    | known n =>
        have hread := Dim.ofJson?_known (toJson n)
        rw [ofJson?_toJson] at hread
        exact hread
    | unknown => rfl

instance : NeverNull (List Dim) where
  ne_null _ h := nomatch h

theorem PartialShape.ofJson?_record (dims : Json) :
    (ofJson? (Json.ofMembers [("dims", dims)]) : Option PartialShape) =
      (ofJson? dims).map PartialShape.mk := by
  have hfields : (Json.ofMembers [("dims", dims)]).fields? ["dims"] 1 = some [some dims] :=
    Json.fields?_ofMembers (by simp) 1
  show Option.bind (Json.fields? ["dims"] 1 (Json.ofMembers [("dims", dims)])) _ = _
  rw [hfields]
  rfl

instance : LawfulDocument PartialShape where
  exact_toJson p := Json.Exact.object (List.forall_mem_singleton.mpr (exact_toJson p.dims))
  ofJson?_toJson p := by
    have hread := PartialShape.ofJson?_record (toJson p.dims)
    rw [ofJson?_toJson] at hread
    exact hread

theorem Cardinality.ofJson?_finite (content : Json) :
    (ofJson? (Json.ofChoice "Finite" content) : Option Cardinality) =
      (ofJson? content).map Cardinality.finite :=
  rfl

instance : LawfulDocument Cardinality where
  exact_toJson
    | .finite n => Json.exact_ofChoice (exact_toJson n) "Finite"
    | .infinite => Json.Exact.text "Infinite"
    | .unknown => Json.Exact.text "Unknown"
  ofJson?_toJson c := by
    cases c with
    | finite n =>
        have hread := Cardinality.ofJson?_finite (toJson n)
        rw [ofJson?_toJson] at hread
        exact hread
    | infinite => rfl
    | unknown => rfl

/-!
## Stored state
-/

theorem StateValue.ofJson?_int (content : Json) :
    (ofJson? (Json.ofChoice "Int" content) : Option StateValue) =
      (ofJson? content).map StateValue.int :=
  rfl

theorem StateValue.ofJson?_text (content : Json) :
    (ofJson? (Json.ofChoice "Str" content) : Option StateValue) =
      (ofJson? content).map StateValue.text :=
  rfl

instance : LawfulDocument StateValue where
  exact_toJson
    | .int n => Json.exact_ofChoice (exact_toJson n) "Int"
    | .text s => Json.exact_ofChoice (exact_toJson s) "Str"
  ofJson?_toJson v := by
    cases v with
    | int n =>
        have hread := StateValue.ofJson?_int (toJson n)
        rw [ofJson?_toJson] at hread
        exact hread
    | text s =>
        have hread := StateValue.ofJson?_text (toJson s)
        rw [ofJson?_toJson] at hread
        exact hread

theorem StoreRecord.ofJson?_record (entries : Json) :
    (ofJson? (Json.ofMembers [("entries", entries)]) : Option StoreRecord) =
      (ofJson? entries).map StoreRecord.mk := by
  have hfields : (Json.ofMembers [("entries", entries)]).fields? ["entries"] 1 =
      some [some entries] :=
    Json.fields?_ofMembers (by simp) 1
  show Option.bind (Json.fields? ["entries"] 1 (Json.ofMembers [("entries", entries)])) _ = _
  rw [hfields]
  rfl

instance : LawfulDocument StoreRecord where
  exact_toJson r := Json.Exact.object (List.forall_mem_singleton.mpr (exact_toJson r.store))
  ofJson?_toJson r := by
    have hread := StoreRecord.ofJson?_record (toJson r.store)
    rw [ofJson?_toJson] at hread
    exact hread

/-!
## Plans
-/

/-- The three kinds of plain values are written as three kinds of JSON, so no name
is needed to tell them apart. -/
instance : LawfulDocument PlanValue where
  exact_toJson
    | .bool b => exact_toJson b
    | .int n => exact_toJson n
    | .text s => exact_toJson s
  ofJson?_toJson v := by
    cases v with
    | bool b => rfl
    | int n =>
        have hread := ofJson?_toJson n
        show (ofJson? (Json.int n.toInt)).map PlanValue.int = _
        exact congrArg (Option.map PlanValue.int) hread
    | text s => rfl

theorem PlanNode.ofJson?_record (id op inputs scalars attrs : Json) :
    (ofJson? (Json.ofMembers
      [("id", id), ("op", op), ("inputs", inputs), ("scalars", scalars), ("attrs", attrs)]) :
      Option PlanNode) = do
        return {
          id := <- ofJson? id
          op := <- ofJson? op
          inputs := <- ofJson? inputs
          scalars := <- ofJson? scalars
          attrs := <- ofJson? attrs } := by
  have hfields : (Json.ofMembers
      [("id", id), ("op", op), ("inputs", inputs), ("scalars", scalars),
        ("attrs", attrs)]).fields? ["id", "op", "inputs", "scalars", "attrs"] 5 =
      some [some id, some op, some inputs, some scalars, some attrs] :=
    Json.fields?_ofMembers (by simp) 5
  show Option.bind (Json.fields? ["id", "op", "inputs", "scalars", "attrs"] 5 _) _ = _
  rw [hfields]
  rfl

instance : LawfulDocument PlanNode where
  exact_toJson n := by
    apply Json.Exact.object
    simp only [List.forall_mem_cons]
    exact ⟨exact_toJson n.id, exact_toJson n.op, exact_toJson n.inputs, exact_toJson n.scalars,
      exact_toJson n.attrs, nofun⟩
  ofJson?_toJson n := by
    have hread := PlanNode.ofJson?_record (toJson n.id) (toJson n.op) (toJson n.inputs)
      (toJson n.scalars) (toJson n.attrs)
    simp only [ofJson?_toJson] at hread
    exact hread

instance : NeverNull UInt64 where
  ne_null _ h := nomatch h

theorem Plan.ofJson?_record (nodes output : Json) :
    (ofJson? (Json.ofMembers [("nodes", nodes), ("output", output)]) : Option Plan) = do
      return { nodes := <- ofJson? nodes, output := <- ofJson? output } := by
  have hfields : (Json.ofMembers [("nodes", nodes), ("output", output)]).fields?
      ["nodes", "output"] 2 = some [some nodes, some output] :=
    Json.fields?_ofMembers (by simp) 2
  show Option.bind (Json.fields? ["nodes", "output"] 2 _) _ = _
  rw [hfields]
  rfl

instance : LawfulDocument Plan where
  exact_toJson p := by
    apply Json.Exact.object
    simp only [List.forall_mem_cons]
    exact ⟨exact_toJson p.nodes, exact_toJson p.output, nofun⟩
  ofJson?_toJson p := by
    have hread := Plan.ofJson?_record (toJson p.nodes) (toJson p.output)
    simp only [ofJson?_toJson] at hread
    exact hread

/-!
## Options of a batch stage
-/

instance : NeverNull Bool where
  ne_null _ h := nomatch h

theorem Options.ofJson?_record (op size dropRemainder parallelCopy : Json) :
    (ofJson? (Json.ofMembers
      [("op", op), ("batch_size", size), ("drop_remainder", dropRemainder),
        ("parallel_copy", parallelCopy)]) : Option Options) = do
        return {
          op := <- ofJson? op
          size := <- ofJson? size
          dropRemainder := <- ofJson? dropRemainder
          parallelCopy := <- ofJson? parallelCopy } := by
  have hfields : (Json.ofMembers
      [("op", op), ("batch_size", size), ("drop_remainder", dropRemainder),
        ("parallel_copy", parallelCopy)]).fields?
          ["op", "batch_size", "drop_remainder", "parallel_copy"] 2 =
      some [some op, some size, some dropRemainder, some parallelCopy] :=
    Json.fields?_ofMembers (by simp) 2
  show Option.bind
    (Json.fields? ["op", "batch_size", "drop_remainder", "parallel_copy"] 2 _) _ = _
  rw [hfields]
  rfl

instance : LawfulDocument Options where
  exact_toJson o := by
    apply Json.Exact.object
    simp only [List.forall_mem_cons]
    exact ⟨exact_toJson o.op, exact_toJson o.size, exact_toJson o.dropRemainder,
      exact_toJson o.parallelCopy, nofun⟩
  ofJson?_toJson o := by
    have hread := Options.ofJson?_record (toJson o.op) (toJson o.size) (toJson o.dropRemainder)
      (toJson o.parallelCopy)
    simp only [ofJson?_toJson] at hread
    exact hread

/-!
## Texts
-/

theorem ofText?_write
    {α : Type} [Document α] [LawfulDocument α] (l : Json.Layout) (a : α) :
    ofText? (String.ofList (Json.write l 0 (toJson a))) = some a := by
  rw [ofText?, Json.read_write l (exact_toJson a)]
  exact ofJson?_toJson a

def RoundTrips (α : Type) [Document α] : Prop :=
  forall a : α, ofText? (toCompactText a) = some a ∧ ofText? (toPrettyText a) = some a

theorem LawfulDocument.roundTrips (α : Type) [Document α] [LawfulDocument α] : RoundTrips α :=
  fun a => ⟨ofText?_write .compact a, ofText?_write .pretty a⟩

/-- Whatever is written as a document is read back from either of its texts: whatever
characters it holds, however large its numbers are, with missing and present values,
with empty and nested lists and tables, and with plain values of all three kinds.  The
options of a batch stage are read back by their own reader as well. -/
theorem documents_round_trip :
    RoundTrips DType ∧
    RoundTrips Shape ∧
    RoundTrips Dim ∧
    RoundTrips PartialShape ∧
    RoundTrips Cardinality ∧
    RoundTrips StateValue ∧
    RoundTrips StoreRecord ∧
    RoundTrips PlanValue ∧
    RoundTrips PlanNode ∧
    RoundTrips Plan ∧
    RoundTrips Options ∧
    forall o : Options, Options.ofText (toCompactText o) = .ok o := by
  refine ⟨LawfulDocument.roundTrips DType, LawfulDocument.roundTrips Shape,
    LawfulDocument.roundTrips Dim, LawfulDocument.roundTrips PartialShape,
    LawfulDocument.roundTrips Cardinality, LawfulDocument.roundTrips StateValue,
    LawfulDocument.roundTrips StoreRecord, LawfulDocument.roundTrips PlanValue,
    LawfulDocument.roundTrips PlanNode, LawfulDocument.roundTrips Plan,
    LawfulDocument.roundTrips Options, ?_⟩
  intro o
  rw [Options.ofText, (LawfulDocument.roundTrips Options o).1]

end TensorPipeline
