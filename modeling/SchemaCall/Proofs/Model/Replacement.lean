import SchemaCall.Proofs.Model.Load
import SchemaCall.Proofs.Schema.Replacement

/-!
# Documents in which a node is replaced

A node of a kind that is not known yet may carry anything under it. Below another node it is read
whatever that is; an input or output has to follow the rule on these as well, which asks for null or
an object (`Model.Carries`). So replacing a node of a loaded document by one of unknown kind gives a
document that is loaded as the model in which the same node is replaced, unless the rule is broken
there (`load_replaceNode`).
-/

namespace SchemaCall

/-! ## Changing one part of an operation -/

namespace Operation

/-- The operation with another schema in one part. -/
def withSchema (operation : Operation) (part : Part) (schema : Schema) : Operation :=
  match part with
  | .input => { operation with input := schema }
  | .output => { operation with output := schema }

variable {value node : Json} {operation : Operation} {part : Part} {change : Json → Json}

/-- The schema that was put in is the one that is there. -/
@[simp] theorem schema_withSchema_self (operation : Operation) (part : Part) (schema : Schema) :
    (operation.withSchema part schema).schema part = schema := by
  cases part <;> rfl

/-- It makes no difference whether an operation is named first or its schema replaced. -/
theorem named_withSchema (operation : Operation) (name : String) (part : Part) (schema : Schema) :
    (operation.named name).withSchema part schema =
      (operation.withSchema part schema).named name := by
  cases part <;> rfl

/-- Replacing a schema leaves the name. -/
@[simp] theorem name_withSchema (operation : Operation) (part : Part) (schema : Schema) :
    (operation.withSchema part schema).name = operation.name := by
  cases part <;> rfl

private theorem documentation_ne_name (part : Part) : part.name ≠ "documentation" := by
  cases part <;> decide

/-- Changing a part of an operation changes what is read for this part. -/
theorem ofJson_modifyMember (distinct : value.BindsOnce) (h : ofJson value = .ok operation)
    (hnode : value.get? part.name = some node) {schema : Schema}
    (hread : Schema.ofJson (change node) = .ok schema) :
    ofJson (value.modifyMember part.name change) = .ok (operation.withSchema part schema) := by
  obtain ⟨hname, entries, hwritten, htext, hinput, houtput⟩ := (ofJson_eq_ok_iff distinct).mp h
  cases value with
  | object fields =>
    obtain rfl := Option.some.inj hwritten
    have hget : Entries.get? fields part.name = some node := hnode
    refine (ofJson_eq_ok_iff (distinct.modifyMember _ _)).mpr ⟨?_, _, rfl, ?_⟩
    · rw [name_withSchema, hname]
    rw [Entries.get?_modify_of_ne change (documentation_ne_name part)]
    cases part with
    | input =>
      refine ⟨htext, ⟨change node, ?_, hread⟩, ?_⟩
      · exact (Entries.get?_modify_self ..).trans (congrArg (Option.map change) hget)
      · rw [Entries.get?_modify_of_ne change (by decide)]
        exact houtput
    | output =>
      refine ⟨htext, ?_, change node, ?_, hread⟩
      · rw [Entries.get?_modify_of_ne change (by decide)]
        exact hinput
      · exact (Entries.get?_modify_self ..).trans (congrArg (Option.map change) hget)
  | _ => exact nomatch hnode

end Operation

/-- An operation keeps its shape if a part is changed to what such a part may be. -/
theorem OperationShape.modifyMember {P : Json → Prop} {value node : Json} {part : Part}
    {change : Json → Json} (h : OperationShape P value) (hnode : value.get? part.name = some node)
    (hroot : RootShape (change node)) (hP : P (change node)) :
    OperationShape P (value.modifyMember part.name change) := by
  constructor
  · intro found hfound
    rw [Json.get?_modifyMember_of_ne _ _ (Operation.documentation_ne_name part)] at hfound
    exact h.documentation found hfound
  · intro other
    by_cases hpart : part = other
    · subst hpart
      refine ⟨change node, ?_, hroot, hP⟩
      rw [Json.get?_modifyMember_self, hnode]
      rfl
    · have hname : part.name ≠ other.name := by
        cases part <;> cases other <;> first | exact absurd rfl hpart | decide
      rw [Json.get?_modifyMember_of_ne _ _ hname]
      exact h.parts other

/-! ## Changing one operation of a document -/

/-- A document keeps its shape if an operation is changed to what operations may be. -/
theorem DocumentShape.modifyMember {P : Json → Prop} {document value : Json}
    {members : List (String × Json)} {name : String} {change : Json → Json}
    (h : DocumentShape P document)
    (hmembers : document.get? "operations" = some (.object members))
    (hvalue : Entries.get? members name = some value) (hchange : OperationShape P (change value)) :
    DocumentShape P (document.modifyMember "operations" (Json.modifyMember name change)) := by
  constructor
  · rw [Json.get?_modifyMember_of_ne _ _ (by decide)]
    exact h.endpoint
  · refine ⟨Entries.modify members name change, ?_, fun member hmember => ?_⟩
    · rw [Json.get?_modifyMember_self, hmembers]
      rfl
    · rw [Entries.modify_of_get?_eq_some hvalue] at hmember
      rcases Entries.mem_of_mem_set hmember with hold | rfl
      · exact h.operation (documentOperations_eq hmembers ▸ hold)
      · exact hchange

/-- A document has its shape after a change only if the changed operation may be one. -/
theorem DocumentShape.of_modifyMember {P : Json → Prop} {document value : Json}
    {members : List (String × Json)} {name : String} {change : Json → Json}
    (h : DocumentShape P (document.modifyMember "operations" (Json.modifyMember name change)))
    (hmembers : document.get? "operations" = some (.object members))
    (hvalue : Entries.get? members name = some value) : OperationShape P (change value) := by
  have hoperations : (document.modifyMember "operations" (Json.modifyMember name change)).get?
      "operations" = some (.object (Entries.modify members name change)) := by
    rw [Json.get?_modifyMember_self, hmembers]
    rfl
  have hchanged : Entries.get? (Entries.modify members name change) name = some (change value) := by
    rw [Entries.get?_modify_self, hvalue]
    rfl
  have hmember := Entries.mem_of_get? hchanged
  exact h.operation (documentOperations_eq hoperations ▸ hmember)

namespace Model

/-- Declare what an operation says under a name. -/
def declare (model : Model) (name : String) (operation : Operation) : Model :=
  model.withOperation name operation.documentation operation.input operation.output

variable {document value new node : Json} {model : Model} {members : List (String × Json)}
  {name tag : String} {documentation : Option String} {change : Json → Json}
  {operation : Operation} {part : Part} {position : Schema.Position}

/-- Changing an operation of a document changes what is read for this operation. -/
theorem ofJson_modifyMember (distinct : document.Distinct) (h : ofJson document = .ok model)
    (hmembers : document.get? "operations" = some (.object members))
    (hvalue : Entries.get? members name = some value)
    (hread : Operation.ofJson (change value) = .ok (operation.named "")) :
    ofJson (document.modifyMember "operations" (Json.modifyMember name change)) =
      .ok (model.declare name operation) := by
  obtain ⟨hendpoint, hmatches⟩ := ofJson_object distinct hmembers h
  cases document with
  | object fields =>
    have hget : Entries.get? fields "operations" = some (.object members) := hmembers
    have hchanged :
        Entries.get? (Entries.modify fields "operations" (Json.modifyMember name change))
          "operations" = some (.object (Entries.set members name (change value))) := by
      rw [Entries.get?_modify_self, hget, Option.map_some, Json.modifyMember,
        Entries.modify_of_get?_eq_some hvalue]
    have hdistinct : Entries.Distinct (Entries.set members name (change value)) :=
      Entries.Distinct.set (distinct.of_get? hmembers).bindsOnce name (change value)
    refine (ofJson_eq_ok_iff_members (distinct.bindsOnce.modifyMember _ _) hdistinct rfl
      hchanged).mpr ⟨?_, ?_, hmatches.set name hread⟩
    · rw [Entries.get?_modify_of_ne _ (by decide)]
      exact hendpoint
    · exact (named_of_ofJson h).withOperation name _ _ _
  | _ => exact absurd hmembers.symm (Option.some_ne_none _)

/-- The inspection does not look at schemas. -/
theorem inspect_declare_eq_ok (h : model.inspect.2 = .ok ())
    (hname : name ∈ model.operationNames) :
    (model.declare name operation).inspect.2 = .ok () := by
  have hnames : (model.declare name operation).operationNames = model.operationNames := by
    rw [operationNames, declare, withOperation, Table.names_set]
    exact if_pos hname
  rw [inspect_eq_ok_iff] at h ⊢
  rw [hnames]
  exact h

/-! ## The rule on inputs and outputs -/

/-- The value is null or an object. -/
def OptionalObject (value : Json) : Prop :=
  value = .null ∨ ∃ fields, value = .object fields

private theorem OptionalObject.modifyMember (h : OptionalObject value) (name : String)
    (change : Json → Json) : OptionalObject (value.modifyMember name change) := by
  rcases h with rfl | ⟨fields, rfl⟩
  · exact .inl rfl
  · exact .inr ⟨_, rfl⟩

private theorem OptionalObject.replace (h : OptionalObject value) (hnew : OptionalObject new)
    (position : Schema.Position) : OptionalObject (position.replace new value) := by
  cases position with
  | nil => exact hnew
  | cons step rest =>
    rcases h with rfl | ⟨fields, rfl⟩
    · cases step <;> exact .inl rfl
    · cases step <;> exact .inr ⟨_, rfl⟩

/-- An input or output keeps its shape if an optional object under it stays one. -/
private theorem rootShape_modifyContents (h : RootShape node)
    (hchange : ∀ value, OptionalObject value → OptionalObject (change value)) :
    RootShape (Schema.modifyContents change node) := by
  obtain ⟨tag, htag, hne⟩ := h.tag
  cases node with
  | object fields =>
    have hother {name : String} (hname : "members" ≠ name) :
        (Schema.modifyContents change (.object fields)).get? name = Entries.get? fields name :=
      Entries.get?_modify_of_ne change hname
    refine ⟨⟨tag, (hother (by decide)).trans htag, hne⟩, fun value hvalue => ?_,
      fun value hvalue => ?_⟩
    · exact h.documentation value ((hother (by decide)).symm.trans hvalue)
    · have hmembers : (Entries.get? fields "members").map change = some value :=
        (Entries.get?_modify_self fields "members" change).symm.trans hvalue
      obtain ⟨found, hfound, rfl⟩ := Option.map_eq_some_iff.mp hmembers
      exact hchange found (h.members found hfound)
  | _ => exact nomatch htag

/-- An input or output keeps its shape if a node below it is replaced by an object. -/
private theorem rootShape_replace (h : RootShape node) (hnew : OptionalObject new)
    (hposition : position ≠ []) : RootShape (position.replace new node) := by
  match position, hposition with
  | .member name :: rest, _ =>
    exact rootShape_modifyContents h fun value hvalue => hvalue.modifyMember name _
  | .element :: rest, _ =>
    exact rootShape_modifyContents h fun value hvalue => hvalue.replace hnew rest

/-- The document may carry the node at the position: an input or output has null or an object under
it, if there is anything, and a node below these has what it likes. -/
def Carries (position : Schema.Position) (new : Json) : Prop :=
  position ≠ [] ∨ ∀ value, new.get? "members" = some value → OptionalObject value

/-- An input or output keeps its shape if and only if the document may carry the new node. -/
theorem rootShape_replace_iff (h : RootShape node)
    (hnew : Schema.FutureNode new tag documentation) :
    RootShape (position.replace new node) ↔ Carries position new := by
  have hobject : ∃ fields, new = .object fields := by
    cases new with
    | object fields => exact ⟨fields, rfl⟩
    | _ => exact nomatch hnew.tagged
  by_cases hposition : position = []
  · subst hposition
    constructor
    · exact fun hroot => .inr hroot.members
    · intro hcarries
      refine ⟨⟨tag, hnew.tagged, hnew.nonEmpty⟩, fun value hvalue => ?_,
        hcarries.resolve_left (absurd rfl)⟩
      have htext : documentation.map Json.string = some value := hnew.documented.symm.trans hvalue
      obtain ⟨text, -, rfl⟩ := Option.map_eq_some_iff.mp htext
      exact ⟨text, rfl⟩
  · constructor
    · exact fun _ => .inl hposition
    · exact fun _ => rootShape_replace h (.inr hobject) hposition

/-! ## Loading -/

/-- The document with another value in the place of a node. -/
def replaceNode (document : Json) (name : String) (part : Part) (position : Schema.Position)
    (new : Json) : Json :=
  document.modifyMember "operations"
    (Json.modifyMember name (Json.modifyMember part.name (position.replace new)))

/-- The model with another schema in the place of a node. -/
def replaceAt (model : Model) (name : String) (part : Part) (position : Schema.Position)
    (new : Schema) : Model :=
  match model.operation? name with
  | some operation => model.declare name
      (operation.withSchema part ((operation.schema part).replaceAt position new))
  | none => model

/-- A document without the right shape is refused. -/
theorem load_of_not_documentShape (h : ¬DocumentShape (fun _ => True) document) :
    ∃ reason, load true document =
      .failed (.invalid ("JSON Schema validation failed:\n  - " ++ reason)) := by
  rw [← follows_model_iff, ← DocumentRule.breaches_eq_nil_iff _ _ []] at h
  have hcheck : ∃ reason, checkDocument document =
      .error (.invalid ("JSON Schema validation failed:\n  - " ++ reason)) := by
    unfold checkDocument
    split
    · rename_i hnone
      exact absurd hnone h
    · exact ⟨_, rfl⟩
  obtain ⟨reason, hreason⟩ := hcheck
  exact ⟨reason, by rw [load, if_pos rfl, hreason]⟩

/-- In the new model the operation has the new schema in the place of the node. -/
theorem operation?_replaceAt (hoperation : model.operation? name = some operation) (part : Part)
    (position : Schema.Position) (new : Schema) :
    (model.replaceAt name part position new).operation? name =
      some ((operation.withSchema part ((operation.schema part).replaceAt position new)).named
        name) := by
  rw [replaceAt, hoperation]
  exact Table.get?_set_self ..

/-- A document that may carry the new node is loaded as the model with the replaced node. -/
private theorem load_replaceNode_of_carries (distinct : document.Distinct)
    (h : (load true document).outcome = .ok model)
    (hoperation : model.operation? name = some operation) {found : Schema}
    (hfound : (operation.schema part).atPosition? position = some found)
    (hnew : Schema.FutureNode new tag documentation) (hcarries : Carries position new) :
    (load true (replaceNode document name part position new)).outcome =
      .ok (model.replaceAt name part position (.unsupported tag documentation)) := by
  obtain ⟨hcheck, hread, hinspect⟩ := load_true_outcome_eq_ok_iff.mp h
  have hshape := checkDocument_eq_ok_iff.mp hcheck
  obtain ⟨members, hmembers, hshapes⟩ := hshape.operations
  obtain ⟨value, hvalue, hvalueRead⟩ :=
    (ofJson_object distinct hmembers hread).2.get?_eq_some hoperation
  have hvalueDistinct := (distinct.of_get? hmembers).of_mem_object (Entries.mem_of_get? hvalue)
  have hvalueShape := hshapes _ (Entries.mem_of_get? hvalue)
  obtain ⟨node, hnode, hroot, -⟩ := hvalueShape.parts part
  have hnodeRead : Schema.ofJson (position.replace new node) =
      .ok ((operation.schema part).replaceAt position (.unsupported tag documentation)) :=
    Schema.ofJson_replace (hvalueDistinct.of_get? hnode)
      (Operation.ofJson_schema hvalueDistinct.bindsOnce hvalueRead hnode) hfound hnew.ofJson_eq
  have hname : name ∈ model.operationNames :=
    Entries.isSome_get?_iff.mp (Option.isSome_of_mem hoperation)
  -- the changed document passes the three stages of loading again
  rw [load_true_outcome_eq_ok_iff, checkDocument_eq_ok_iff, replaceAt, hoperation]
  refine ⟨?_, ?_, inspect_declare_eq_ok hinspect hname⟩
  · exact hshape.modifyMember hmembers hvalue (hvalueShape.modifyMember hnode
      ((rootShape_replace_iff hroot hnew).mpr hcarries) ⟨_, hnodeRead⟩)
  · refine ofJson_modifyMember distinct hread hmembers hvalue ?_
    rw [← Operation.named_withSchema]
    exact Operation.ofJson_modifyMember hvalueDistinct.bindsOnce hvalueRead hnode hnodeRead

/-- A document that may not carry the new node breaks the rule on inputs and outputs. -/
private theorem load_replaceNode_of_not_carries (distinct : document.Distinct)
    (h : (load true document).outcome = .ok model)
    (hoperation : model.operation? name = some operation)
    (hnew : Schema.FutureNode new tag documentation) (hrefused : ¬Carries position new) :
    ∃ reason, load true (replaceNode document name part position new) =
      .failed (.invalid ("JSON Schema validation failed:\n  - " ++ reason)) := by
  obtain ⟨hcheck, hread, -⟩ := load_true_outcome_eq_ok_iff.mp h
  obtain ⟨members, hmembers, hshapes⟩ := (checkDocument_eq_ok_iff.mp hcheck).operations
  obtain ⟨value, hvalue, -⟩ := (ofJson_object distinct hmembers hread).2.get?_eq_some hoperation
  obtain ⟨node, hnode, hroot, -⟩ := (hshapes _ (Entries.mem_of_get? hvalue)).parts part
  refine load_of_not_documentShape fun hreplaced => hrefused ?_
  obtain ⟨replaced, hget, hshape, -⟩ := (hreplaced.of_modifyMember hmembers hvalue).parts part
  rw [Json.get?_modifyMember_self, hnode, Option.map_some, Option.some.injEq] at hget
  exact (rootShape_replace_iff hroot hnew).mp (hget ▸ hshape)

/-- Replacing a node of a loaded document by one of a kind to come gives a document that is loaded
as the same model with a node of unknown kind in this place, where the document may carry the new
node: anywhere below an input or output, and as an input or output if null or an object is under it,
or nothing. Otherwise it is refused for its shape. In the new model, the replacement stands at the
position, and all nodes beside it are what they were. -/
theorem load_replaceNode (distinct : document.Distinct)
    (h : (load true document).outcome = .ok model)
    (hoperation : model.operation? name = some operation) {found : Schema}
    (hfound : (operation.schema part).atPosition? position = some found)
    (hnew : Schema.FutureNode new tag documentation) :
    ((load true (replaceNode document name part position new)).outcome =
        .ok (model.replaceAt name part position (.unsupported tag documentation)) ↔
      Carries position new) ∧
    (¬Carries position new →
      ∃ reason, load true (replaceNode document name part position new) =
        .failed (.invalid ("JSON Schema validation failed:\n  - " ++ reason))) ∧
    ∃ replaced, (model.replaceAt name part position (.unsupported tag documentation)).operation?
        name = some replaced ∧
      (replaced.schema part).atPosition? position = some (.unsupported tag documentation) ∧
      ∀ other, ¬position <+: other → ¬other <+: position →
        (replaced.schema part).atPosition? other = (operation.schema part).atPosition? other := by
  have hrefused : ¬Carries position new →
      ∃ reason, load true (replaceNode document name part position new) =
        .failed (.invalid ("JSON Schema validation failed:\n  - " ++ reason)) :=
    load_replaceNode_of_not_carries distinct h hoperation hnew
  refine ⟨⟨fun hloaded => ?_, ?_⟩, hrefused, _, operation?_replaceAt hoperation .., ?_, ?_⟩
  -- a document that is refused is not loaded
  · by_contra hnot
    obtain ⟨reason, hfailed⟩ := hrefused hnot
    rw [hfailed] at hloaded
    exact nomatch hloaded
  · exact load_replaceNode_of_carries distinct h hoperation hfound hnew
  · have hself := Schema.atPosition?_replaceAt_append (operation.schema part)
      (.unsupported tag documentation) position []
    rw [List.append_nil, hfound] at hself
    rw [Operation.schema_named, Operation.schema_withSchema_self, hself]
    rfl
  · intro other hbeside hbeside'
    rw [Operation.schema_named, Operation.schema_withSchema_self]
    exact Schema.atPosition?_replaceAt_of_beside _ _ hbeside hbeside'

/-- A price of a kind to come, with something under it that is neither null nor an object. -/
def futurePrice : Json :=
  .object [("members", .array [.string "amount", .bool true]), ("type", .string "money")]

/-- The price is a node of a kind that is not known yet. -/
theorem futureNode_futurePrice : Schema.FutureNode futurePrice "money" none where
  distinct := by
    simp [futurePrice, Json.Distinct, Json.DistinctMembers, Json.DistinctItems, Entries.Distinct]
  tagged := rfl
  nonEmpty := by decide
  unknown := by decide
  documented := rfl

/-- In the catalogue, the price of what is listed may be of a kind to come, and the list itself may
not. -/
theorem load_replaceNode_catalogue :
    (load true (replaceNode catalogueDocument "list" .output [.element, .member "price"]
      futurePrice)).outcome =
        .ok (catalogue.replaceAt "list" .output [.element, .member "price"]
          (.unsupported "money" none)) ∧
    ∃ reason, load true (replaceNode catalogueDocument "list" .output [] futurePrice) =
      .failed (.invalid ("JSON Schema validation failed:\n  - " ++ reason)) := by
  obtain ⟨listing, hlisting, hprice⟩ : ∃ listing, catalogue.operation? "list" = some listing ∧
      (listing.schema .output).atPosition? [.element, .member "price"] =
        some (.unsupported "decimal" none) := ⟨_, rfl, rfl⟩
  have hbelow : Carries [.element, .member "price"] futurePrice := .inl (List.cons_ne_nil _ _)
  have hroot : ¬Carries [] futurePrice := by
    rintro (h | h)
    · exact h rfl
    · rcases h _ rfl with hnull | ⟨fields, hobject⟩
      · exact nomatch hnull
      · exact nomatch hobject
  obtain ⟨hloaded, -⟩ := load_replaceNode catalogueDocument_distinct load_catalogueDocument
    hlisting hprice futureNode_futurePrice
  have hwhole : (listing.schema .output).atPosition? [] = some (listing.schema .output) := rfl
  obtain ⟨-, hrefused, -⟩ := load_replaceNode catalogueDocument_distinct load_catalogueDocument
    hlisting hwhole futureNode_futurePrice
  exact ⟨hloaded.mpr hbelow, hrefused hroot⟩

/-- A kind to come can prevent a document from being loaded: an output is refused for what is under
it, although the same would be read below another node. -/
theorem exists_load_replaceNode_failed : ¬∀ (document : Json) (model : Model) (name : String)
    (operation : Operation) (part : Part) (position : Schema.Position) (found : Schema)
    (new : Json) (tag : String) (documentation : Option String), document.Distinct →
    (load true document).outcome = .ok model → model.operation? name = some operation →
    (operation.schema part).atPosition? position = some found →
    Schema.FutureNode new tag documentation →
    (load true (replaceNode document name part position new)).outcome =
      .ok (model.replaceAt name part position (.unsupported tag documentation)) := by
  intro h
  have hfailed : (load true (replaceNode catalogueDocument "list" .output [] futurePrice)).outcome =
      .error (.invalid ("JSON Schema validation failed:\n  - [\"amount\",true] is not of types " ++
        "\"null\", \"object\" (at /operations/list/output/members)")) := by
    decide +kernel
  have hloaded := h catalogueDocument catalogue "list" _ .output [] _ futurePrice "money" none
    catalogueDocument_distinct load_catalogueDocument rfl rfl futureNode_futurePrice
  exact nomatch hfailed.symm.trans hloaded

end Model

end SchemaCall
