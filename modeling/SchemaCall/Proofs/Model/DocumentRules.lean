import Mathlib.Data.List.Basic
import SchemaCall.Model.Basic
import SchemaCall.Model.DocumentRules
import SchemaCall.Proofs.Json.Record

/-!
# Documents without a breach

`DocumentRule.Follows` says what a rule asks of a value, and a value that follows a rule is one
without breaches (`DocumentRule.breaches_eq_nil_iff`). Spelled out for the rule on documents this
gives `checkDocument_eq_ok_iff`: which documents pass the check.
-/

namespace SchemaCall

namespace DocumentRule

/-- A value follows a rule. -/
inductive Follows : DocumentRule → Json → Prop
  | text (content : String) : Follows .text (.string content)
  | nonEmptyText {content : String} (nonEmpty : content ≠ "") :
    Follows .nonEmptyText (.string content)
  | null : Follows .optionalObject .null
  | object (members : List (String × Json)) : Follows .optionalObject (.object members)
  | mapOf {rule : DocumentRule} {members : List (String × Json)}
    (each : ∀ member ∈ members, Follows rule member.2) : Follows (.mapOf rule) (.object members)
  | record {required : List String} {properties : List (String × DocumentRule)}
    {members : List (String × Json)} (present : ∀ name ∈ required, name ∈ Entries.names members)
    (known : ∀ property ∈ properties, ∀ value, Entries.get? members property.1 = some value →
      Follows property.2 value) : Follows (.record required properties) (.object members)

variable {members : List (String × Json)} {value : Json}

/-- A text follows the rule for texts, and nothing else does. -/
theorem follows_text_iff : text.Follows value ↔ ∃ content, value = .string content :=
  ⟨fun | .text content => ⟨content, rfl⟩, fun ⟨content, h⟩ => h ▸ .text content⟩

/-- Any text but the empty one follows the rule for texts that say something. -/
theorem follows_nonEmptyText_iff :
    nonEmptyText.Follows value ↔ ∃ content, value = .string content ∧ content ≠ "" :=
  ⟨fun | .nonEmptyText h => ⟨_, rfl, h⟩, fun ⟨_, hvalue, h⟩ => hvalue ▸ .nonEmptyText h⟩

/-- Null and objects follow the rule for objects that may be missing. -/
theorem follows_optionalObject_iff :
    optionalObject.Follows value ↔ value = .null ∨ ∃ members, value = .object members := by
  constructor
  · rintro (_ | _)
    · exact .inl rfl
    · exact .inr ⟨_, rfl⟩
  · rintro (rfl | ⟨members, rfl⟩)
    · exact .null
    · exact .object members

/-- An object follows the rule for maps if each of its values follows the one for values. -/
theorem follows_mapOf_iff {rule : DocumentRule} : (mapOf rule).Follows value ↔
    ∃ members, value = .object members ∧ ∀ member ∈ members, rule.Follows member.2 :=
  ⟨fun | .mapOf h => ⟨_, rfl, h⟩, fun ⟨_, hvalue, h⟩ => hvalue ▸ .mapOf h⟩

/-- An object follows the rule for a record if it has what is required, and what it has of the
properties follows their rules. -/
theorem follows_record_iff {required : List String} {properties : List (String × DocumentRule)} :
    (record required properties).Follows value ↔ ∃ members, value = .object members ∧
      (∀ name ∈ required, name ∈ Entries.names members) ∧
      ∀ property ∈ properties, ∀ value, Entries.get? members property.1 = some value →
        property.2.Follows value :=
  ⟨fun | .record h h' => ⟨_, rfl, h, h'⟩, fun ⟨_, hvalue, h, h'⟩ => hvalue ▸ .record h h'⟩

/-- The same in terms of look-up, for rules with a required member: only objects have one. -/
theorem follows_record_iff_get? {required : List String}
    {properties : List (String × DocumentRule)} (some_required : required ≠ []) :
    (record required properties).Follows value ↔
      (∀ name ∈ required, ∃ found, value.get? name = some found) ∧
      ∀ property ∈ properties, ∀ found, value.get? property.1 = some found →
        property.2.Follows found := by
  rw [follows_record_iff]
  simp only [← Entries.isSome_get?_iff, Option.isSome_iff_exists]
  constructor
  · rintro ⟨members, rfl, hpresent, hknown⟩
    exact ⟨hpresent, hknown⟩
  · rintro ⟨hpresent, hknown⟩
    obtain ⟨name, hname⟩ := List.exists_mem_of_ne_nil required some_required
    obtain ⟨found, hfound⟩ := hpresent name hname
    cases value with
    | object members => exact ⟨members, rfl, hpresent, hknown⟩
    | _ => exact nomatch hfound

mutual

/-- A value has no breach if and only if it follows the rule. -/
theorem breaches_eq_nil_iff (rule : DocumentRule) (value : Json) (path : List String) :
    rule.breaches value path = [] ↔ rule.Follows value := by
  -- the rules are nested, so the recursion is on the rule and not on the value
  match rule with
  | .text =>
    rw [follows_text_iff]
    cases value <;> simp [breaches]
  | .nonEmptyText =>
    rw [follows_nonEmptyText_iff]
    cases value <;> simp [breaches]
  | .optionalObject =>
    rw [follows_optionalObject_iff]
    cases value <;> simp [breaches]
  | .mapOf rule =>
    rw [follows_mapOf_iff]
    cases value with
    | object members =>
      simp only [breaches, List.flatMap_eq_nil_iff, breaches_eq_nil_iff rule, Json.object.injEq,
        exists_eq_left']
    | _ => simp [breaches]
  | .record required properties =>
    rw [follows_record_iff]
    cases value with
    | object members =>
      simp only [breaches, List.append_eq_nil_iff, propertyBreaches_eq_nil_iff properties,
        Json.object.injEq, exists_eq_left', List.map_eq_nil_iff, List.filter_eq_nil_iff,
        Option.isNone_iff_eq_none, Entries.get?_eq_none_iff, not_not]
    | _ => simp [breaches]

/-- The known members have no breach if and only if each of them follows its rule. -/
theorem propertyBreaches_eq_nil_iff (properties : List (String × DocumentRule))
    (members : List (String × Json)) (path : List String) :
    propertyBreaches properties members path = [] ↔
      ∀ property ∈ properties, ∀ value, Entries.get? members property.1 = some value →
        property.2.Follows value := by
  match properties with
  | [] => simp [propertyBreaches]
  | (name, rule) :: rest =>
    rw [propertyBreaches, List.append_eq_nil_iff, propertyBreaches_eq_nil_iff rest,
      List.forall_mem_cons]
    refine and_congr_left fun _ => ?_
    cases Entries.get? members name with
    | none => simp
    | some member =>
      simp only [breaches_eq_nil_iff rule, Option.some.injEq, forall_eq']

end

end DocumentRule

/-! ## The rules on documents, spelled out -/

/-- An input or output as the rule on them wants it: an object with a tag that is not empty, whose
documentation, if there is any, is a text, and whose members, if there are any, are null or an
object. -/
structure RootShape (node : Json) : Prop where
  tag : ∃ tag, node.get? "type" = some (.string tag) ∧ tag ≠ ""
  documentation : ∀ value, node.get? "documentation" = some value → ∃ text, value = .string text
  members : ∀ value, node.get? "members" = some value →
    value = .null ∨ ∃ fields, value = .object fields

/-- An operation as the rule on them wants it: its documentation, if there is any, is a text. What
is asked of its input and output beyond their shape is left open. -/
structure OperationShape (Node : Json → Prop) (value : Json) : Prop where
  documentation : ∀ found, value.get? "documentation" = some found → ∃ text, found = .string text
  parts : ∀ part : Part, ∃ node, value.get? part.name = some node ∧ RootShape node ∧ Node node

/-- A document as the rule on them wants it: it names an endpoint, and its operations are an object.
What is asked of inputs and outputs beyond their shape is left open. -/
structure DocumentShape (Node : Json → Prop) (document : Json) : Prop where
  endpoint : ∃ endpoint, document.get? "endpoint_url" = some (.string endpoint) ∧ endpoint ≠ ""
  operations : ∃ members, document.get? "operations" = some (.object members) ∧
    ∀ member ∈ members, OperationShape Node member.2

variable {P Q : Json → Prop} {document : Json}

/-- The shape of an operation asks of its schema nodes what they have. -/
theorem OperationShape.imp {value : Json} (h : OperationShape P value)
    (himp : ∀ (part : Part) (node : Json), value.get? part.name = some node → P node → Q node) :
    OperationShape Q value := by
  refine ⟨h.documentation, fun part => ?_⟩
  obtain ⟨node, hnode, hroot, hP⟩ := h.parts part
  exact ⟨node, hnode, hroot, himp part node hnode hP⟩

/-- The operations of a document are the members of its entry for operations. -/
theorem documentOperations_eq {members : List (String × Json)}
    (h : document.get? "operations" = some (.object members)) :
    documentOperations document = members := by
  rw [documentOperations, h]

/-- No object in an operation of a document binds a name twice, if none in the document does. -/
theorem distinct_of_mem_documentOperations (distinct : document.Distinct)
    {operation : String × Json} (h : operation ∈ documentOperations document) :
    operation.2.Distinct := by
  unfold documentOperations at h
  split at h
  · rename_i members hmembers
    exact (distinct.of_get? hmembers).of_mem_object h
  · exact absurd h List.not_mem_nil

/-- Every operation of a document has the shape of one. -/
theorem DocumentShape.operation (h : DocumentShape P document) {member : String × Json}
    (hmember : member ∈ documentOperations document) : OperationShape P member.2 := by
  obtain ⟨members, hget, hmembers⟩ := h.operations
  exact hmembers member (documentOperations_eq hget ▸ hmember)

/-- The shape of a document asks of its schema nodes what they have. -/
theorem DocumentShape.imp (h : DocumentShape P document)
    (himp : ∀ member ∈ documentOperations document, ∀ (part : Part) (node : Json),
      member.2.get? part.name = some node → P node → Q node) : DocumentShape Q document := by
  obtain ⟨members, hget, hmembers⟩ := h.operations
  refine ⟨h.endpoint, members, hget, fun member hmember => ?_⟩
  exact (hmembers member hmember).imp (himp member (documentOperations_eq hget ▸ hmember))

/-- A member that has to be there and follow a rule. -/
private theorem present_iff {found : Option Json} {P : Json → Prop} :
    (∃ value, found = some value) ∧ (∀ value, found = some value → P value) ↔
      ∃ value, found = some value ∧ P value := by
  cases found <;> simp

/-- The rule for schema nodes is the shape of a root. -/
theorem follows_schemaNode_iff {node : Json} :
    DocumentRule.schemaNode.Follows node ↔ RootShape node := by
  rw [DocumentRule.schemaNode, DocumentRule.follows_record_iff_get? (by decide)]
  simp only [List.forall_mem_cons, List.not_mem_nil, false_implies, implies_true, and_true,
    DocumentRule.follows_nonEmptyText_iff, DocumentRule.follows_text_iff,
    DocumentRule.follows_optionalObject_iff]
  rw [← and_assoc, present_iff]
  constructor
  · rintro ⟨⟨_, htag, tag, rfl, hne⟩, htext, hmembers⟩
    exact ⟨⟨tag, htag, hne⟩, htext, hmembers⟩
  · rintro ⟨⟨tag, htag, hne⟩, htext, hmembers⟩
    exact ⟨⟨_, htag, tag, rfl, hne⟩, htext, hmembers⟩

/-- The rule for operations is their shape, with nothing asked below the roots. -/
theorem follows_operation_iff {value : Json} :
    DocumentRule.operation.Follows value ↔ OperationShape (fun _ => True) value := by
  rw [DocumentRule.operation, DocumentRule.follows_record_iff_get? (by decide)]
  simp only [List.forall_mem_cons, List.not_mem_nil, false_implies, implies_true, and_true,
    DocumentRule.follows_text_iff, follows_schemaNode_iff]
  constructor
  · rintro ⟨⟨hinput, houtput⟩, htext, hinput', houtput'⟩
    refine ⟨htext, fun part => ?_⟩
    simp only [and_true]
    cases part with
    | input => exact present_iff.mp ⟨hinput, hinput'⟩
    | output => exact present_iff.mp ⟨houtput, houtput'⟩
  · rintro ⟨htext, hparts⟩
    simp only [and_true] at hparts
    obtain ⟨hinput, hinput'⟩ := present_iff.mpr (hparts .input)
    obtain ⟨houtput, houtput'⟩ := present_iff.mpr (hparts .output)
    exact ⟨⟨hinput, houtput⟩, htext, hinput', houtput'⟩

/-- The rule for documents is their shape, with nothing asked below the roots. -/
theorem follows_model_iff :
    DocumentRule.model.Follows document ↔ DocumentShape (fun _ => True) document := by
  rw [DocumentRule.model, DocumentRule.follows_record_iff_get? (by decide)]
  simp only [List.forall_mem_cons, List.not_mem_nil, false_implies, implies_true, and_true,
    DocumentRule.follows_nonEmptyText_iff, DocumentRule.follows_mapOf_iff, follows_operation_iff]
  constructor
  · rintro ⟨⟨hendpoint, hoperations⟩, hendpoint', hoperations'⟩
    obtain ⟨_, hget, endpoint, rfl, hne⟩ := present_iff.mp ⟨hendpoint, hendpoint'⟩
    obtain ⟨_, hget', members, rfl, hmembers⟩ := present_iff.mp ⟨hoperations, hoperations'⟩
    exact ⟨⟨endpoint, hget, hne⟩, members, hget', hmembers⟩
  · rintro ⟨⟨endpoint, hget, hne⟩, members, hget', hmembers⟩
    refine ⟨⟨⟨_, hget⟩, _, hget'⟩, fun value hvalue => ?_, fun value hvalue => ?_⟩
    · obtain rfl := Option.some.inj (hget.symm.trans hvalue)
      exact ⟨endpoint, rfl, hne⟩
    · obtain rfl := Option.some.inj (hget'.symm.trans hvalue)
      exact ⟨members, rfl, hmembers⟩

/-! ## Checking documents -/

private theorem name_mem_schemaParts (part : Part) : part.name ∈ schemaParts := by
  cases part <;> decide

private theorem exists_part_of_mem_schemaParts {name : String} (h : name ∈ schemaParts) :
    ∃ part : Part, part.name = name := by
  obtain rfl | rfl : name = "input" ∨ name = "output" := by simpa [schemaParts] using h
  · exact ⟨.input, rfl⟩
  · exact ⟨.output, rfl⟩

private theorem checkParts_eq_ok_iff {name : String} {operation : Json} {parts : List String} :
    checkParts name operation parts = .ok () ↔ ∀ part ∈ parts, ∀ node,
      operation.get? part = some node → ∃ schema, Schema.ofJson node = .ok schema := by
  induction parts with
  | nil => simp [checkParts]
  | cons part rest ih =>
    rw [checkParts, List.forall_mem_cons, ← ih]
    cases operation.get? part with
    | none => simp
    | some node =>
      simp only [Option.some.injEq, forall_eq']
      cases Schema.ofJson node <;> simp

private theorem checkOperations_eq_ok_iff {operations : List (String × Json)} :
    checkOperations operations = .ok () ↔ ∀ operation ∈ operations,
      checkParts operation.1 operation.2 schemaParts = .ok () := by
  induction operations with
  | nil => simp [checkOperations]
  | cons operation rest ih =>
    obtain ⟨name, value⟩ := operation
    rw [checkOperations, List.forall_mem_cons, ← ih]
    cases checkParts name value schemaParts <;> simp

private theorem checkDocument_eq_ok_iff_follows : checkDocument document = .ok () ↔
    DocumentRule.model.Follows document ∧
      checkOperations (documentOperations document) = .ok () := by
  rw [← DocumentRule.breaches_eq_nil_iff _ _ [], checkDocument]
  split <;> simp_all

/-- A document passes the check if it has the right shape and each input and output is read as a
schema. -/
theorem checkDocument_eq_ok_iff : checkDocument document = .ok () ↔
    DocumentShape (fun node => ∃ schema, Schema.ofJson node = .ok schema) document := by
  rw [checkDocument_eq_ok_iff_follows, follows_model_iff, checkOperations_eq_ok_iff]
  simp only [checkParts_eq_ok_iff]
  constructor
  · rintro ⟨hshape, hread⟩
    exact hshape.imp fun member hmember part node hnode _ =>
      hread member hmember part.name (name_mem_schemaParts part) node hnode
  · intro hshape
    -- the second part of the check looks at whatever stands under the name of a part
    refine ⟨hshape.imp fun _ _ _ _ _ _ => trivial, fun member hmember name hname node hnode => ?_⟩
    obtain ⟨part, rfl⟩ := exists_part_of_mem_schemaParts hname
    obtain ⟨found, hfound, -, hread⟩ := (hshape.operation hmember).parts part
    obtain rfl := Option.some.inj (hfound.symm.trans hnode)
    exact hread

end SchemaCall
