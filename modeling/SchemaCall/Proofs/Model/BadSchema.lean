import SchemaCall.Proofs.Model.DocumentRules
import SchemaCall.Proofs.Schema.FirstBad

/-!
# Documents with a bad input or output

A document without a breach of the rules can still have an input or output that is no schema. The
check of the document then fails for the first of them in the order of `documentNodes`, with the
complaint of the first bad node in it (`checkDocument_eq_error_iff`).
-/

namespace SchemaCall

/-- An input or output as it stands in a document. -/
structure DocumentNode where
  operation : String
  part : Part
  value : Json

/-- The path of an input or output in messages about it. -/
def DocumentNode.path (entry : DocumentNode) : String :=
  "operations." ++ entry.operation ++ "." ++ entry.part.name

/-- The inputs and outputs of an operation of the given name, those of the given parts. -/
def partNodes (name : String) (operation : Json) (parts : List Part) : List DocumentNode :=
  parts.filterMap fun part => (operation.get? part.name).map fun value => ⟨name, part, value⟩

/-- The inputs and outputs of a document in the order of its operations, the input of each before
its output. -/
def documentNodes (document : Json) : List DocumentNode :=
  (documentOperations document).flatMap fun operation =>
    partNodes operation.1 operation.2 [.input, .output]

/-- The failure to read an input or output. -/
def DocumentNode.failure? (entry : DocumentNode) : Option ModelError :=
  (Schema.refusal? entry.value).map fun error => .badSchema entry.path error.message

/-- A node of a document does not fail just if it is read. -/
theorem DocumentNode.failure?_eq_none_iff {entry : DocumentNode} :
    entry.failure? = none ↔ ∃ schema, Schema.ofJson entry.value = .ok schema := by
  rw [failure?, Option.map_eq_none_iff, Schema.refusal?_eq_none_iff]

variable {document : Json} {error : ModelError}

private theorem checkParts_eq_error_iff {name : String} {operation : Json} {parts : List Part} :
    checkParts name operation (parts.map Part.name) = .error error ↔
      (partNodes name operation parts).findSome? DocumentNode.failure? = some error := by
  induction parts with
  | nil => exact ⟨(nomatch ·), (nomatch ·)⟩
  | cons part rest ih =>
    rw [List.map_cons, checkParts, partNodes, List.filterMap_cons]
    cases operation.get? part.name with
    | none => exact ih
    | some value =>
      dsimp only [Option.map_some]
      rw [List.findSome?_cons, DocumentNode.failure?, Schema.refusal?]
      cases Schema.ofJson value with
      | error found => simp [DocumentNode.path]
      | ok schema => exact ih

private theorem checkOperations_eq_error_iff {operations : List (String × Json)} :
    checkOperations operations = .error error ↔
      (operations.flatMap fun operation =>
        partNodes operation.1 operation.2 [.input, .output]).findSome? DocumentNode.failure? =
          some error := by
  induction operations generalizing error with
  | nil => exact ⟨(nomatch ·), (nomatch ·)⟩
  | cons operation rest ih =>
    obtain ⟨name, value⟩ := operation
    have hsteps : checkOperations ((name, value) :: rest) =
        (checkParts name value ([Part.input, .output].map Part.name)).bind fun _ =>
          checkOperations rest := by
      have hparts : [Part.input, .output].map Part.name = schemaParts := rfl
      rw [checkOperations, hparts]
      cases checkParts name value schemaParts <;> rfl
    rw [hsteps, List.flatMap_cons, List.findSome?_append]
    exact Json.bind_eq_error_iff (fun error => checkParts_eq_error_iff) fun _ error => ih

/-- The check of a document without a breach fails for its first bad input or output. -/
theorem checkDocument_eq_error_iff (h : DocumentRule.model.Follows document) :
    checkDocument document = .error error ↔
      (documentNodes document).findSome? DocumentNode.failure? = some error := by
  rw [checkDocument, (DocumentRule.breaches_eq_nil_iff _ _ []).mpr h]
  exact checkOperations_eq_error_iff

/-- No object in a schema node of a document binds a name twice, if none in the document does. -/
theorem distinct_of_mem_documentNodes (distinct : document.Distinct) {entry : DocumentNode}
    (h : entry ∈ documentNodes document) : entry.value.Distinct := by
  obtain ⟨operation, hoperation, hpart⟩ := List.mem_flatMap.mp h
  obtain ⟨part, -, hvalue⟩ := List.mem_filterMap.mp hpart
  obtain ⟨value, hget, rfl⟩ := Option.map_eq_some_iff.mp hvalue
  exact (distinct_of_mem_documentOperations distinct hoperation).of_get? hget

/-- A value is not read as a schema if and only if there is a bad node in it, and the message is the
complaint of the first one, behind the steps on the way to it. A document without a breach whose
inputs and outputs are not all schemas is refused for the first that is none, under its path and
with that message. -/
theorem first_bad_node_reported :
    (∀ (value : Json) (error : Schema.NodeError), value.Distinct →
      (Schema.ofJson value = .error error ↔
        Schema.FirstBad value error.steps error.complaint) ∧
      error.message =
        String.join (error.steps.map Schema.Step.message) ++ error.complaint.message) ∧
    ∀ document : Json, document.Distinct → DocumentRule.model.Follows document →
      (∃ entry ∈ documentNodes document, ∀ schema, Schema.ofJson entry.value ≠ .ok schema) →
      ∃ before entry after position complaint,
        documentNodes document = before ++ entry :: after ∧
        (∀ earlier ∈ before, ∃ schema, Schema.ofJson earlier.value = .ok schema) ∧
        Schema.FirstBad entry.value position complaint ∧
        checkDocument document = .error (.badSchema
          ("operations." ++ entry.operation ++ "." ++ entry.part.name)
          (String.join (position.map Schema.Step.message) ++ complaint.message)) := by
  refine ⟨fun value error distinct =>
    ⟨Schema.ofJson_eq_error_iff distinct, error.message_eq⟩, ?_⟩
  rintro document distinct hfollows ⟨bad, hbad, hunread⟩
  obtain ⟨failure, hfailure⟩ : ∃ failure, bad.failure? = some failure := by
    refine Option.ne_none_iff_exists'.mp fun hnone => ?_
    obtain ⟨schema, hread⟩ := DocumentNode.failure?_eq_none_iff.mp hnone
    exact hunread schema hread
  -- some node is refused, so there is a first one, and those before it are read
  obtain ⟨error, hfirst⟩ := Option.isSome_iff_exists.mp
    (List.findSome?_isSome_iff.mpr ⟨bad, hbad, Option.isSome_iff_exists.mpr ⟨failure, hfailure⟩⟩)
  obtain ⟨before, entry, after, hnodes, hentry, hbefore⟩ := List.findSome?_eq_some_iff.mp hfirst
  obtain ⟨⟨position, complaint⟩, hrefusal, rfl⟩ := Option.map_eq_some_iff.mp hentry
  have hmem : entry ∈ documentNodes document := by
    rw [hnodes]
    simp
  refine ⟨before, entry, after, position, complaint, hnodes, fun earlier hearlier => ?_, ?_, ?_⟩
  · exact DocumentNode.failure?_eq_none_iff.mp (hbefore earlier hearlier)
  · exact (Schema.ofJson_eq_error_iff (distinct_of_mem_documentNodes distinct hmem)).mp
      (Schema.refusal?_eq_some_iff.mp hrefusal)
  · rw [← Schema.NodeError.message_eq ⟨position, complaint⟩]
    exact (checkDocument_eq_error_iff hfollows).mpr hfirst

/-- The output of an operation that tells where a parcel was. Two of its nodes are bad: the list of
places has no element, and what is under the times is no object. -/
def trackedOutput : Json :=
  .object [("type", .string "list"), ("members", .object [("type", .string "structure"),
    ("members", .object [("places", .array [.string "list", .null, .string "In order."]),
      ("times", .object [("type", .string "structure"), ("members", .bool true)])])])]

/-- A document with this output. The input of its last operation is bad as well. -/
def trackingDocument : Json :=
  .object [("endpoint_url", .string "http://localhost:4000"), ("operations", .object
    [("track", .object [("input", .object [("type", .string "structure")]),
        ("output", trackedOutput)]),
      ("trace", .object [("input", .object [("type", .string "list")]),
        ("output", .object [("type", .string "string")])])])]

/-- A parcel service whose output has a list without an element, two levels below. -/
theorem first_bad_node_reported_tracking :
    trackingDocument.Distinct ∧ DocumentRule.model.Follows trackingDocument ∧
    Schema.FirstBad trackedOutput [.element, .member "places"] .missingElement ∧
    ∃ (entry : DocumentNode) (position : Schema.Position) (complaint : Schema.NodeComplaint),
      Schema.FirstBad entry.value position complaint ∧
      "operations." ++ entry.operation ++ "." ++ entry.part.name = "operations.track.output" ∧
      String.join (position.map Schema.Step.message) ++ complaint.message =
        "list element: member 'places': list node requires a 'members' element schema" := by
  have hdistinct : trackingDocument.Distinct := by
    simp [trackingDocument, trackedOutput, Json.Distinct, Json.DistinctMembers,
      Json.DistinctItems, Entries.Distinct]
  have houtput : trackedOutput.Distinct := by
    simp [trackedOutput, Json.Distinct, Json.DistinctMembers, Json.DistinctItems, Entries.Distinct]
  have hfollows : DocumentRule.model.Follows trackingDocument :=
    (DocumentRule.breaches_eq_nil_iff _ _ []).mp (by decide +kernel)
  have hread : Schema.ofJson trackedOutput =
      .error ⟨[.element, .member "places"], .missingElement⟩ := by decide +kernel
  have hunread (schema : Schema) : Schema.ofJson trackedOutput ≠ .ok schema := by
    simp [hread]
  have hcheck : checkDocument trackingDocument = .error (.badSchema "operations.track.output"
      "list element: member 'places': list node requires a 'members' element schema") := by
    decide +kernel
  have hnode : (documentNodes trackingDocument)[1]? = some ⟨"track", .output, trackedOutput⟩ := rfl
  obtain ⟨_, entry, _, position, complaint, -, -, hfirst, hreported⟩ :=
    first_bad_node_reported.2 trackingDocument hdistinct hfollows
      ⟨_, List.mem_of_getElem? hnode, hunread⟩
  rw [hcheck] at hreported
  obtain ⟨hpath, hmessage⟩ := ModelError.badSchema.inj (Except.error.inj hreported)
  exact ⟨hdistinct, hfollows, (first_bad_node_reported.1 _ _ houtput).1.mp hread,
    entry, position, complaint, hfirst, hpath.symm, hmessage.symm⟩

end SchemaCall
