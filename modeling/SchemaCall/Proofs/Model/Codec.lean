import SchemaCall.Model.Codec
import SchemaCall.Proofs.Schema.Codec

/-!
# Which documents are models

Operations and models are records, written as an object or an array. `Operation.ofJson_eq_ok_iff`
and `Model.ofJson_eq_ok_iff` say what each field has to hold and what is made of it.

A model is `Model.Named` if each of its operations bears the name that it is declared under. What is
read from a document is named, although the document writes no names of operations but as keys
(`Model.named_of_ofJson`), and it is read back from its JSON form (`Model.ofJson_toJson`,
`Model.readable_of_ofJson`).
-/

namespace SchemaCall

/-! ## Operations -/

namespace Operation

/-- A field holds a schema; one that is not there holds none. -/
private inductive SchemaIn : Option Json → Option Schema → Prop
  | absent : SchemaIn none none
  | node {value : Json} {schema : Schema} (read : Schema.ofJson value = .ok schema) :
    SchemaIn (some value) (some schema)

private theorem SchemaIn.unique {written : Option Json} {a b : Option Schema}
    (ha : SchemaIn written a) (hb : SchemaIn written b) : a = b := by
  cases ha with
  | absent =>
    cases hb
    rfl
  | node hread =>
    cases hb with
    | node hread' => rw [Except.ok.inj (hread.symm.trans hread')]

private theorem schemaIn_some_iff {written : Option Json} {schema : Schema} :
    SchemaIn written (some schema) ↔
      ∃ value, written = some value ∧ Schema.ofJson value = .ok schema := by
  constructor
  · intro h
    cases h with
    | node hread => exact ⟨_, rfl, hread⟩
  · rintro ⟨value, rfl, hread⟩
    exact .node hread

private theorem SchemaIn.exists_read {value : Json} {found : Option Schema}
    (h : SchemaIn (some value) found) : ∃ schema, Schema.ofJson value = .ok schema := by
  cases h with
  | node hread => exact ⟨_, hread⟩

/-- What is found in one field of an operation. -/
private def Draft.Finds (draft : Draft) : String → Option Json → Prop
  | "documentation", written => Json.DefaultText written draft.documentation
  | "input", written => SchemaIn written draft.input
  | "output", written => SchemaIn written draft.output
  | _, _ => True

private theorem Draft.finds_iff {draft : Draft} {written : String → Option Json} :
    (∀ name, draft.Finds name (written name)) ↔
      Json.DefaultText (written "documentation") draft.documentation ∧
        SchemaIn (written "input") draft.input ∧ SchemaIn (written "output") draft.output := by
  constructor
  · intro h
    exact ⟨h "documentation", h "input", h "output"⟩
  · rintro ⟨htext, hinput, houtput⟩ name
    unfold Finds
    split
    · exact htext
    · exact hinput
    · exact houtput
    · trivial

private theorem Draft.take_cases {draft next : Draft} {name : String} {value : Json}
    (h : draft.take name value = .ok next) :
    (∃ documentation, name = "documentation" ∧ value = .string documentation ∧
      next = { draft with documentation }) ∨
    (∃ schema, name = "input" ∧ Schema.ofJson value = .ok schema ∧
      next = { draft with input := some schema }) ∨
    (∃ schema, name = "output" ∧ Schema.ofJson value = .ok schema ∧
      next = { draft with output := some schema }) ∨
    ((name ≠ "documentation" ∧ name ≠ "input" ∧ name ≠ "output") ∧ next = draft) := by
  unfold Draft.take at h
  split at h
  · split at h
    · rename_i documentation hread
      exact .inl ⟨documentation, rfl, Json.expectString_eq_ok_iff.mp hread,
        (Except.ok.inj h).symm⟩
    · exact nomatch h
  · split at h
    · rename_i schema hread
      exact .inr (.inl ⟨schema, rfl, hread, (Except.ok.inj h).symm⟩)
    · exact nomatch h
  · split at h
    · rename_i schema hread
      exact .inr (.inr (.inl ⟨schema, rfl, hread, (Except.ok.inj h).symm⟩))
    · exact nomatch h
  · rename_i htext hinput houtput
    exact .inr (.inr (.inr ⟨⟨htext, hinput, houtput⟩, (Except.ok.inj h).symm⟩))

private theorem draftReader :
    Json.RecordReader Draft.take ⟨"", none, none⟩ Draft.Finds where
  absent := Draft.finds_iff.mpr ⟨.absent, .absent, .absent⟩
  self {draft name value next} h := by
    obtain ⟨text, rfl, rfl, rfl⟩ | ⟨schema, rfl, hread, rfl⟩ | ⟨schema, rfl, hread, rfl⟩ |
      ⟨hname, rfl⟩ := Draft.take_cases h
    · exact .text text
    · exact .node hread
    · exact .node hread
    · obtain ⟨htext, hinput, houtput⟩ := hname
      unfold Draft.Finds
      split <;> first | contradiction | trivial
  other {draft key value next name written} hkey h := by
    obtain ⟨text, rfl, rfl, rfl⟩ | ⟨schema, rfl, hread, rfl⟩ | ⟨schema, rfl, hread, rfl⟩ |
      ⟨hname, rfl⟩ := Draft.take_cases h
    all_goals
      unfold Draft.Finds
      split <;> first | contradiction | rfl
  accepts {target name value} draft h := by
    unfold Draft.take
    split
    · rw [Json.expectString_eq_ok_iff.mpr (Json.defaultText_some_iff.mp h)]
      exact ⟨_, rfl⟩
    · obtain ⟨schema, hread⟩ := SchemaIn.exists_read h
      rw [hread]
      exact ⟨_, rfl⟩
    · obtain ⟨schema, hread⟩ := SchemaIn.exists_read h
      rw [hread]
      exact ⟨_, rfl⟩
    · exact ⟨_, rfl⟩
  unique {a b} h := by
    obtain ⟨text, htext, htext'⟩ := h "documentation"
    obtain ⟨input, hinput, hinput'⟩ := h "input"
    obtain ⟨output, houtput, houtput'⟩ := h "output"
    obtain ⟨textA, inputA, outputA⟩ := a
    obtain ⟨textB, inputB, outputB⟩ := b
    rw [Draft.mk.injEq]
    exact ⟨htext.unique htext', hinput.unique hinput', houtput.unique houtput'⟩

private theorem Draft.finish_eq_ok_iff {draft : Draft} {operation : Operation} :
    draft.finish = .ok operation ↔ operation.name = "" ∧
      draft = ⟨operation.documentation, some operation.input, some operation.output⟩ := by
  obtain ⟨text, input, output⟩ := draft
  obtain ⟨name', text', input', output'⟩ := operation
  cases input <;> cases output <;> simp [finish, eq_comm]

/-- An operation is read from a record with a schema for its input and one for its output; its
documentation is empty if there is none, and so is its name. -/
theorem ofJson_eq_ok_iff {value : Json} {operation : Operation} (distinct : value.BindsOnce) :
    ofJson value = .ok operation ↔ operation.name = "" ∧
      ∃ entries, shape.written? value = some entries ∧
      Json.DefaultText (Entries.get? entries "documentation") operation.documentation ∧
      (∃ input, Entries.get? entries "input" = some input ∧
        Schema.ofJson input = .ok operation.input) ∧
      ∃ output, Entries.get? entries "output" = some output ∧
        Schema.ofJson output = .ok operation.output := by
  have hread : ofJson value = .ok operation ↔ operation.name = "" ∧
      Json.readRecord shape ModelMisfit.shape Draft.take ⟨"", none, none⟩ value =
        .ok ⟨operation.documentation, some operation.input, some operation.output⟩ := by
    rw [ofJson]
    cases Json.readRecord shape ModelMisfit.shape Draft.take ⟨"", none, none⟩ value with
    | error error => simp
    | ok draft =>
      rw [Except.ok.injEq]
      exact Draft.finish_eq_ok_iff
  rw [hread, draftReader.readRecord_eq_ok_iff (by decide) distinct]
  simp only [Draft.finds_iff, schemaIn_some_iff]
  refine and_congr_right fun _ => exists_congr fun entries => and_congr_right fun _ =>
    ⟨And.right, fun h => ⟨?_, h⟩⟩
  obtain ⟨-, ⟨input, hinput, -⟩, output, houtput, -⟩ := h
  -- the required fields are there, because they were found
  intro name hname
  obtain rfl | rfl : name = "input" ∨ name = "output" := by
    simpa [Json.RecordShape.required, shape] using hname
  · exact Entries.isSome_get?_iff.mp (hinput ▸ rfl)
  · exact Entries.isSome_get?_iff.mp (houtput ▸ rfl)

/-- An operation is read without its name, which the entry above it has. -/
theorem name_of_ofJson {value : Json} {operation : Operation} (h : ofJson value = .ok operation) :
    operation.name = "" := by
  unfold ofJson at h
  split at h
  · exact (Draft.finish_eq_ok_iff.mp h).1
  · contradiction

/-- Both schemas of the operation can be read. -/
def Readable (operation : Operation) : Prop :=
  operation.input.Readable ∧ operation.output.Readable

/-- An operation is read back from its JSON form, but for its name. -/
theorem ofJson_toJson {operation : Operation} (h : operation.Readable) :
    ofJson operation.toJson = .ok (operation.named "") := by
  refine (ofJson_eq_ok_iff ?_).mpr ⟨rfl, _, rfl, .text operation.documentation,
    ⟨_, rfl, Schema.ofJson_toJson h.1⟩, _, rfl, Schema.ofJson_toJson h.2⟩
  simp [toJson, Json.BindsOnce, Entries.Distinct]

/-- No object of a written operation binds a name twice. -/
theorem distinct_toJson {operation : Operation} (h : operation.Readable) :
    operation.toJson.Distinct := by
  have hinput := h.1.distinct.toJson
  have houtput := h.2.distinct.toJson
  simp [toJson, Json.Distinct, Json.DistinctMembers, Entries.Distinct, hinput, houtput]

/-- An operation that was read can be read back. -/
theorem readable_of_ofJson {value : Json} {operation : Operation} (distinct : value.Distinct)
    (h : ofJson value = .ok operation) : operation.Readable := by
  obtain ⟨-, entries, hwritten, -, ⟨input, hinput, hread⟩, output, houtput, hread'⟩ :=
    (ofJson_eq_ok_iff distinct.bindsOnce).mp h
  have hdistinct : ∀ entry ∈ entries, entry.2.Distinct :=
    fun _ => shape.distinct_of_mem_written? distinct hwritten
  exact ⟨Schema.readable_of_ofJson (hdistinct _ (Entries.mem_of_get? hinput)) hread,
    Schema.readable_of_ofJson (hdistinct _ (Entries.mem_of_get? houtput)) hread'⟩

end Operation

/-! ## Models -/

namespace Model

/-- The operations are read one by one, in order and under their names. -/
theorem readOperations_eq_ok_iff {members : List (String × Json)}
    {operations : List (String × Operation)} : readOperations members = .ok operations ↔
      Entries.Matches (fun value operation => Operation.ofJson value = .ok operation)
        members operations := by
  induction members generalizing operations with
  | nil => rw [readOperations, Entries.matches_nil_left, Except.ok.injEq, eq_comm]
  | cons member rest ih =>
    obtain ⟨name, value⟩ := member
    rw [readOperations, Entries.matches_cons_left]
    cases hread : Operation.ofJson value with
    | error error => simp
    | ok operation =>
      simp only [← ih]
      cases readOperations rest <;> simp [eq_comm]

/-- The operations of a document: none if they are not there, and otherwise an object of
operations. -/
inductive OperationsIn : Option Json → Table Operation → Prop
  | absent : OperationsIn none ∅
  | object {members : List (String × Json)} {operations : List (String × Operation)}
    (read : readOperations members = .ok operations) :
    OperationsIn (some (.object members)) (.ofList operations)

private theorem OperationsIn.unique {written : Option Json} {a b : Table Operation}
    (ha : OperationsIn written a) (hb : OperationsIn written b) : a = b := by
  cases ha with
  | absent =>
    cases hb
    rfl
  | object hread =>
    cases hb with
    | object hread' => rw [Except.ok.inj (hread.symm.trans hread')]

private theorem OperationsIn.exists_read {value : Json} {table : Table Operation}
    (h : OperationsIn (some value) table) :
    ∃ members operations, value = .object members ∧ readOperations members = .ok operations := by
  cases h with
  | object hread => exact ⟨_, _, rfl, hread⟩

/-- What is found in one field of a document. -/
private def Content.Finds (content : Content) : String → Option Json → Prop
  | "endpoint_url", written => Json.DefaultText written content.endpoint
  | "operations", written => OperationsIn written content.operations
  | _, _ => True

private theorem Content.finds_iff {content : Content} {written : String → Option Json} :
    (∀ name, content.Finds name (written name)) ↔
      Json.DefaultText (written "endpoint_url") content.endpoint ∧
        OperationsIn (written "operations") content.operations := by
  constructor
  · intro h
    exact ⟨h "endpoint_url", h "operations"⟩
  · rintro ⟨hendpoint, hoperations⟩ name
    unfold Finds
    split
    · exact hendpoint
    · exact hoperations
    · trivial

private theorem Content.take_cases {content next : Content} {name : String} {value : Json}
    (h : content.take name value = .ok next) :
    (∃ endpoint, name = "endpoint_url" ∧ value = .string endpoint ∧
      next = { content with endpoint }) ∨
    (∃ members operations, name = "operations" ∧ value = .object members ∧
      readOperations members = .ok operations ∧
      next = { content with operations := .ofList operations }) ∨
    ((name ≠ "endpoint_url" ∧ name ≠ "operations") ∧ next = content) := by
  unfold Content.take at h
  split at h
  · split at h
    · rename_i endpoint hread
      exact .inl ⟨endpoint, rfl, Json.expectString_eq_ok_iff.mp hread, (Except.ok.inj h).symm⟩
    · contradiction
  · split at h
    · rename_i members
      split at h
      · rename_i operations hread
        exact .inr (.inl ⟨members, operations, rfl, rfl, hread, (Except.ok.inj h).symm⟩)
      · contradiction
    · contradiction
  · rename_i hendpoint hoperations
    exact .inr (.inr ⟨⟨hendpoint, hoperations⟩, (Except.ok.inj h).symm⟩)

private theorem contentReader : Json.RecordReader Content.take ⟨"", ∅⟩ Content.Finds where
  absent := Content.finds_iff.mpr ⟨.absent, .absent⟩
  self {content name value next} h := by
    obtain ⟨endpoint, rfl, rfl, rfl⟩ | ⟨members, operations, rfl, rfl, hread, rfl⟩ | ⟨hname, rfl⟩ :=
      Content.take_cases h
    · exact .text endpoint
    · exact .object hread
    · obtain ⟨hendpoint, hoperations⟩ := hname
      unfold Content.Finds
      split <;> first | contradiction | trivial
  other {content key value next name written} hkey h := by
    obtain ⟨endpoint, rfl, rfl, rfl⟩ | ⟨members, operations, rfl, rfl, hread, rfl⟩ | ⟨hname, rfl⟩ :=
      Content.take_cases h
    all_goals
      unfold Content.Finds
      split <;> first | contradiction | rfl
  accepts {target name value} content h := by
    unfold Content.take
    split
    · rw [Json.expectString_eq_ok_iff.mpr (Json.defaultText_some_iff.mp h)]
      exact ⟨_, rfl⟩
    · obtain ⟨members, operations, rfl, hread⟩ := OperationsIn.exists_read h
      dsimp only
      rw [hread]
      exact ⟨_, rfl⟩
    · exact ⟨_, rfl⟩
  unique {a b} h := by
    obtain ⟨endpoint, hendpoint, hendpoint'⟩ := h "endpoint_url"
    obtain ⟨operations, hoperations, hoperations'⟩ := h "operations"
    obtain ⟨endpointA, operationsA⟩ := a
    obtain ⟨endpointB, operationsB⟩ := b
    rw [Content.mk.injEq]
    exact ⟨hendpoint.unique hendpoint', hoperations.unique hoperations'⟩

private theorem readContent_eq_ok_iff {document : Json} {content : Content}
    (distinct : document.BindsOnce) :
    Json.readRecord shape ModelMisfit.shape Content.take ⟨"", ∅⟩ document = .ok content ↔
      ∃ entries, shape.written? document = some entries ∧
      Entries.get? entries "endpoint_url" = some (.string content.endpoint) ∧
      OperationsIn (Entries.get? entries "operations") content.operations := by
  rw [contentReader.readRecord_eq_ok_iff (by decide) distinct]
  simp only [Content.finds_iff]
  refine exists_congr fun entries => and_congr_right fun _ => ?_
  constructor
  · rintro ⟨hrequired, hendpoint, hoperations⟩
    obtain ⟨endpoint, hget⟩ := Option.isSome_iff_exists.mp
      (Entries.isSome_get?_iff.mpr (hrequired "endpoint_url" (by decide)))
    rw [hget] at hendpoint ⊢
    exact ⟨congrArg some (Json.defaultText_some_iff.mp hendpoint), hoperations⟩
  · rintro ⟨hget, hoperations⟩
    refine ⟨fun name hname => ?_, hget ▸ .text content.endpoint, hoperations⟩
    obtain rfl : name = "endpoint_url" := by
      simpa [Json.RecordShape.required, shape] using hname
    exact Entries.isSome_get?_iff.mp (hget ▸ rfl)

/-- A model is read from a record with a text for its endpoint; it has no operations if none are
there, and otherwise those that are, each with the name it is declared under. -/
theorem ofJson_eq_ok_iff {document : Json} {model : Model} (distinct : document.BindsOnce) :
    ofJson document = .ok model ↔ ∃ entries operations, shape.written? document = some entries ∧
      Entries.get? entries "endpoint_url" = some (.string model.endpoint) ∧
      OperationsIn (Entries.get? entries "operations") operations ∧
      model = ofContent ⟨model.endpoint, operations⟩ := by
  rw [ofJson]
  constructor
  · intro h
    cases hread : Json.readRecord shape ModelMisfit.shape Content.take ⟨"", ∅⟩ document with
    | error misfit => rw [hread] at h; contradiction
    | ok content =>
      rw [hread] at h
      obtain rfl : ofContent content = model := Except.ok.inj h
      obtain ⟨entries, hwritten, hendpoint, hoperations⟩ :=
        (readContent_eq_ok_iff distinct).mp hread
      exact ⟨entries, content.operations, hwritten, hendpoint, hoperations, rfl⟩
  · rintro ⟨entries, operations, hwritten, hendpoint, hoperations, hmodel⟩
    have hread : Json.readRecord shape ModelMisfit.shape Content.take ⟨"", ∅⟩ document =
        .ok ⟨model.endpoint, operations⟩ :=
      (readContent_eq_ok_iff distinct).mpr ⟨entries, hwritten, hendpoint, hoperations⟩
    rw [hread, hmodel]
    rfl

/-- Operations of distinct names are kept as they are read. -/
theorem OperationsIn.matches {members : List (String × Json)} {operations : Table Operation}
    (distinct : Entries.Distinct members) (h : OperationsIn (some (.object members)) operations) :
    Entries.Matches (fun value operation => Operation.ofJson value = .ok operation)
      members operations.entries := by
  cases h with
  | object hread =>
    have hmatches := readOperations_eq_ok_iff.mp hread
    rw [Entries.Distinct, hmatches.names_eq] at distinct
    rw [Table.entries_ofList distinct]
    exact hmatches

/-! ## Names of operations -/

/-- Every operation bears the name that it is declared under. -/
def Named (model : Model) : Prop :=
  ∀ entry ∈ model.operations.entries, entry.2.name = entry.1

/-- What is declared under a name has this name. -/
theorem Named.name_eq {model : Model} (h : model.Named) {name : String} {operation : Operation}
    (hoperation : model.operation? name = some operation) : operation.name = name :=
  h _ (Entries.mem_of_get? hoperation)

/-- A model without operations has all of them under their names. -/
theorem named_ofEndpoint (endpoint : String) : (ofEndpoint endpoint).Named :=
  fun _ hentry => absurd hentry List.not_mem_nil

/-- An operation that is declared bears the name that it is declared under. -/
theorem Named.withOperation {model : Model} (h : model.Named) (name documentation : String)
    (input output : Schema) : (model.withOperation name documentation input output).Named := by
  intro entry hentry
  rcases Entries.mem_of_mem_set hentry with hold | rfl
  · exact h entry hold
  · rfl

/-- The operations of a document stay in place when they get their names. -/
theorem entries_ofContent (content : Content) : (ofContent content).operations.entries =
    content.operations.entries.map fun entry => (entry.1, entry.2.named entry.1) := by
  refine Table.entries_ofList ?_
  have hdistinct := content.operations.distinct
  rwa [Entries.Distinct, Entries.names, List.map_map]

/-- A model that is made of what was read has every operation under its name. -/
theorem named_ofContent (content : Content) : (ofContent content).Named := by
  rw [Named, entries_ofContent, List.forall_mem_map]
  exact fun entry _ => rfl

/-- Whatever is read from a document is named. -/
theorem named_of_ofJson {document : Json} {model : Model} (h : ofJson document = .ok model) :
    model.Named := by
  unfold ofJson at h
  cases hread : Json.readRecord shape ModelMisfit.shape Content.take ⟨"", ∅⟩ document with
  | error misfit => rw [hread] at h; contradiction
  | ok content =>
    rw [hread] at h
    obtain rfl : ofContent content = model := Except.ok.inj h
    exact named_ofContent content

/-- A model whose operations are named is what comes of its operations without names. -/
theorem Named.ofContent_eq {model : Model} (h : model.Named) {operations : Table Operation}
    (hoperations : operations.entries =
      model.operations.entries.map fun entry => (entry.1, entry.2.named "")) :
    ofContent ⟨model.endpoint, operations⟩ = model := by
  have hentries : (ofContent ⟨model.endpoint, operations⟩).operations.entries =
      model.operations.entries := by
    rw [entries_ofContent, hoperations, List.map_map]
    refine (List.map_congr_left fun entry hentry => ?_).trans (List.map_id _)
    -- the entry gets back the name that it had
    exact Prod.ext rfl (congrArg entry.2.named (h entry hentry).symm)
  obtain ⟨endpoint, table⟩ := model
  exact congrArg (Model.mk endpoint) ((Table.mk.injEq ..).mpr hentries)

/-- A document with an object of operations is read as a model of its endpoint, whose operations are
the members of that object, in order and named by their keys. -/
theorem ofJson_eq_ok_iff_members {document : Json} {model : Model} (distinct : document.BindsOnce)
    {entries members : List (String × Json)} (hdistinct : Entries.Distinct members)
    (hwritten : shape.written? document = some entries)
    (hmembers : Entries.get? entries "operations" = some (.object members)) :
    ofJson document = .ok model ↔
      Entries.get? entries "endpoint_url" = some (.string model.endpoint) ∧ model.Named ∧
      Entries.Matches (fun value operation => Operation.ofJson value = .ok (operation.named ""))
        members model.operations.entries := by
  constructor
  · intro h
    obtain ⟨fields, operations, hfields, hendpoint, hoperations, hmodel⟩ :=
      (ofJson_eq_ok_iff distinct).mp h
    obtain rfl : entries = fields := Option.some.inj (hwritten.symm.trans hfields)
    refine ⟨hendpoint, named_of_ofJson h, ?_⟩
    rw [hmembers] at hoperations
    rw [hmodel, entries_ofContent, Entries.Matches, List.forall₂_map_right_iff]
    refine (hoperations.matches hdistinct).imp ?_
    rintro member entry ⟨hkey, hread⟩
    refine ⟨hkey, hread.trans (congrArg Except.ok ?_)⟩
    exact congrArg entry.2.named (Operation.name_of_ofJson hread)
  · rintro ⟨hendpoint, named, hmatches⟩
    have hread : readOperations members =
        .ok (model.operations.entries.map fun entry => (entry.1, entry.2.named "")) := by
      rw [readOperations_eq_ok_iff, Entries.Matches, List.forall₂_map_right_iff]
      exact hmatches
    have hnames : Entries.Distinct
        (model.operations.entries.map fun entry => (entry.1, entry.2.named "")) := by
      have hdistinct := model.operations.distinct
      rwa [Entries.Distinct, Entries.names, List.map_map]
    refine (ofJson_eq_ok_iff distinct).mpr ⟨entries, _, hwritten, hendpoint,
      hmembers ▸ .object hread, (named.ofContent_eq (Table.entries_ofList hnames)).symm⟩

/-! ## Reading back -/

/-- All operations of the model can be read. -/
def Readable (model : Model) : Prop :=
  ∀ entry ∈ model.operations.entries, entry.2.Readable

/-- The JSON form of a model binds no name twice. -/
theorem distinct_toJson {model : Model} (h : model.Readable) : model.toJson.Distinct := by
  have hoperations := Json.distinct_object_map model.operations.distinct fun entry hentry =>
    Operation.distinct_toJson (h entry hentry)
  simpa [toJson, Json.Distinct, Json.DistinctMembers, Entries.Distinct] using hoperations

/-- A model whose operations are named is read back from its JSON form. -/
theorem ofJson_toJson {model : Model} (h : model.Readable) (named : model.Named) :
    ofJson model.toJson = .ok model := by
  have hdistinct := Json.distinct_object_map model.operations.distinct fun entry hentry =>
    Operation.distinct_toJson (h entry hentry)
  refine (ofJson_eq_ok_iff_members (distinct_toJson h).bindsOnce hdistinct.bindsOnce rfl rfl).mpr
    ⟨rfl, named, ?_⟩
  rw [Entries.Matches, List.forall₂_map_left_iff, List.forall₂_same]
  exact fun entry hentry => ⟨rfl, Operation.ofJson_toJson (h entry hentry)⟩

/-- What is read can be read. -/
theorem readable_of_ofJson {document : Json} {model : Model} (distinct : document.Distinct)
    (h : ofJson document = .ok model) : model.Readable := by
  obtain ⟨entries, operations, hwritten, -, hoperations, hmodel⟩ :=
    (ofJson_eq_ok_iff distinct.bindsOnce).mp h
  cases hget : Entries.get? entries "operations" with
  | none =>
    rw [hget] at hoperations
    cases hoperations
    rw [hmodel]
    exact fun entry hentry => absurd hentry List.not_mem_nil
  | some value =>
    rw [hget] at hoperations
    obtain ⟨members, -, rfl, -⟩ := OperationsIn.exists_read hoperations
    have hdistinct : (Json.object members).Distinct :=
      shape.distinct_of_mem_written? distinct hwritten (Entries.mem_of_get? hget)
    obtain ⟨-, -, hmatches⟩ :=
      (ofJson_eq_ok_iff_members distinct.bindsOnce hdistinct.bindsOnce hwritten hget).mp h
    intro entry hentry
    obtain ⟨value, hvalue, hoperation⟩ := hmatches.exists_left hentry
    have hreadable : (entry.2.named "").Readable :=
      Operation.readable_of_ofJson (hdistinct.of_mem_object hvalue) hoperation
    exact hreadable

end Model

end SchemaCall
