import SchemaCall.Model.Load
import SchemaCall.Proofs.Model.Codec
import SchemaCall.Proofs.Model.DocumentRules

/-!
# What is loaded

A document that passes the check is always read as a model (`exists_ofJson_of_checkDocument`), so
that loading with validation accepts what the grammar of documents says, a `DocumentGrammar`
(`load_eq_ok_iff_grammar`). Whatever was loaded is loaded again from its JSON form, with the same
warnings (`load_toJson`).
-/

namespace SchemaCall

variable {document : Json} {model : Model}

/-! ## Reading what was checked -/

namespace Operation

variable {value : Json} {operation : Operation}

/-- An operation of the right shape whose input and output are read as schemas is read. -/
theorem exists_ofJson_of_shape (distinct : value.BindsOnce)
    (h : OperationShape (fun node => ∃ schema, Schema.ofJson node = .ok schema) value) :
    ∃ operation, ofJson value = .ok operation := by
  obtain ⟨input, hinput, -, schema, hread⟩ := h.parts .input
  obtain ⟨output, houtput, -, schema', hread'⟩ := h.parts .output
  cases value with
  | object fields =>
    cases htext : Entries.get? fields "documentation" with
    | none =>
      exact ⟨⟨"", "", schema, schema'⟩, (ofJson_eq_ok_iff distinct).mpr
        ⟨rfl, fields, rfl, htext ▸ .absent, ⟨input, hinput, hread⟩, output, houtput, hread'⟩⟩
    | some found =>
      obtain ⟨text, rfl⟩ := h.documentation found htext
      exact ⟨⟨"", text, schema, schema'⟩, (ofJson_eq_ok_iff distinct).mpr
        ⟨rfl, fields, rfl, htext ▸ .text text, ⟨input, hinput, hread⟩, output, houtput, hread'⟩⟩
  | _ => exact nomatch hinput

/-- What an object holds under the name of a part is read as the schema of that part. -/
theorem ofJson_schema (distinct : value.BindsOnce) (h : ofJson value = .ok operation) {part : Part}
    {node : Json} (hnode : value.get? part.name = some node) :
    Schema.ofJson node = .ok (operation.schema part) := by
  obtain ⟨-, entries, hwritten, -, ⟨input, hinput, hread⟩, output, houtput, hread'⟩ :=
    (ofJson_eq_ok_iff distinct).mp h
  cases value with
  | object fields =>
    obtain rfl := Option.some.inj hwritten
    cases part with
    | input => exact Option.some.inj (hinput.symm.trans hnode) ▸ hread
    | output => exact Option.some.inj (houtput.symm.trans hnode) ▸ hread'
  | _ => exact nomatch hnode

end Operation

namespace Model

/-- What a model that is read from an object takes from it. -/
theorem ofJson_object {members : List (String × Json)} (distinct : document.Distinct)
    (hmembers : document.get? "operations" = some (.object members))
    (h : ofJson document = .ok model) :
    document.get? "endpoint_url" = some (.string model.endpoint) ∧
      Entries.Matches (fun value operation => Operation.ofJson value = .ok (operation.named ""))
        members model.operations.entries := by
  cases document with
  | object fields =>
    obtain ⟨hendpoint, -, hmatches⟩ := (ofJson_eq_ok_iff_members distinct.bindsOnce
      (distinct.of_get? hmembers).bindsOnce rfl hmembers).mp h
    exact ⟨hendpoint, hmatches⟩
  | _ => exact nomatch hmembers

/-- What passes the check and is read as a model has the endpoint and the operations that the
document names. -/
theorem ofJson_of_checkDocument (distinct : document.Distinct)
    (hcheck : checkDocument document = .ok ()) (hread : ofJson document = .ok model) :
    document.get? "endpoint_url" = some (.string model.endpoint) ∧
      Entries.names (documentOperations document) = model.operationNames := by
  obtain ⟨-, members, hget, -⟩ := checkDocument_eq_ok_iff.mp hcheck
  obtain ⟨hendpoint, hmatches⟩ := ofJson_object distinct hget hread
  exact ⟨hendpoint, (documentOperations_eq hget).symm ▸ hmatches.names_eq⟩

/-- A document that passes the check is read as a model. -/
theorem exists_ofJson_of_checkDocument (distinct : document.Distinct)
    (h : checkDocument document = .ok ()) : ∃ model, ofJson document = .ok model := by
  obtain ⟨⟨endpoint, hendpoint, -⟩, members, hget, hshape⟩ := checkDocument_eq_ok_iff.mp h
  have hmembers : (Json.object members).Distinct := distinct.of_get? hget
  cases document with
  | object fields =>
    obtain ⟨operations, hoperations⟩ :
        ∃ operations, Entries.Matches
          (fun value operation => Operation.ofJson value = .ok operation) members operations :=
      Entries.exists_matches_iff.mpr fun member hmember =>
        Operation.exists_ofJson_of_shape (hmembers.of_mem_object hmember).bindsOnce
          (hshape member hmember)
    have hread : OperationsIn (Entries.get? fields "operations") (.ofList operations) := by
      rw [show Entries.get? fields "operations" = some (.object members) from hget]
      exact .object (readOperations_eq_ok_iff.mpr hoperations)
    exact ⟨ofContent ⟨endpoint, .ofList operations⟩,
      (ofJson_eq_ok_iff distinct.bindsOnce).mpr ⟨fields, _, rfl, hendpoint, hread, rfl⟩⟩
  | _ => exact nomatch hget

/-! ## The grammar of documents -/

/-- The characters of Unicode's property `White_Space`. -/
def whiteSpace : List Char :=
  ['\t', '\n', '\x0B', '\x0C', '\r', ' ', '\u0085', '\u00A0', '\u1680', '\u2000', '\u2001',
    '\u2002', '\u2003', '\u2004', '\u2005', '\u2006', '\u2007', '\u2008', '\u2009', '\u200A',
    '\u2028', '\u2029', '\u202F', '\u205F', '\u3000']

/-- A character counts as blank if it is one of these. -/
theorem isBlank_iff_mem_whiteSpace {c : Char} : Text.isBlank c ↔ c ∈ whiteSpace := by
  have hcodes : whiteSpace.map Char.toNat =
      [0x9, 0xA, 0xB, 0xC, 0xD, 0x20, 0x85, 0xA0, 0x1680, 0x2000, 0x2001, 0x2002, 0x2003, 0x2004,
        0x2005, 0x2006, 0x2007, 0x2008, 0x2009, 0x200A, 0x2028, 0x2029, 0x202F, 0x205F, 0x3000] :=
    rfl
  rw [← List.mem_map_of_injective (f := Char.toNat) fun _ _ => Char.toNat_inj.mp, hcodes]
  simp only [Text.isBlank, Bool.or_eq_true, Bool.and_eq_true, decide_eq_true_eq, beq_iff_eq,
    List.mem_cons, List.not_mem_nil, or_false]
  omega

/-- A name is not blank if it has a character that is no white space; the empty name has none. -/
theorem isBlankText_eq_false_iff {name : String} :
    Text.isBlankText name = false ↔ ∃ c ∈ name.toList, c ∉ whiteSpace := by
  rw [Text.isBlankText, List.all_eq_false]
  simp only [isBlank_iff_mem_whiteSpace]

/-- The grammar of model documents: a document of the right shape whose inputs and outputs are
well-formed nodes, whose endpoint is a URL that relative addresses can be resolved against, and
whose operations all have names that are more than white space. -/
structure DocumentGrammar (document : Json) : Prop extends
    DocumentShape Schema.WellFormed document where
  url : ∀ endpoint, document.get? "endpoint_url" = some (.string endpoint) →
    ∃ uri, Uri.read endpoint = .ok uri ∧ uri.isBase
  named : ∀ name ∈ Entries.names (documentOperations document),
    ∃ c ∈ name.toList, c ∉ whiteSpace

/-- A document passes the check if it has the right shape and its inputs and outputs are well-formed
nodes. -/
theorem checkDocument_eq_ok_iff_wellFormed (distinct : document.Distinct) :
    checkDocument document = .ok () ↔ DocumentShape Schema.WellFormed document := by
  have hnode : ∀ member ∈ documentOperations document, ∀ (part : Part) (node : Json),
      member.2.get? part.name = some node → node.Distinct :=
    fun member hmember part node hget =>
      (distinct_of_mem_documentOperations distinct hmember).of_get? hget
  rw [checkDocument_eq_ok_iff]
  constructor
  · intro h
    exact h.imp fun member hmember part node hget =>
      (Schema.exists_ofJson_eq_ok_iff (hnode member hmember part node hget)).mp
  · intro h
    exact h.imp fun member hmember part node hget =>
      (Schema.exists_ofJson_eq_ok_iff (hnode member hmember part node hget)).mpr

/-- An endpoint passes if it is a URL that relative addresses can be resolved against. -/
theorem checkEndpoint_eq_ok_iff {endpoint : String} :
    checkEndpoint endpoint = .ok () ↔ ∃ uri, Uri.read endpoint = .ok uri ∧ uri.isBase := by
  unfold checkEndpoint
  cases Uri.read endpoint with
  | error error => simp
  | ok uri => cases h : uri.isBase <;> simp [h]

/-- All operations are inspected if all of them have names. -/
theorem inspectOperations_eq_ok_iff {operations : List (String × Operation)} :
    (inspectOperations operations).2 = .ok () ↔
      ∀ name ∈ Entries.names operations, ∃ c ∈ name.toList, c ∉ whiteSpace := by
  induction operations with
  | nil => simp [inspectOperations]
  | cons entry rest ih =>
    obtain ⟨name, operation⟩ := entry
    rw [inspectOperations, Entries.names_cons, List.forall_mem_cons, ← ih,
      ← isBlankText_eq_false_iff]
    cases Text.isBlankText name <;> simp

/-- A model passes the inspection if its endpoint is a URL and its operations have names. -/
theorem inspect_eq_ok_iff : model.inspect.2 = .ok () ↔
    (∃ uri, Uri.read model.endpoint = .ok uri ∧ uri.isBase) ∧
      ∀ name ∈ model.operationNames, ∃ c ∈ name.toList, c ∉ whiteSpace := by
  rw [← checkEndpoint_eq_ok_iff, operationNames, Table.names, ← inspectOperations_eq_ok_iff,
    inspect]
  cases checkEndpoint model.endpoint <;> simp

/-! ## Loading -/

/-- The loader reads a document as the decoder does, and differs in the errors only. -/
theorem readDocument_eq_ok_iff :
    readDocument document = .ok model ↔ ofJson document = .ok model := by
  unfold readDocument
  cases ofJson document <;> simp

/-- Inspecting a model gives this model, if nothing is wrong with it. -/
theorem inspected_outcome_eq_ok_iff {loaded : Model} :
    model.inspected.outcome = .ok loaded ↔ model.inspect.2 = .ok () ∧ model = loaded := by
  unfold inspected
  rcases model.inspect with ⟨warnings, _ | _⟩ <;> simp

/-- A document that passes the check and is read as a model is loaded by inspecting that model. -/
theorem load_true_eq_inspected (hcheck : checkDocument document = .ok ())
    (hread : ofJson document = .ok model) : load true document = model.inspected := by
  rw [load, if_pos rfl, hcheck, readDocument_eq_ok_iff.mpr hread]

/-- Loading with checks is checking the document, decoding it and inspecting the model. -/
theorem load_true_outcome_eq_ok_iff : (load true document).outcome = .ok model ↔
    checkDocument document = .ok () ∧ ofJson document = .ok model ∧ model.inspect.2 = .ok () := by
  rw [load, if_pos rfl]
  cases hcheck : checkDocument document with
  | error error => simp [Loading.failed]
  | ok =>
    cases hread : ofJson document with
    | error misfit => simp [readDocument, hread, Loading.failed]
    | ok found =>
      simp only [readDocument_eq_ok_iff.mpr hread, inspected_outcome_eq_ok_iff, true_and,
        Except.ok.injEq]
      constructor
      · rintro ⟨hinspect, rfl⟩
        exact ⟨rfl, hinspect⟩
      · rintro ⟨rfl, hinspect⟩
        exact ⟨hinspect, rfl⟩

/-- Loading without checks is decoding. -/
theorem load_false_outcome_eq_ok_iff :
    (load false document).outcome = .ok model ↔ ofJson document = .ok model :=
  readDocument_eq_ok_iff

/-- What is loaded was read, with validation or without. -/
theorem ofJson_of_load {validate : Bool}
    (h : (load validate document).outcome = .ok model) : ofJson document = .ok model := by
  cases validate with
  | false => exact load_false_outcome_eq_ok_iff.mp h
  | true => exact (load_true_outcome_eq_ok_iff.mp h).2.1

/-- Loading with validation succeeds on exactly the documents of the grammar. The check that comes
first decides all of it but for the endpoint and the names of operations: a document that passes is
read as a model, with the endpoint and the operations that it names, so that only the inspection of
this model can still fail. -/
theorem load_eq_ok_iff_grammar (distinct : document.Distinct) :
    ((∃ model, (load true document).outcome = .ok model) ↔ DocumentGrammar document) ∧
    (checkDocument document = .ok () ↔ DocumentShape Schema.WellFormed document) ∧
    (checkDocument document = .ok () → ∃ model, readDocument document = .ok model ∧
      document.get? "endpoint_url" = some (.string model.endpoint) ∧
      Entries.names (documentOperations document) = model.operationNames ∧
      load true document = model.inspected) := by
  refine ⟨⟨?_, ?_⟩, checkDocument_eq_ok_iff_wellFormed distinct, ?_⟩
  -- what was loaded has passed the check, the reading and the inspection
  · rintro ⟨model, h⟩
    obtain ⟨hcheck, hread, hinspect⟩ := load_true_outcome_eq_ok_iff.mp h
    obtain ⟨hendpoint, hnames⟩ := ofJson_of_checkDocument distinct hcheck hread
    obtain ⟨hurl, hnamed⟩ := inspect_eq_ok_iff.mp hinspect
    refine ⟨(checkDocument_eq_ok_iff_wellFormed distinct).mp hcheck, fun endpoint hget => ?_,
      hnames ▸ hnamed⟩
    obtain rfl : model.endpoint = endpoint :=
      Json.string.inj (Option.some.inj (hendpoint.symm.trans hget))
    exact hurl
  · intro hgrammar
    -- reading cannot fail behind the check, so the inspection is what is left
    have hcheck := (checkDocument_eq_ok_iff_wellFormed distinct).mpr hgrammar.toDocumentShape
    obtain ⟨model, hread⟩ := exists_ofJson_of_checkDocument distinct hcheck
    obtain ⟨hendpoint, hnames⟩ := ofJson_of_checkDocument distinct hcheck hread
    have hinspect : model.inspect.2 = .ok () :=
      inspect_eq_ok_iff.mpr ⟨hgrammar.url _ hendpoint, hnames ▸ hgrammar.named⟩
    exact ⟨model, load_true_outcome_eq_ok_iff.mpr ⟨hcheck, hread, hinspect⟩⟩
  · intro hcheck
    obtain ⟨model, hread⟩ := exists_ofJson_of_checkDocument distinct hcheck
    obtain ⟨hendpoint, hnames⟩ := ofJson_of_checkDocument distinct hcheck hread
    exact ⟨model, readDocument_eq_ok_iff.mpr hread, hendpoint, hnames,
      load_true_eq_inspected hcheck hread⟩

/-- A model with one operation, which has a node of unknown kind in its output. -/
def catalogue : Model :=
  (ofEndpoint "http://localhost:4000").withOperation "list" "" (.struct [] none) (.list (.struct
    [("title", .scalar .string (some "As printed.")), ("price", .unsupported "decimal" none)]
    none) none)

/-- A document of this model, with members that are ignored and nodes of either form. -/
def catalogueDocument : Json :=
  .object [("title", .string "Catalogue"), ("endpoint_url", .string "http://localhost:4000"),
    ("operations", .object [("list",
      .object [("input", .object [("members", .null), ("type", .string "structure")]),
        ("output", .object [("type", .string "list"), ("members",
          .object [("type", .string "structure"), ("members", .object
            [("title", .array [.string "string", .bool true, .string "As printed."]),
              ("price", .object [("type", .string "decimal"),
                ("documentation", .null)])])])])])])]

/-- The same in arrays, which are read but do not pass the check. -/
def catalogueArray : Json :=
  .array [.string "http://localhost:4000", .object [("list", .array [.string "",
    .array [.string "structure"], .array [.string "list", .array [.string "structure", .object
      [("title", .array [.string "string", .null, .string "As printed."]),
        ("price", .array [.string "decimal"])]]]])]]

/-- No object of the catalogue binds a name twice. -/
theorem catalogueDocument_distinct : catalogueDocument.Distinct := by
  simp [catalogueDocument, Json.Distinct, Json.DistinctMembers, Json.DistinctItems,
    Entries.Distinct]

private theorem catalogueArray_distinct : catalogueArray.Distinct := by
  simp [catalogueArray, Json.Distinct, Json.DistinctMembers, Json.DistinctItems, Entries.Distinct]

/-- The catalogue is loaded. -/
theorem load_catalogueDocument :
    (load true catalogueDocument).outcome = .ok catalogue := by
  decide +kernel

/-- The document of the catalogue is in the grammar, and the one in arrays is not. -/
theorem load_eq_ok_iff_grammar_catalogue : catalogueDocument.Distinct ∧
    DocumentGrammar catalogueDocument ∧ ¬ DocumentGrammar catalogueArray := by
  refine ⟨catalogueDocument_distinct, ?_, ?_⟩
  · exact (load_eq_ok_iff_grammar catalogueDocument_distinct).1.mp ⟨_, load_catalogueDocument⟩
  · intro hgrammar
    obtain ⟨model, hmodel⟩ := (load_eq_ok_iff_grammar catalogueArray_distinct).1.mpr hgrammar
    exact nomatch hmodel

/-! ## Ways of loading -/

end Model

/-- The loading is that of a document, a text, a file or what a URL serves, with or without
validation. -/
inductive Loading.Made (validate : Bool) : Loading → Prop where
  | document (document : Json) : Made validate (Model.load validate document)
  | text (format : ModelFormat) (text : String) :
      Made validate (Model.loadText validate format text)
  | file (files : Directory) (path : String) : Made validate (Model.loadFile validate files path)
  | url (fetch : Uri → Except ModelError Json) (url : String) :
      Made validate (Model.loadUrl validate fetch url)

namespace Model

variable {validate : Bool} {loading : Loading}

/-- The loading gives the model as that of some document, and has the warnings of that document. -/
def LoadedFrom (validate : Bool) (loading : Loading) (model : Model) (document : Json) : Prop :=
  (load validate document).outcome = .ok model ∧
    (load validate document).warnings ⊆ loading.warnings

private theorem exists_loadedFrom_text {format : ModelFormat} {text : String}
    (h : (loadText validate format text).outcome = .ok model) :
    ∃ document, LoadedFrom validate (loadText validate format text) model document := by
  rw [loadText] at h ⊢
  cases hread : readText format text with
  | error error => rw [hread] at h; exact nomatch h
  | ok document =>
    rw [hread] at h
    exact ⟨document, h, List.Subset.refl _⟩

private theorem exists_loadedFrom_orElse {first second : Loading}
    (hfirst : first.outcome = .ok model → ∃ document, LoadedFrom validate first model document)
    (hsecond : second.outcome = .ok model → ∃ document, LoadedFrom validate second model document)
    (h : (first.orElse second).outcome = .ok model) :
    ∃ document, LoadedFrom validate (first.orElse second) model document := by
  rw [Loading.orElse] at h ⊢
  cases houtcome : first.outcome with
  | ok found =>
    rw [houtcome] at h
    exact hfirst h
  | error error =>
    rw [houtcome] at h
    obtain ⟨document, hload, hwarnings⟩ := hsecond h
    exact ⟨document, hload, fun warning hwarning =>
      List.mem_append_right first.warnings (hwarnings hwarning)⟩

/-- Every model that is loaded is that of a document, with its warnings. -/
theorem exists_loadedFrom (made : loading.Made validate) (h : loading.outcome = .ok model) :
    ∃ document, LoadedFrom validate loading model document := by
  cases made with
  | document document => exact ⟨document, h, List.Subset.refl _⟩
  | text format text => exact exists_loadedFrom_text h
  | file files path =>
    rw [loadFile] at h ⊢
    cases hread : readFile files path with
    | error error => rw [hread] at h; exact nomatch h
    | ok text =>
      rw [hread] at h
      cases hformat : ModelFormat.ofPath? path with
      | some format =>
        rw [hformat] at h
        exact exists_loadedFrom_text h
      | none =>
        -- the text is tried in both formats, and the one that gives the model has its warnings
        rw [hformat] at h
        exact exists_loadedFrom_orElse exists_loadedFrom_text exists_loadedFrom_text h
  | url fetch url =>
    rw [loadUrl] at h ⊢
    cases htarget : Http.target url with
    | error refusal => rw [htarget] at h; exact nomatch h
    | ok uri =>
      rw [htarget] at h
      dsimp only at h ⊢
      cases hfetch : fetch uri with
      | error error => rw [hfetch] at h; exact nomatch h
      | ok document =>
        rw [hfetch] at h
        exact ⟨document, h, List.Subset.refl _⟩

/-- A model that can come about: by loading, in whatever way, or by declaring operations one after
the other. -/
inductive Obtained : Model → Prop where
  | loaded {validate : Bool} {loading : Loading} {model : Model} (made : loading.Made validate)
    (h : loading.outcome = .ok model) : Obtained model
  | endpoint (endpoint : String) : Obtained (.ofEndpoint endpoint)
  | declared {model : Model} (before : Obtained model) (name documentation : String)
    (input output : Schema) : Obtained (model.withOperation name documentation input output)

/-- However a model came about, its operations bear the names that they are declared under: loading
fills the names in from the keys, and a declaration uses one name for both. -/
theorem Obtained.named (h : model.Obtained) : model.Named := by
  induction h with
  | loaded made houtcome =>
    obtain ⟨document, hload, -⟩ := exists_loadedFrom made houtcome
    exact named_of_ofJson (ofJson_of_load hload)
  | endpoint endpoint => exact named_ofEndpoint endpoint
  | declared _ name documentation input output ih =>
    exact ih.withOperation name documentation input output

/-! ## Loading again -/

/-- A node that is written with a tag, and with an object or nothing under it, can be an input or
output. -/
private theorem rootShape_nodeJson {tag : String} {members : Option Json}
    {documentation : Option String} (htag : tag ≠ "")
    (hmembers : ∀ value, members = some value → ∃ fields, value = .object fields) :
    RootShape (Schema.nodeJson tag members documentation) where
  tag := ⟨tag, rfl, htag⟩
  documentation value hvalue := by
    cases documentation with
    | none => cases members <;> exact nomatch hvalue
    | some text => cases members <;> exact ⟨text, (Option.some.inj hvalue).symm⟩
  members value hvalue := by
    cases members with
    | none => cases documentation <;> exact nomatch hvalue
    | some found =>
      obtain ⟨fields, rfl⟩ := hmembers found rfl
      exact .inr ⟨fields, (Option.some.inj hvalue).symm⟩

private theorem exists_fields_toJson (schema : Schema) :
    ∃ fields, schema.toJson = .object fields := by
  cases schema <;> exact ⟨_, rfl⟩

private theorem rootShape_toJson {schema : Schema} (h : schema.tag ≠ "") :
    RootShape schema.toJson := by
  cases schema with
  | scalar kind documentation => exact rootShape_nodeJson h nofun
  | unsupported tag documentation => exact rootShape_nodeJson h nofun
  | list element documentation =>
    refine rootShape_nodeJson h fun value hvalue => ?_
    obtain rfl := Option.some.inj hvalue
    exact exists_fields_toJson element
  | struct members documentation =>
    exact rootShape_nodeJson h fun value hvalue => ⟨_, (Option.some.inj hvalue).symm⟩

/-- The JSON form of a model passes the check if its schemas have tags and are read back. -/
private theorem checkDocument_toJson (readable : model.Readable)
    (endpoint : model.endpoint ≠ "")
    (tags : ∀ entry ∈ model.operations.entries, ∀ part, (entry.2.schema part).tag ≠ "") :
    checkDocument model.toJson = .ok () := by
  refine checkDocument_eq_ok_iff.mpr ⟨⟨model.endpoint, rfl, endpoint⟩, _, rfl, ?_⟩
  rw [List.forall_mem_map]
  intro entry hentry
  obtain ⟨hinput, houtput⟩ := readable entry hentry
  refine ⟨fun found hfound => ⟨_, (Option.some.inj hfound).symm⟩, fun part => ?_⟩
  refine ⟨(entry.2.schema part).toJson, by cases part <;> rfl,
    rootShape_toJson (tags entry hentry part), entry.2.schema part, ?_⟩
  cases part with
  | input => exact Schema.ofJson_toJson hinput
  | output => exact Schema.ofJson_toJson houtput

private theorem endpoint_ne_empty_of_checkDocument (distinct : document.Distinct)
    (hcheck : checkDocument document = .ok ()) (hread : ofJson document = .ok model) :
    model.endpoint ≠ "" := by
  obtain ⟨⟨endpoint, hget, hne⟩, -⟩ := checkDocument_eq_ok_iff.mp hcheck
  have hendpoint := (ofJson_of_checkDocument distinct hcheck hread).1
  rwa [← Json.string.inj (Option.some.inj (hget.symm.trans hendpoint))]

/-- The schemas of a model that is read from a document without breach have tags. -/
private theorem tag_ne_empty_of_checkDocument (distinct : document.Distinct)
    (hcheck : checkDocument document = .ok ()) (hread : ofJson document = .ok model) :
    ∀ entry ∈ model.operations.entries, ∀ part, (entry.2.schema part).tag ≠ "" := by
  obtain ⟨-, members, hget, hshape⟩ := checkDocument_eq_ok_iff.mp hcheck
  have hmembers := distinct.of_get? hget
  intro entry hentry part
  obtain ⟨value, hvalue, hoperation⟩ := (ofJson_object distinct hget hread).2.exists_left hentry
  have hdistinct := hmembers.of_mem_object hvalue
  obtain ⟨node, hnode, ⟨⟨tag, htag, hne⟩, -, -⟩, -⟩ := (hshape _ hvalue).parts part
  have hschema := Operation.ofJson_schema hdistinct.bindsOnce hoperation hnode
  rw [Operation.schema_named] at hschema
  rw [Schema.tag_eq_of_ofJson (hdistinct.of_get? hnode).bindsOnce hschema htag]
  exact hne

/-- What was loaded is loaded again from its JSON form, with the same warnings, whether it is
validated or not: the model is the same in all of its parts, the order of operations and members
included. Every operation of it bears the name that it is declared under, although the JSON form has
no names of operations but the keys. The JSON form of a loaded model is a normal form, in which no
name is bound twice and which loading and writing leave as it is. -/
theorem load_toJson {validate : Bool} (distinct : document.Distinct)
    (h : (load validate document).outcome = .ok model) :
    load validate model.toJson = ⟨(load validate document).warnings, .ok model⟩ ∧
      (∀ entry ∈ model.operations.entries, entry.2.name = entry.1) ∧
      model.toJson.Distinct ∧
      ∀ again, (load validate model.toJson).outcome = .ok again → again.toJson = model.toJson := by
  have hread := ofJson_of_load h
  have hreadable := readable_of_ofJson distinct hread
  have hnamed := named_of_ofJson hread
  have hloading : load validate model.toJson = ⟨(load validate document).warnings, .ok model⟩ := by
    cases validate with
    | false =>
      simp only [load, Bool.false_eq_true, if_false,
        readDocument_eq_ok_iff.mpr (ofJson_toJson hreadable hnamed)]
    | true =>
      obtain ⟨hcheck, -⟩ := load_true_outcome_eq_ok_iff.mp h
      -- the inspection sees the same model both times, hence the same warnings
      have hagain := checkDocument_toJson hreadable
        (endpoint_ne_empty_of_checkDocument distinct hcheck hread)
        (tag_ne_empty_of_checkDocument distinct hcheck hread)
      rw [load_true_eq_inspected hcheck hread] at h ⊢
      rw [load_true_eq_inspected hagain (ofJson_toJson hreadable hnamed)]
      exact congrArg (Loading.mk _) h
  refine ⟨hloading, hnamed, distinct_toJson hreadable, fun again hagain => ?_⟩
  rw [hloading] at hagain
  rw [Except.ok.inj hagain]

/-- Either document of the catalogue is loaded as a model that is loaded again. -/
theorem load_toJson_catalogue :
    load true catalogue.toJson =
      ⟨[.unsupportedKind "list" .output "$[].price" "decimal"], .ok catalogue⟩ ∧
    load false catalogue.toJson = ⟨[], .ok catalogue⟩ := by
  have hwarnings : (load true catalogueDocument).warnings =
      [.unsupportedKind "list" .output "$[].price" "decimal"] := by
    decide +kernel
  have harray : (load false catalogueArray).outcome = .ok catalogue := by decide +kernel
  rw [← hwarnings]
  exact ⟨(load_toJson catalogueDocument_distinct load_catalogueDocument).1,
    (load_toJson catalogueArray_distinct harray).1⟩

end Model

end SchemaCall
