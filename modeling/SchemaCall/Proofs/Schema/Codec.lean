import SchemaCall.Proofs.Entries
import SchemaCall.Proofs.Json.Record
import SchemaCall.Schema.Codec

/-!
# Which values are schemas

A node may be written as an object or as an array. `nodeParts?` takes it apart in either form, and
`ofJson_eq_ok_iff` says what is made of the parts. From this follow the grammar of nodes, which is
what can be read (`exists_ofJson_eq_ok_iff`), and the law that a schema is read back from its JSON
form (`ofJson_toJson`). That law needs a schema that is `Readable`, as all that are read are
(`readable_of_ofJson`).
-/

namespace SchemaCall.Schema

/-! ## The parts of a node -/

/-- The parts of a node as they are written. -/
structure NodeParts where
  tag : Json
  members : Option Json
  documentation : Option Json

/-- The parts of a node: the members of an object with these names, or the items of an array. -/
def nodeParts? : Json → Option NodeParts
  | .object fields => (Entries.get? fields "type").map fun tag =>
    ⟨tag, Entries.get? fields "members", Entries.get? fields "documentation"⟩
  | .array [tag] => some ⟨tag, none, none⟩
  | .array [tag, members] => some ⟨tag, some members, none⟩
  | .array [tag, members, documentation] => some ⟨tag, some members, some documentation⟩
  | _ => none

/-- Documentation may be absent or null, and is a text otherwise. -/
inductive OptionalText : Option Json → Option String → Prop
  | absent : OptionalText none none
  | null : OptionalText (some .null) none
  | text (content : String) : OptionalText (some (.string content)) (some content)

variable {value : Json} {parts : NodeParts} {schema : Schema} {fields : List (String × Json)}
  {members : List (String × Schema)} {documentation : Option String}

/-- The parts are those fields of a node that the record of nodes names. -/
private theorem nodeParts?_eq_some_iff : nodeParts? value = some parts ↔
    ∃ entries, nodeShape.written? value = some entries ∧
      Entries.get? entries "type" = some parts.tag ∧
      Entries.get? entries "members" = parts.members ∧
      Entries.get? entries "documentation" = parts.documentation := by
  obtain ⟨tag, below, text⟩ := parts
  cases value with
  | object fields => simp [nodeParts?, Json.RecordShape.written?, Option.map_eq_some_iff]
  | array items =>
    -- there may be one, two or three items
    rcases items with _ | ⟨first, _ | ⟨second, _ | ⟨third, _ | ⟨fourth, rest⟩⟩⟩⟩
    · simp [nodeParts?, Json.RecordShape.written?, nodeShape]
    · simp [nodeParts?, Json.RecordShape.written?, nodeShape, Entries.get?]
    · simp [nodeParts?, Json.RecordShape.written?, nodeShape, Entries.get?]
    · simp [nodeParts?, Json.RecordShape.written?, nodeShape, Entries.get?]
    · simp [nodeParts?, Json.RecordShape.written?, nodeShape]
  | _ => simp [nodeParts?, Json.RecordShape.written?]

/-! ## The head of a node -/

/-- Read one field into the head of a node. -/
def Head.take (head : Head) (name : String) (value : Json) : Except Json.ShapeError Head :=
  match name with
  | "type" => (Json.expectString value).map fun tag => { head with tag }
  | "documentation" =>
    (Json.expectOptionalString value).map fun documentation => { head with documentation }
  | _ => .ok head

/-- What is found in one field of a node: its tag under `type`, and its documentation. -/
private def Head.Finds (head : Head) : String → Option Json → Prop
  | "type", written => Json.DefaultText written head.tag
  | "documentation", written => OptionalText written head.documentation
  | _, _ => True

private theorem Head.finds_iff {head : Head} {written : String → Option Json} :
    (∀ name, head.Finds name (written name)) ↔
      Json.DefaultText (written "type") head.tag ∧
        OptionalText (written "documentation") head.documentation := by
  constructor
  · intro h
    exact ⟨h "type", h "documentation"⟩
  · rintro ⟨htag, htext⟩ name
    unfold Finds
    split
    · exact htag
    · exact htext
    · trivial

private theorem optionalText_iff_expectOptionalString : OptionalText (some value) documentation ↔
    Json.expectOptionalString value = .ok documentation := by
  constructor
  · rintro (_ | _ | _) <;> rfl
  · intro h
    cases value with
    | null => exact Except.ok.inj h ▸ .null
    | string content => exact Except.ok.inj h ▸ .text content
    | _ => exact nomatch h

private theorem OptionalText.unique {written : Option Json} {other : Option String}
    (h : OptionalText written documentation) (h' : OptionalText written other) :
    documentation = other := by
  cases h <;> cases h' <;> rfl

private theorem map_eq_ok_iff {ε α β : Type} {result : Except ε α} {f : α → β} {found : β} :
    result.map f = .ok found ↔ ∃ inner, result = .ok inner ∧ f inner = found := by
  cases result <;> simp [Except.map]

private theorem Head.take_cases {head next : Head} {name : String}
    (h : head.take name value = .ok next) :
    (∃ tag, name = "type" ∧ value = .string tag ∧ next = { head with tag }) ∨
    (∃ documentation, name = "documentation" ∧ OptionalText (some value) documentation ∧
      next = { head with documentation }) ∨
    (name ≠ "type" ∧ name ≠ "documentation" ∧ next = head) := by
  unfold Head.take at h
  split at h
  · obtain ⟨tag, htag, rfl⟩ := map_eq_ok_iff.mp h
    exact .inl ⟨tag, rfl, Json.expectString_eq_ok_iff.mp htag, rfl⟩
  · obtain ⟨documentation, htext, rfl⟩ := map_eq_ok_iff.mp h
    exact .inr (.inl ⟨documentation, rfl, optionalText_iff_expectOptionalString.mpr htext, rfl⟩)
  · rename_i htag htext
    exact .inr (.inr ⟨htag, htext, (Except.ok.inj h).symm⟩)

private theorem headReader : Json.RecordReader Head.take ⟨"", none⟩ Head.Finds where
  absent := Head.finds_iff.mpr ⟨.absent, .absent⟩
  self {head name value next} h := by
    obtain ⟨tag, rfl, rfl, rfl⟩ | ⟨documentation, rfl, htext, rfl⟩ | ⟨htag, htext, rfl⟩ :=
      Head.take_cases h
    · exact .text tag
    · exact htext
    · simp [Head.Finds]
  other {head key value next name written} hkey h := by
    obtain ⟨tag, rfl, rfl, rfl⟩ | ⟨documentation, rfl, htext, rfl⟩ | ⟨htag, htext, rfl⟩ :=
      Head.take_cases h
    · unfold Head.Finds
      split <;> first | contradiction | rfl
    · unfold Head.Finds
      split <;> first | contradiction | rfl
    · rfl
  accepts {target name value} head h := by
    unfold Head.take
    split
    · exact ⟨_, map_eq_ok_iff.mpr
        ⟨_, Json.expectString_eq_ok_iff.mpr (Json.defaultText_some_iff.mp h), rfl⟩⟩
    · exact ⟨_, map_eq_ok_iff.mpr ⟨_, optionalText_iff_expectOptionalString.mp h, rfl⟩⟩
    · exact ⟨_, rfl⟩
  unique {a b} h := by
    obtain ⟨tag, htag, htag'⟩ := h "type"
    obtain ⟨text, htext, htext'⟩ := h "documentation"
    obtain ⟨tagA, textA⟩ := a
    obtain ⟨tagB, textB⟩ := b
    rw [Head.mk.injEq]
    exact ⟨htag.unique htag', htext.unique htext'⟩

/-- The head of a node is made of its tag and its documentation. -/
theorem readHead_eq_ok_iff (distinct : value.BindsOnce) {head : Head} :
    readHead value = .ok head ↔ ∃ parts, nodeParts? value = some parts ∧
      parts.tag = .string head.tag ∧ OptionalText parts.documentation head.documentation := by
  have hread : readHead value = Json.readRecord nodeShape id Head.take ⟨"", none⟩ value := rfl
  rw [hread, headReader.readRecord_eq_ok_iff (by decide) distinct]
  constructor
  · rintro ⟨entries, hwritten, hrequired, hfinds⟩
    obtain ⟨htag, htext⟩ := Head.finds_iff.mp hfinds
    obtain ⟨tag, hget⟩ := Option.isSome_iff_exists.mp
      (Entries.isSome_get?_iff.mpr (hrequired "type" (by decide)))
    rw [hget] at htag
    exact ⟨⟨tag, _, _⟩, nodeParts?_eq_some_iff.mpr ⟨entries, hwritten, hget, rfl, rfl⟩,
      Json.defaultText_some_iff.mp htag, htext⟩
  · rintro ⟨parts, hparts, htag, htext⟩
    obtain ⟨entries, hwritten, hgetTag, -, hgetText⟩ := nodeParts?_eq_some_iff.mp hparts
    refine ⟨entries, hwritten, ?_, Head.finds_iff.mpr ⟨?_, ?_⟩⟩
    · intro name hname
      obtain rfl : name = "type" := by simpa [Json.RecordShape.required, nodeShape] using hname
      exact Entries.isSome_get?_iff.mp (hgetTag ▸ rfl)
    · rw [hgetTag, htag]
      exact .text head.tag
    · rw [hgetText]
      exact htext

/-! ## The schema of a node -/

/-- The tags of the kinds that are known. -/
def knownTags : List String :=
  ["structure", "list", "string", "integer", "boolean"]

/-- The schema that is made of the parts of a node: a structure without members if there are none or
null, a list if there is an element, and what else has nothing below it. -/
inductive MadeOf : (tag : String) → (members : Option Json) → Option String → Schema → Prop
  | scalar (kind : Scalar) (written : Option Json) (documentation : Option String) :
    MadeOf kind.tag written documentation (.scalar kind documentation)
  | unsupported {tag : String} (written : Option Json) (documentation : Option String)
    (unknown : tag ∉ knownTags) : MadeOf tag written documentation (.unsupported tag documentation)
  | list {value : Json} {element : Schema} (documentation : Option String)
    (read : ofJson value = .ok element) :
    MadeOf "list" (some value) documentation (.list element documentation)
  | bare {written : Option Json} (documentation : Option String)
    (absent : written = none ∨ written = some .null) :
    MadeOf "structure" written documentation (.struct [] documentation)
  | struct {fields : List (String × Json)} {members : List (String × Schema)}
    (documentation : Option String) (read : memberSchemaList fields = .ok members) :
    MadeOf "structure" (some (.object fields)) documentation (.struct members documentation)

/-- A schema that is made of a tag has this tag. -/
theorem MadeOf.tag_eq {tag : String} {written : Option Json}
    (h : MadeOf tag written documentation schema) : schema.tag = tag := by
  cases h <;> rfl

/-- The element of a list node, from what is written under it. -/
def elementSchema (value : Json) : Except NodeError Schema :=
  if value.isNull then .error (.own .missingElement)
  else (ofJson value).mapError (·.under .element)

/-- Make a node of its head and of what is written under it. -/
def build (head : Head) (written : Option Json) : Except NodeError Schema :=
  match head.tag with
  | "structure" => (written.elim (.ok []) memberSchemas).map (.struct · head.documentation)
  | "list" =>
    (written.elim (.error (.own .missingElement)) elementSchema).map (.list · head.documentation)
  | _ => .ok (leaf head)

private theorem membersField_eq (fields : List (String × Json)) :
    membersField fields = (Entries.get? fields "members").elim (.ok []) memberSchemas := by
  induction fields with
  | nil => rw [membersField, Entries.get?_nil, Option.elim_none]
  | cons field rest ih =>
    rw [membersField, Entries.get?_cons]
    split
    · rw [Option.elim_some]
    · exact ih

private theorem elementField_eq (fields : List (String × Json)) :
    elementField fields =
      (Entries.get? fields "members").elim (.error (.own .missingElement)) elementSchema := by
  induction fields with
  | nil => rw [elementField, Entries.get?_nil, Option.elim_none]
  | cons field rest ih =>
    rw [elementField, Entries.get?_cons]
    split
    · rw [Option.elim_some, elementSchema]
    · exact ih

/-- Objects and arrays are read alike, once they are taken apart. -/
theorem ofJson_of_nodeParts? (h : nodeParts? value = some parts) :
    ofJson value = match readHead value with
      | .error error => .error (.own (.shape error))
      | .ok head => build head parts.members := by
  cases value with
  | object fields =>
    obtain ⟨tag, -, rfl⟩ := Option.map_eq_some_iff.mp h
    rw [ofJson, membersField_eq, elementField_eq]
    rfl
  | array items =>
    match items, h with
    | [_], h | [_, _], h | [_, _, _], h =>
      obtain rfl := Option.some.inj h
      rw [ofJson]
      rfl
  | _ => exact nomatch h

private theorem exists_head_of_ofJson_eq_ok (h : ofJson value = .ok schema) :
    ∃ head, readHead value = .ok head := by
  cases hhead : readHead value with
  | ok head => exact ⟨head, rfl⟩
  | error error => cases value <;> simp [ofJson, hhead, Except.mapError, Except.map] at h

private theorem memberSchemas_eq_ok_iff : memberSchemas value = .ok members ↔
    value = .null ∧ members = [] ∨
      ∃ fields, value = .object fields ∧ memberSchemaList fields = .ok members := by
  cases value <;> simp [memberSchemas, eq_comm]

private theorem leaf_madeOf {tag : String} (hstructure : tag ≠ "structure") (hlist : tag ≠ "list")
    (written : Option Json) (documentation : Option String) :
    MadeOf tag written documentation (leaf ⟨tag, documentation⟩) := by
  unfold leaf
  split
  · rename_i h
    obtain rfl : tag = "string" := h
    exact .scalar .string written _
  · rename_i h
    obtain rfl : tag = "integer" := h
    exact .scalar .integer written _
  · rename_i h
    obtain rfl : tag = "boolean" := h
    exact .scalar .boolean written _
  · rename_i hstring hinteger hboolean
    refine .unsupported written _ ?_
    simp only [knownTags, List.mem_cons, List.not_mem_nil, or_false, not_or]
    exact ⟨hstructure, hlist, hstring, hinteger, hboolean⟩

/-- The null value is no node, so that the test for it decides nothing. -/
private theorem elementSchema_eq_ok_iff {element : Schema} :
    elementSchema value = .ok element ↔ ofJson value = .ok element := by
  unfold elementSchema
  cases value with
  | null => simp [Json.isNull, ofJson, readHead, Json.readRecord, Except.mapError, Except.map]
  | _ =>
    rw [if_neg (by simp [Json.isNull])]
    cases ofJson _ <;> simp [Except.mapError]

private theorem build_unknown {tag : String} {written : Option Json} (h : tag ∉ knownTags) :
    build ⟨tag, documentation⟩ written = .ok (.unsupported tag documentation) := by
  simp only [knownTags, List.mem_cons, List.not_mem_nil, or_false, not_or] at h
  obtain ⟨hstructure, hlist, hstring, hinteger, hboolean⟩ := h
  unfold build
  split
  · contradiction
  · contradiction
  · unfold leaf
    split <;> first | contradiction | rfl

private theorem build_eq_ok_iff {head : Head} {written : Option Json} :
    build head written = .ok schema ↔ MadeOf head.tag written head.documentation schema := by
  obtain ⟨tag, documentation⟩ := head
  constructor
  · intro h
    -- each branch of the construction is one rule
    unfold build at h
    split at h
    · rename_i htag
      obtain rfl : tag = "structure" := htag
      obtain ⟨members, hmembers, rfl⟩ := map_eq_ok_iff.mp h
      cases written with
      | none => exact Except.ok.inj hmembers ▸ .bare _ (.inl rfl)
      | some value =>
        obtain ⟨rfl, rfl⟩ | ⟨fields, rfl, hfields⟩ := memberSchemas_eq_ok_iff.mp hmembers
        · exact .bare _ (.inr rfl)
        · exact .struct _ hfields
    · rename_i htag
      obtain rfl : tag = "list" := htag
      obtain ⟨element, helement, rfl⟩ := map_eq_ok_iff.mp h
      cases written with
      | none => exact nomatch helement
      | some value => exact .list _ (elementSchema_eq_ok_iff.mp helement)
    · rename_i hstructure hlist
      exact Except.ok.inj h ▸ leaf_madeOf hstructure hlist written documentation
  · rintro (⟨kind⟩ | ⟨_, _, hunknown⟩ | ⟨_, hread⟩ | ⟨_, rfl | rfl⟩ | ⟨_, hread⟩)
    · cases kind <;> rfl
    · exact build_unknown hunknown
    · exact map_eq_ok_iff.mpr ⟨_, elementSchema_eq_ok_iff.mpr hread, rfl⟩
    · rfl
    · rfl
    · exact map_eq_ok_iff.mpr ⟨_, memberSchemas_eq_ok_iff.mpr (.inr ⟨_, rfl, hread⟩), rfl⟩

/-- A value is read as the schema that is made of its parts. -/
theorem ofJson_eq_ok_iff (distinct : value.BindsOnce) : ofJson value = .ok schema ↔
    ∃ tag members text documentation, nodeParts? value = some ⟨.string tag, members, text⟩ ∧
      OptionalText text documentation ∧ MadeOf tag members documentation schema := by
  constructor
  · intro h
    obtain ⟨head, hhead⟩ := exists_head_of_ofJson_eq_ok h
    obtain ⟨⟨_, members, text⟩, hparts, rfl, htext⟩ := (readHead_eq_ok_iff distinct).mp hhead
    rw [ofJson_of_nodeParts? hparts, hhead] at h
    exact ⟨head.tag, members, text, head.documentation, hparts, htext, build_eq_ok_iff.mp h⟩
  · rintro ⟨tag, members, text, documentation, hparts, htext, hmade⟩
    have hhead : readHead value = .ok ⟨tag, documentation⟩ :=
      (readHead_eq_ok_iff distinct).mpr ⟨_, hparts, rfl, htext⟩
    rw [ofJson_of_nodeParts? hparts, hhead]
    exact build_eq_ok_iff.mpr hmade

/-- The schema of an object has the tag that is written there. -/
theorem tag_eq_of_ofJson {tag : String} (distinct : value.BindsOnce)
    (h : ofJson value = .ok schema) (hget : value.get? "type" = some (.string tag)) :
    schema.tag = tag := by
  obtain ⟨found, members, text, _, hparts, -, hmade⟩ := (ofJson_eq_ok_iff distinct).mp h
  cases value with
  | object fields =>
    obtain ⟨written, hwritten, heq⟩ := Option.map_eq_some_iff.mp hparts
    obtain rfl : written = .string found := congrArg NodeParts.tag heq
    rw [hmade.tag_eq]
    exact Json.string.inj (Option.some.inj (hwritten.symm.trans hget))
  | _ => exact nomatch hget

/-- The members of a structure are read one by one, in order and under their names. -/
theorem memberSchemaList_eq_ok_iff : memberSchemaList fields = .ok members ↔
    Entries.Matches (fun value member => ofJson value = .ok member) fields members := by
  induction fields generalizing members with
  | nil => rw [memberSchemaList, Entries.matches_nil_left, Except.ok.injEq, eq_comm]
  | cons field rest ih =>
    obtain ⟨name, value⟩ := field
    rw [memberSchemaList, Entries.matches_cons_left]
    cases hread : ofJson value with
    | error error => simp
    | ok member =>
      simp only [map_eq_ok_iff, ih]
      constructor
      · rintro ⟨others, hothers, rfl⟩
        exact ⟨member, others, rfl, hothers, rfl⟩
      · rintro ⟨other, others, hother, hothers, rfl⟩
        exact ⟨others, hothers, by rw [Except.ok.inj hother]⟩

/-! ## The grammar of nodes -/

/-- A value is a well-formed node, written as an object or as an array: its tag is a text and its
documentation is absent, null or a text. What is written under a structure is absent, null or an
object of nodes, and under a list a node; under any other tag it is arbitrary. -/
inductive WellFormed : Json → Prop
  | leaf {value : Json} {tag : String} {members text : Option Json} {documentation : Option String}
    (parts : nodeParts? value = some ⟨.string tag, members, text⟩)
    (documented : OptionalText text documentation) (notStructure : tag ≠ "structure")
    (notList : tag ≠ "list") : WellFormed value
  | bare {value : Json} {members text : Option Json} {documentation : Option String}
    (parts : nodeParts? value = some ⟨.string "structure", members, text⟩)
    (documented : OptionalText text documentation)
    (absent : members = none ∨ members = some .null) : WellFormed value
  | struct {value : Json} {fields : List (String × Json)} {text : Option Json}
    {documentation : Option String}
    (parts : nodeParts? value = some ⟨.string "structure", some (.object fields), text⟩)
    (documented : OptionalText text documentation)
    (nodes : ∀ field ∈ fields, WellFormed field.2) : WellFormed value
  | list {value element : Json} {text : Option Json} {documentation : Option String}
    (parts : nodeParts? value = some ⟨.string "list", some element, text⟩)
    (documented : OptionalText text documentation) (node : WellFormed element) : WellFormed value

/-- What is written under a node is a part of its value. -/
theorem distinct_members (distinct : value.Distinct) {tag member : Json}
    {text : Option Json} (h : nodeParts? value = some ⟨tag, some member, text⟩) :
    member.Distinct := by
  cases value with
  | object fields =>
    obtain ⟨_, -, hparts⟩ := Option.map_eq_some_iff.mp h
    have hget : Entries.get? fields "members" = some member := congrArg NodeParts.members hparts
    exact distinct.of_mem_object (Entries.mem_of_get? hget)
  | array items =>
    match items, h with
    | [_, found], h | [_, found, _], h =>
      obtain rfl : found = member :=
        Option.some.inj (congrArg NodeParts.members (Option.some.inj h))
      exact distinct.of_mem_array (by simp)
  | _ => exact nomatch h

/-- Exactly the well-formed nodes are read as schemas. -/
theorem exists_ofJson_eq_ok_iff (distinct : value.Distinct) :
    (∃ schema, ofJson value = .ok schema) ↔ WellFormed value := by
  constructor
  · rintro ⟨schema, h⟩
    -- the schema that was read tells which rule of the grammar applies, at each depth
    induction schema generalizing value with
    | scalar kind documentation =>
      obtain ⟨tag, members, text, _, hparts, htext, hmade⟩ :=
        (ofJson_eq_ok_iff distinct.bindsOnce).mp h
      obtain rfl := hmade.tag_eq
      exact .leaf hparts htext (by cases kind <;> simp [tag, Scalar.tag])
        (by cases kind <;> simp [tag, Scalar.tag])
    | unsupported tag documentation =>
      obtain ⟨tag, members, text, _, hparts, htext, hmade⟩ :=
        (ofJson_eq_ok_iff distinct.bindsOnce).mp h
      cases hmade with
      | unsupported _ _ hunknown =>
        exact .leaf hparts htext (ne_of_mem_of_not_mem (by decide) hunknown).symm
          (ne_of_mem_of_not_mem (by decide) hunknown).symm
    | list element documentation ih =>
      obtain ⟨tag, members, text, _, hparts, htext, hmade⟩ :=
        (ofJson_eq_ok_iff distinct.bindsOnce).mp h
      cases hmade with
      | list _ hread => exact .list hparts htext (ih (distinct_members distinct hparts) hread)
    | struct members documentation ih =>
      obtain ⟨tag, written, text, _, hparts, htext, hmade⟩ :=
        (ofJson_eq_ok_iff distinct.bindsOnce).mp h
      cases hmade with
      | bare _ habsent => exact .bare hparts htext habsent
      | struct _ hread =>
        refine .struct hparts htext fun field hfield => ?_
        obtain ⟨member, hmember, hnode⟩ :=
          (memberSchemaList_eq_ok_iff.mp hread).exists_right hfield
        exact ih _ hmember ((distinct_members distinct hparts).of_mem_object hfield) hnode
  · intro h
    induction h with
    | @leaf value tag members text documentation hparts htext hstructure hlist =>
      exact ⟨leaf ⟨tag, documentation⟩, (ofJson_eq_ok_iff distinct.bindsOnce).mpr
        ⟨tag, members, text, documentation, hparts, htext,
          leaf_madeOf hstructure hlist members documentation⟩⟩
    | @bare value members text documentation hparts htext habsent =>
      exact ⟨.struct [] documentation, (ofJson_eq_ok_iff distinct.bindsOnce).mpr
        ⟨_, members, text, documentation, hparts, htext, .bare _ habsent⟩⟩
    | @struct value fields text documentation hparts htext _ ih =>
      obtain ⟨members, hmembers⟩ :
          ∃ members, Entries.Matches (fun node schema => ofJson node = .ok schema) fields members :=
        Entries.exists_matches_iff.mpr fun field hfield =>
          ih field hfield ((distinct_members distinct hparts).of_mem_object hfield)
      exact ⟨.struct members documentation, (ofJson_eq_ok_iff distinct.bindsOnce).mpr
        ⟨_, _, text, documentation, hparts, htext,
          .struct _ (memberSchemaList_eq_ok_iff.mpr hmembers)⟩⟩
    | @list value element text documentation hparts htext _ ih =>
      obtain ⟨schema, hschema⟩ := ih (distinct_members distinct hparts)
      exact ⟨.list schema documentation, (ofJson_eq_ok_iff distinct.bindsOnce).mpr
        ⟨_, _, text, documentation, hparts, htext, .list _ hschema⟩⟩

/-! ## Writing and reading back -/

/-- A schema that can be read: no node of unknown kind goes under the tag of a known kind, and no
structure declares a member twice. -/
inductive Readable : Schema → Prop
  | scalar (kind : Scalar) (documentation : Option String) : Readable (.scalar kind documentation)
  | list {element : Schema} (documentation : Option String) (below : Readable element) :
    Readable (.list element documentation)
  | struct {members : List (String × Schema)} (documentation : Option String)
    (distinct : Entries.Distinct members) (below : ∀ member ∈ members, Readable member.2) :
    Readable (.struct members documentation)
  | unsupported {tag : String} (documentation : Option String) (unknown : tag ∉ knownTags) :
    Readable (.unsupported tag documentation)

private theorem nodeParts?_nodeJson (tag : String) (members : Option Json)
    (documentation : Option String) : nodeParts? (nodeJson tag members documentation) =
      some ⟨.string tag, members, documentation.map .string⟩ := by
  cases members <;> cases documentation <;> rfl

/-- A written node binds no name twice. -/
theorem bindsOnce_nodeJson (tag : String) (members : Option Json)
    (documentation : Option String) : (nodeJson tag members documentation).BindsOnce := by
  cases members <;> cases documentation <;> simp [nodeJson, Json.BindsOnce, Entries.Distinct]

private theorem ofJson_nodeJson {tag : String} {members : Option Json}
    (h : MadeOf tag members documentation schema) :
    ofJson (nodeJson tag members documentation) = .ok schema := by
  refine (ofJson_eq_ok_iff (bindsOnce_nodeJson ..)).mpr
    ⟨tag, members, _, documentation, nodeParts?_nodeJson .., ?_, h⟩
  cases documentation with
  | none => exact .absent
  | some text => exact .text text

/-- Members are written one by one. -/
theorem membersToJson_eq_map (members : List (String × Schema)) :
    membersToJson members = members.map fun member => (member.1, member.2.toJson) := by
  induction members with
  | nil => rfl
  | cons member rest ih => rw [membersToJson, ih, List.map_cons]

/-- A schema is read back from its JSON form. -/
theorem ofJson_toJson (h : Readable schema) : ofJson schema.toJson = .ok schema := by
  induction h with
  | scalar kind documentation => exact ofJson_nodeJson (.scalar kind none documentation)
  | list documentation _ ih => exact ofJson_nodeJson (.list documentation ih)
  | struct documentation _ _ ih =>
    refine ofJson_nodeJson (.struct documentation (memberSchemaList_eq_ok_iff.mpr ?_))
    rw [membersToJson_eq_map]
    exact Entries.matches_map ih
  | unsupported documentation hunknown =>
    exact ofJson_nodeJson (.unsupported none documentation hunknown)

private theorem distinct_nodeJson {tag : String} {members : Option Json}
    (h : ∀ value, members = some value → value.Distinct) (documentation : Option String) :
    (nodeJson tag members documentation).Distinct := by
  refine ⟨bindsOnce_nodeJson .., ?_⟩
  cases members <;> cases documentation <;> simp_all [Json.DistinctMembers, Json.Distinct]

/-- The JSON form of a schema binds no name twice if no structure declares a member twice. -/
theorem Distinct.toJson (h : schema.Distinct) : schema.toJson.Distinct := by
  induction schema with
  | list element documentation ih =>
    exact distinct_nodeJson (fun _ hvalue => Option.some.inj hvalue ▸ ih h) documentation
  | struct members documentation ih =>
    refine distinct_nodeJson (fun _ hvalue => Option.some.inj hvalue ▸ ?_) documentation
    rw [membersToJson_eq_map]
    exact Json.distinct_object_map h.1 fun member hmember =>
      ih member hmember (distinctMembers_iff.mp h.2 member hmember)
  | _ =>
    refine distinct_nodeJson (fun value hvalue => ?_) _
    exact nomatch hvalue

/-- A schema that can be read declares no member twice. -/
theorem Readable.distinct (h : Readable schema) : schema.Distinct := by
  induction h with
  | scalar kind documentation => trivial
  | list documentation _ ih => exact ih
  | struct documentation hdistinct _ ih => exact ⟨hdistinct, distinctMembers_iff.mpr ih⟩
  | unsupported documentation _ => trivial

/-- What is read can be read. -/
theorem readable_of_ofJson (distinct : value.Distinct) (h : ofJson value = .ok schema) :
    Readable schema := by
  induction schema generalizing value with
  | scalar kind documentation => exact .scalar kind documentation
  | unsupported tag documentation =>
    obtain ⟨tag, members, text, _, -, -, hmade⟩ := (ofJson_eq_ok_iff distinct.bindsOnce).mp h
    cases hmade with
    | unsupported _ _ hunknown => exact .unsupported _ hunknown
  | list element documentation ih =>
    obtain ⟨tag, members, text, _, hparts, -, hmade⟩ := (ofJson_eq_ok_iff distinct.bindsOnce).mp h
    cases hmade with
    | list _ hread => exact .list _ (ih (distinct_members distinct hparts) hread)
  | struct members documentation ih =>
    obtain ⟨tag, written, text, _, hparts, -, hmade⟩ := (ofJson_eq_ok_iff distinct.bindsOnce).mp h
    cases hmade with
    | bare => exact .struct _ Entries.distinct_nil fun _ hmember => nomatch hmember
    | struct _ hread =>
      have hmatches := memberSchemaList_eq_ok_iff.mp hread
      have hfields := distinct_members distinct hparts
      refine .struct _ (hmatches.distinct hfields.1) fun member hmember => ?_
      obtain ⟨node, hfield, hnode⟩ := hmatches.exists_left hmember
      exact ih member hmember (hfields.of_mem_object hfield) hnode

end SchemaCall.Schema
