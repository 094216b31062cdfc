import SchemaCall.Proofs.Schema.Codec
import SchemaCall.Proofs.Schema.Position

/-!
# The first bad node

A value that is to be read as a schema is a tree of nodes, whether or not all of them can be read:
`Schema.nodeValues` lists the value of each node with its position, a node before what is below it.
What is wrong with a node itself (`Schema.ownComplaint?`) depends on this node alone. Reading fails
with the complaint of the first bad node of the list, at its position (`refusal?_eq_firstBad?`,
`ofJson_eq_error_iff`).
-/

namespace SchemaCall

/-- To search lists put together is to search them one after the other. -/
theorem findSome?_flatMap {α β γ : Type} (f : α → List β) (p : β → Option γ)
    (entries : List α) :
    (entries.flatMap f).findSome? p = entries.findSome? fun entry => (f entry).findSome? p := by
  induction entries with
  | nil => rfl
  | cons entry rest ih =>
    rw [List.flatMap_cons, List.findSome?_append, List.findSome?_cons, ih]
    cases (f entry).findSome? p <;> rfl

namespace Schema

variable {value node : Json}

/-! ## What is wrong with a node itself -/

/-- What is wrong with the value of a field: a tag has to be a text, and documentation a text or
null. -/
def fieldComplaint? (name : String) (value : Json) : Option Json.ShapeError :=
  match name with
  | "type" =>
    match value with
    | .string _ => none
    | value => some (.wrongType value "a string")
  | "documentation" =>
    match value with
    | .null | .string _ => none
    | value => some (.wrongType value "a string")
  | _ => none

/-- What is wrong with the shape of a node: the first field whose value is wrong, or else a missing
tag, or a number of items that no node has. -/
def shapeComplaint? : Json → Option Json.ShapeError
  | .object fields =>
    (fields.findSome? fun field => fieldComplaint? field.1 field.2).or
      (if "type" ∈ Entries.names fields then none else some (.missingField "type"))
  | .array items =>
    ((["type", "members", "documentation"].zip items).findSome? fun field =>
      fieldComplaint? field.1 field.2).or
      (if items = [] then some (.tooShort 0 nodeShape.expectedLength)
      else if 3 < items.length then some (.tooLong items.length)
      else none)
  | value => some (.wrongType value nodeShape.expected)

/-- What is wrong with what is written under a node: under a structure there may be nothing, null or
an object, and under a list there has to be something other than null. -/
def contentsComplaint? : NodeParts → Option NodeComplaint
  | ⟨.string "structure", some members, _⟩ =>
    match members with
    | .null | .object _ => none
    | value => some (.membersNotObject value.kindName)
  | ⟨.string "list", members, _⟩ =>
    match members with
    | none | some .null => some .missingElement
    | some _ => none
  | _ => none

/-- What is wrong with a node itself, whatever is below it. -/
def ownComplaint? (value : Json) : Option NodeComplaint :=
  match shapeComplaint? value with
  | some error => some (.shape error)
  | none => (nodeParts? value).bind contentsComplaint?

private theorem Head.take_eq_error_iff (head : Head) (name : String) (value : Json)
    (error : Json.ShapeError) :
    head.take name value = .error error ↔ fieldComplaint? name value = some error := by
  unfold Head.take fieldComplaint?
  split
  · cases value <;> simp [Json.expectString, Except.map]
  · cases value <;> simp [Json.expectOptionalString, Json.expectString, Except.map]
  · simp

/-- Only the tag is missed in an array that is too short. -/
private theorem find?_missing_eq (items : List Json) :
    (nodeShape.fields.zipIdx.drop items.length).find? (fun field => field.1.2) =
      if items = [] then some (("type", true), 0) else none := by
  cases items with
  | nil => rfl
  | cons item rest =>
    rw [if_neg (List.cons_ne_nil item rest), List.find?_eq_none, List.length_cons]
    intro field hfield
    have hlater : field ∈ [(("members", false), 1), (("documentation", false), 2)] :=
      List.mem_of_mem_drop hfield
    rcases List.mem_pair.mp hlater with rfl | rfl <;> exact Bool.false_ne_true

/-- The head of a node cannot be read if and only if the shape of the node is wrong. -/
theorem readHead_eq_error_iff {error : Json.ShapeError} :
    readHead value = .error error ↔ shapeComplaint? value = some error := by
  have hwalk (entries : List (String × Json)) (error : Json.ShapeError) :
      Json.walk Head.take entries ⟨"", none⟩ = .error error ↔
        entries.findSome? (fun entry => fieldComplaint? entry.1 entry.2) = some error :=
    Json.walk_eq_error_iff Head.take_eq_error_iff
  cases value with
  | object fields =>
    refine Json.bind_eq_error_iff (hwalk fields) fun head error => ?_
    by_cases hname : "type" ∈ Entries.names fields <;>
      simp [Json.RecordShape.required, nodeShape, hname]
  | array items =>
    have hzip : (nodeShape.fields.zip items).foldlM (fun head pair => head.take pair.1.1 pair.2)
        (⟨"", none⟩ : Head) =
          Json.walk Head.take (["type", "members", "documentation"].zip items) ⟨"", none⟩ := by
      have hnames : ["type", "members", "documentation"] = nodeShape.fields.map (·.1) := rfl
      rw [Json.walk, hnames, List.zip_map_left, List.foldlM_map]
      rfl
    refine Json.bind_eq_error_iff (fun error => ?_) fun head error => ?_
    · rw [← hwalk, ← hzip]
      rfl
    · rw [find?_missing_eq]
      by_cases hempty : items = []
      · simp [hempty]
      · by_cases hlong : 3 < items.length <;> simp [hempty, hlong, nodeShape]
  | _ => simp [readHead, Json.readRecord, shapeComplaint?]

/-! ## Nodes that are to be read -/

/-- The values one step below a node that are to be nodes: under a structure the members in document
order, and under a list its element. There are none below any other node. -/
def nodesUnder : NodeParts → List (Step × Json)
  | ⟨.string "structure", some (.object fields), _⟩ =>
    fields.map fun field => (.member field.1, field.2)
  | ⟨.string "list", some element, _⟩ => [(.element, element)]
  | _ => []

/-- The values one step below a value that is to be a node. -/
def nodesBelow (value : Json) : List (Step × Json) :=
  (nodeParts? value).elim [] nodesUnder

/-- What stands below a node is written under it. -/
private theorem exists_members_of_mem_nodesBelow {step : Step}
    (h : (step, node) ∈ nodesBelow value) :
    ∃ tag members text, nodeParts? value = some ⟨tag, some members, text⟩ ∧
      (members = node ∨ ∃ fields name, members = .object fields ∧ (name, node) ∈ fields) := by
  unfold nodesBelow at h
  cases hparts : nodeParts? value with
  | none => rw [hparts] at h; exact nomatch h
  | some parts =>
    rw [hparts, Option.elim_some] at h
    unfold nodesUnder at h
    split at h
    · obtain ⟨field, hfield, heq⟩ := List.mem_map.mp h
      obtain ⟨-, rfl⟩ := Prod.mk.inj heq
      exact ⟨_, _, _, rfl, .inr ⟨_, field.1, rfl, hfield⟩⟩
    · obtain ⟨-, rfl⟩ := Prod.mk.inj (List.mem_singleton.mp h)
      exact ⟨_, _, _, rfl, .inl rfl⟩
    · exact nomatch h

/-- What is written under a node is smaller than the node. -/
private theorem sizeOf_members_lt {tag members : Json} {text : Option Json}
    (h : nodeParts? value = some ⟨tag, some members, text⟩) : sizeOf members < sizeOf value := by
  cases value with
  | object fields =>
    obtain ⟨_, -, hparts⟩ := Option.map_eq_some_iff.mp h
    have hget : Entries.get? fields "members" = some members := congrArg NodeParts.members hparts
    have hfield := List.sizeOf_lt_of_mem (Entries.mem_of_get? hget)
    simp only [Prod.mk.sizeOf_spec, Json.object.sizeOf_spec] at hfield ⊢
    omega
  | array items =>
    match items, h with
    | [_, found], h | [_, found, _], h =>
      obtain rfl : found = members :=
        Option.some.inj (congrArg NodeParts.members (Option.some.inj h))
      simp only [Json.array.sizeOf_spec, List.cons.sizeOf_spec]
      omega
  | _ => exact nomatch h

private theorem sizeOf_lt_of_mem_nodesBelow {step : Step} (h : (step, node) ∈ nodesBelow value) :
    sizeOf node < sizeOf value := by
  obtain ⟨tag, members, text, hparts, rfl | ⟨fields, name, rfl, hfield⟩⟩ :=
    exists_members_of_mem_nodesBelow h
  · exact sizeOf_members_lt hparts
  · have hmembers := sizeOf_members_lt hparts
    have hnode := List.sizeOf_lt_of_mem hfield
    simp only [Prod.mk.sizeOf_spec, Json.object.sizeOf_spec] at hmembers hnode
    omega

/-- The values that are to be nodes, each with its position: a value before what is below it. -/
def nodeValues (value : Json) : List (Position × Json) :=
  ([], value) :: (nodesBelow value).attach.flatMap fun below =>
    (nodeValues below.1.2).map fun entry => (below.1.1 :: entry.1, entry.2)
termination_by sizeOf value
decreasing_by exact sizeOf_lt_of_mem_nodesBelow below.2

/-- The nodes of a value are its root and the nodes of what stands directly below, in order. -/
theorem nodeValues_eq (value : Json) :
    nodeValues value = ([], value) :: (nodesBelow value).flatMap fun below =>
      (nodeValues below.2).map fun entry => (below.1 :: entry.1, entry.2) := by
  rw [nodeValues]
  simp only [List.flatMap_subtype, List.unattach_attach]

/-! ## The first bad node -/

/-- The complaint of the first bad node among the nodes of a value, with the way to it. -/
def firstBad? (value : Json) : Option NodeError :=
  (nodeValues value).findSome? fun entry => (ownComplaint? entry.2).map (.mk entry.1)

/-- A node is bad itself, or else the first bad node is the first one below it. -/
theorem firstBad?_eq (value : Json) :
    firstBad? value = ((ownComplaint? value).map .own).or
      ((nodesBelow value).findSome? fun below =>
        (firstBad? below.2).map (·.under below.1)) := by
  have hbelow (step : Step) (node : Json) :
      ((nodeValues node).map fun entry => (step :: entry.1, entry.2)).findSome?
        (fun entry => (ownComplaint? entry.2).map (.mk entry.1)) =
          (firstBad? node).map (·.under step) := by
    rw [List.findSome?_map, firstBad?, List.map_findSome?]
    congr 1
    funext entry
    rw [Function.comp_apply, Function.comp_apply, Option.map_map]
    rfl
  rw [firstBad?, nodeValues_eq, List.findSome?_cons, findSome?_flatMap]
  simp only [hbelow]
  cases ownComplaint? value <;> rfl

/-- Why a value is not read as a schema, if it is not. -/
def refusal? (value : Json) : Option NodeError :=
  match ofJson value with
  | .error error => some error
  | .ok _ => none

/-- A refusal is the error with which reading ends. -/
theorem refusal?_eq_some_iff {error : NodeError} :
    refusal? value = some error ↔ ofJson value = .error error := by
  unfold refusal?
  cases ofJson value <;> simp

/-- What is not refused is read. -/
theorem refusal?_eq_none_iff :
    refusal? value = none ↔ ∃ schema, ofJson value = .ok schema := by
  unfold refusal?
  cases ofJson value <;> simp

private theorem memberSchemaList_refusal {fields : List (String × Json)} {error : NodeError} :
    memberSchemaList fields = .error error ↔
      fields.findSome? (fun field => (refusal? field.2).map (·.under (.member field.1))) =
        some error := by
  induction fields with
  | nil => exact ⟨(nomatch ·), (nomatch ·)⟩
  | cons field rest ih =>
    obtain ⟨name, value⟩ := field
    rw [memberSchemaList, List.findSome?_cons, refusal?]
    cases ofJson value with
    | error found => simp
    | ok member =>
      dsimp only [Option.map_none]
      rw [← ih]
      cases memberSchemaList rest <;> simp [Except.map]

/-- A node whose shape is right fails for what is written under it, or else for the first node
below it that cannot be read. -/
private theorem build_eq_error_iff (tag : String) (documentation : Option String)
    (members text : Option Json) (error : NodeError) :
    build ⟨tag, documentation⟩ members = .error error ↔
      ((contentsComplaint? ⟨.string tag, members, text⟩).map .own).or
        ((nodesUnder ⟨.string tag, members, text⟩).findSome? fun below =>
          (refusal? below.2).map (·.under below.1)) = some error := by
  unfold build
  split
  · rename_i htag
    obtain rfl : tag = "structure" := htag
    cases members with
    | none => simp [contentsComplaint?, nodesUnder, Except.map]
    | some value =>
      cases value with
      | object fields =>
        have hmembers := @memberSchemaList_refusal fields error
        simp only [contentsComplaint?, nodesUnder, Option.elim_some, memberSchemas,
          Option.map_none, Option.none_or, List.findSome?_map, Function.comp_def]
        rw [← hmembers]
        cases memberSchemaList fields <;> simp [Except.map]
      | _ => simp [contentsComplaint?, nodesUnder, memberSchemas, Except.map]
  · rename_i htag
    obtain rfl : tag = "list" := htag
    cases members with
    | none => simp [contentsComplaint?, nodesUnder, Except.map]
    | some value =>
      -- null counts as no element at all, so that it is the list that is refused
      by_cases hnull : value = .null
      · subst hnull
        simp [contentsComplaint?, elementSchema, Json.isNull, Except.map]
      · have hcontents : contentsComplaint? ⟨.string "list", some value, text⟩ = none := by
          cases value <;> first | rfl | contradiction
        have helement : elementSchema value = (ofJson value).mapError (·.under .element) := by
          cases value <;> first | rfl | contradiction
        simp only [hcontents, nodesUnder, Option.elim_some, helement, Option.map_none,
          Option.none_or, List.findSome?_singleton, refusal?]
        cases ofJson value <;> simp [Except.mapError, Except.map]
  · rename_i hstructure hlist
    have hcontents : contentsComplaint? ⟨.string tag, members, text⟩ = none := by
      unfold contentsComplaint?
      split <;> simp_all
    have hunder : nodesUnder ⟨.string tag, members, text⟩ = [] := by
      unfold nodesUnder
      split <;> simp_all
    simp [hcontents, hunder]

/-- Reading a value fails for the node itself, or else for the first node below it that cannot be
read. -/
theorem refusal?_eq (distinct : value.BindsOnce) :
    refusal? value = ((ownComplaint? value).map .own).or
      ((nodesBelow value).findSome? fun below =>
        (refusal? below.2).map (·.under below.1)) := by
  apply Option.ext
  intro error
  rw [refusal?_eq_some_iff]
  cases hhead : readHead value with
  | error found =>
    have hread : ofJson value = .error (.own (.shape found)) := by
      cases value <;> simp [ofJson, hhead, Except.mapError, Except.map]
    rw [hread, ownComplaint?, readHead_eq_error_iff.mp hhead]
    simp
  | ok head =>
    have hshape : shapeComplaint? value = none :=
      Json.eq_none_of_eq_ok (fun _ => readHead_eq_error_iff) hhead
    obtain ⟨⟨tag, members, text⟩, hparts, htag, -⟩ := (readHead_eq_ok_iff distinct).mp hhead
    obtain rfl : tag = .string head.tag := htag
    rw [ofJson_of_nodeParts? hparts, hhead, ownComplaint?, hshape, nodesBelow, hparts]
    exact build_eq_error_iff head.tag head.documentation members text error

/-- No object in a node below binds a name twice, if none in the node itself does. -/
theorem distinct_of_mem_nodesBelow (distinct : value.Distinct) {step : Step}
    (h : (step, node) ∈ nodesBelow value) : node.Distinct := by
  obtain ⟨tag, members, text, hparts, rfl | ⟨fields, name, rfl, hfield⟩⟩ :=
    exists_members_of_mem_nodesBelow h
  · exact distinct_members distinct hparts
  · exact (distinct_members distinct hparts).of_mem_object hfield

/-- Reading fails with the complaint of the first bad node. -/
theorem refusal?_eq_firstBad? (distinct : value.Distinct) : refusal? value = firstBad? value := by
  -- both sides ask the node itself and then the nodes below it, which are the hypotheses
  induction value using nodeValues.induct with
  | case1 value ih =>
    have hbelow : ∀ below ∈ nodesBelow value, refusal? below.2 = firstBad? below.2 :=
      fun below hbelow => ih ⟨below, hbelow⟩ (distinct_of_mem_nodesBelow distinct hbelow)
    rw [refusal?_eq distinct.bindsOnce, firstBad?_eq]
    congr 1
    rw [← List.head?_filterMap, ← List.head?_filterMap]
    exact congrArg List.head? (List.filterMap_congr fun below h => by rw [hbelow below h])

/-- A node is the first bad one of a value that is to be read as a schema: it is bad itself, and
every node that comes before it is not. -/
def FirstBad (value : Json) (position : Position) (complaint : NodeComplaint) : Prop :=
  ∃ before node after, nodeValues value = before ++ (position, node) :: after ∧
    (∀ earlier ∈ before, ownComplaint? earlier.2 = none) ∧ ownComplaint? node = some complaint

/-- The search finds the first bad node, with its position and what is wrong with it. -/
theorem firstBad?_eq_some_iff {error : NodeError} :
    firstBad? value = some error ↔ FirstBad value error.steps error.complaint := by
  obtain ⟨position, complaint⟩ := error
  rw [firstBad?, List.findSome?_eq_some_iff]
  simp only [Option.map_eq_some_iff, Option.map_eq_none_iff, NodeError.mk.injEq]
  constructor
  · rintro ⟨before, entry, after, hnodes, ⟨_, hown, rfl, rfl⟩, hbefore⟩
    exact ⟨before, entry.2, after, hnodes, hbefore, hown⟩
  · rintro ⟨before, node, after, hnodes, hbefore, hown⟩
    exact ⟨before, (position, node), after, hnodes, ⟨complaint, hown, rfl, rfl⟩, hbefore⟩

/-- A value is not read if and only if it has a bad node, and the error tells of the first one. -/
theorem ofJson_eq_error_iff (distinct : value.Distinct) {error : NodeError} :
    ofJson value = .error error ↔ FirstBad value error.steps error.complaint := by
  rw [← refusal?_eq_some_iff, refusal?_eq_firstBad? distinct, firstBad?_eq_some_iff]

/-! ## The wording of an error -/

/-- A step, as it stands in front of a complaint. -/
def Step.message : Step → String
  | .member name => "member '" ++ name ++ "': "
  | .element => "list element: "

/-- To tell an error one step above is to put the step in front of it. -/
theorem NodeError.message_under (error : NodeError) (step : Step) :
    (error.under step).message = step.message ++ error.message := by
  have hwrap : (error.under step).message = step.wrap error.message := rfl
  rw [hwrap]
  cases step <;> rfl

/-- The wording of an error is the complaint behind the steps to the bad node, outermost first. -/
theorem NodeError.message_eq (error : NodeError) :
    error.message = String.join (error.steps.map Step.message) ++ error.complaint.message := by
  obtain ⟨steps, complaint⟩ := error
  induction steps with
  | nil => exact String.empty_append.symm
  | cons step rest ih =>
    have hunder :
        (⟨step :: rest, complaint⟩ : NodeError) = NodeError.under ⟨rest, complaint⟩ step := rfl
    rw [hunder, message_under, ih, under, List.map_cons, String.join_cons, String.append_assoc]

end Schema

end SchemaCall
