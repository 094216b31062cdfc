import SchemaCall.Call.Arguments
import SchemaCall.Proofs.Schema.Conformance
import SchemaCall.Proofs.Schema.Location

/-!
# All violations and the first one

What is wrong at a location depends on the location alone: on the value that stands there and on the
node that describes it, or on the structure around it that does not declare it
(`Schema.complaint?`). The violations of a value are the complaints about its locations, in the
order of the locations (`violations_eq_complaints`), and checking stops at the first of them
(`check_eq_outcome_violations`). Every violation tells the truth about its location
(`located_of_mem_violations`).
-/

namespace SchemaCall

/-- The outcome of a check that comes across these violations: the first one ends it. -/
def Violation.outcome : List Violation → Except Violation Unit
  | [] => .ok ()
  | violation :: _ => .error violation

/-- The outcome of violations in two parts is decided by the first part that has any. -/
theorem Violation.outcome_append (front behind : List Violation) :
    outcome (front ++ behind) =
      match outcome front with
      | .ok () => outcome behind
      | .error violation => .error violation := by
  cases front <;> rfl

/-- A scalar kind accepts the values whose kind has its name. -/
theorem Scalar.accepts_iff {kind : Scalar} {value : Json} :
    kind.accepts value = true ↔ value.kindName = kind.tag := by
  cases value with
  | number n => cases hn : n.isInteger <;> cases kind <;> simp [accepts, Json.kindName, tag, hn]
  | _ => cases kind <;> simp [accepts, Json.kindName, tag]

/-- Arrays are the lists. -/
theorem Json.kindName_eq_list_iff (value : Json) :
    value.kindName = "list" ↔ ∃ items, value = .array items := by
  cases value with
  | number n => cases hn : n.isInteger <;> simp [kindName, hn]
  | _ => simp [kindName]

/-- Objects are the structures. -/
theorem Json.kindName_eq_structure_iff (value : Json) :
    value.kindName = "structure" ↔ ∃ fields, value = .object fields := by
  cases value with
  | number n => cases hn : n.isInteger <;> simp [kindName, hn]
  | _ => simp [kindName]

namespace Schema

/-! ## The first violation -/

private theorem checkItems_eq_outcome {element : Schema} {items : List Json}
    (ih : ∀ item ∈ items, ∀ path,
      check element item path = Violation.outcome (violations element item path))
    (index : ℕ) (path : String) :
    checkItems element items index path =
      Violation.outcome (itemViolations element items index path) := by
  induction items generalizing index with
  | nil => rfl
  | cons item rest ihrest =>
    rw [itemViolations, Violation.outcome_append, ← ih item (by simp),
      ← ihrest fun x hx => ih x (List.mem_cons_of_mem _ hx)]
    rfl

private theorem checkFields_eq_outcome {members : List (String × Schema)}
    {fields : List (String × Json)}
    (ih : ∀ field ∈ fields, ∀ schema path,
      check schema field.2 path = Violation.outcome (violations schema field.2 path))
    (path : String) :
    checkFields members fields path =
      Violation.outcome (fieldViolations members fields path) := by
  induction fields with
  | nil => rfl
  | cons field rest ihrest =>
    obtain ⟨name, value⟩ := field
    rw [fieldViolations, Violation.outcome_append,
      ← ihrest fun x hx => ih x (List.mem_cons_of_mem _ hx), checkFields]
    cases Entries.get? members name with
    | none => rfl
    | some member =>
      have hmember := ih (name, value) (by simp) member (memberPath path name)
      dsimp only at hmember ⊢
      cases hfirst : Violation.outcome (violations member value (memberPath path name)) <;>
        rw [hmember, hfirst]

private theorem check_scalar_eq_outcome (kind : Scalar) (documentation : Option String)
    (value : Json) (path : String) :
    check (.scalar kind documentation) value path =
      Violation.outcome (violations (.scalar kind documentation) value path) := by
  rw [check, violations]
  split <;> rfl

/-- Checking stops at the first violation, and succeeds if there is none. -/
theorem check_eq_outcome_violations (schema : Schema) (value : Json) (path : String) :
    check schema value path = Violation.outcome (violations schema value path) := by
  induction value generalizing schema path with
  | array items ih =>
    cases schema with
    | scalar kind documentation => exact check_scalar_eq_outcome ..
    | list element documentation =>
      exact checkItems_eq_outcome (fun item hitem path => ih item hitem element path) 0 path
    | _ => rfl
  | object fields ih =>
    cases schema with
    | scalar kind documentation => exact check_scalar_eq_outcome ..
    | struct members documentation => exact checkFields_eq_outcome ih path
    | _ => rfl
  | _ =>
    cases schema with
    | scalar kind documentation => exact check_scalar_eq_outcome ..
    | _ => rfl

/-- What the check reports is one of the violations. -/
theorem mem_violations_of_check_eq_error {schema : Schema} {value : Json} {path : String}
    {violation : Violation} (h : check schema value path = .error violation) :
    violation ∈ violations schema value path := by
  rw [check_eq_outcome_violations] at h
  cases hviolations : violations schema value path with
  | nil => rw [hviolations] at h; exact nomatch h
  | cons first rest =>
    rw [hviolations] at h
    rw [Except.error.inj h]
    exact List.mem_cons_self

/-! ## What is wrong at a location -/

/-- What is wrong with a value at `path` under a node, whatever is inside the value. -/
def mismatch? : Schema → Json → (path : String) → Option Violation
  | .struct .., .object _, _ => none
  | .list .., .array _, _ => none
  | .scalar kind _, value, path =>
    if value.kindName = kind.tag then none else some (.mismatch path value kind.tag)
  | .unsupported tag _, _, path => some (.unsupportedKind tag path)
  | schema, value, path => some (.mismatch path value schema.tag)

/-- A value mismatches a node of unknown kind, and any other node whose kind is not its own. -/
theorem mismatch?_eq_some_iff {node : Schema} {value : Json} {path : String}
    {violation : Violation} :
    node.mismatch? value path = some violation ↔
      (∃ tag documentation, node = .unsupported tag documentation ∧
        violation = .unsupportedKind tag path) ∨
      (∀ tag documentation, node ≠ .unsupported tag documentation) ∧
        value.kindName ≠ node.tag ∧ violation = .mismatch path value node.tag := by
  cases node with
  | scalar kind documentation =>
    by_cases hkind : value.kindName = kind.tag <;> simp [mismatch?, tag, hkind, eq_comm]
  | list element documentation =>
    have hkind := Json.kindName_eq_list_iff value
    cases value <;> simp_all [mismatch?, tag, eq_comm]
  | struct members documentation =>
    have hkind := Json.kindName_eq_structure_iff value
    cases value <;> simp_all [mismatch?, tag, eq_comm]
  | unsupported tag documentation => simp [mismatch?, eq_comm]

/-- The complaint about a member that the structure around it does not declare. -/
def undeclared? (schema : Schema) (start : String) (location : Json.Location) : Option Violation :=
  match location.getLast?, schema.atLocation? location.dropLast with
  | some (.member name), some (.struct ..) =>
    some (.unknownParameter name (Json.Location.path start location.dropLast))
  | _, _ => none

/-- What is wrong at a location inside a value that stands at `start`. What is inside an undeclared
member, or inside a value that its node does not describe, is not looked at. -/
def complaint? (schema : Schema) (start : String) (location : Json.Location) (found : Json) :
    Option Violation :=
  match schema.atLocation? location with
  | some node => node.mismatch? found (location.path start)
  | none => schema.undeclared? start location

/-- At the root it is the value itself that may not be of the kind. -/
theorem complaint?_nil (schema : Schema) (start : String) (found : Json) :
    schema.complaint? start [] found = schema.mismatch? found start := by
  simp [complaint?, atLocation?]

/-- Below a node that is declared, its own complaints count. -/
theorem complaint?_cons {schema child : Schema} {step : Json.Step}
    (h : schema.child? step = some child) (start : String) (location : Json.Location)
    (found : Json) :
    schema.complaint? start (step :: location) found =
      child.complaint? (start ++ step.text) location found := by
  have hat (rest : Json.Location) : schema.atLocation? (step :: rest) = child.atLocation? rest := by
    rw [atLocation?, h, Option.bind_some]
  unfold complaint? undeclared?
  cases location with
  | nil => rw [hat, Json.Location.path_cons]; rfl
  | cons next rest =>
    simp only [hat, Json.Location.path_cons, List.dropLast_cons_cons, List.getLast?_cons_cons]

/-- Below what is not declared, there is nothing but the complaint that it is not. -/
theorem complaint?_cons_of_child?_eq_none {schema : Schema} {step : Json.Step}
    (h : schema.child? step = none) (start : String) (location : Json.Location) (found : Json) :
    schema.complaint? start (step :: location) found =
      if location = [] then schema.undeclared? start [step] else none := by
  have hat (rest : Json.Location) : schema.atLocation? (step :: rest) = none := by
    rw [atLocation?, h, Option.bind_none]
  rw [complaint?, hat]
  cases location with
  | nil => rfl
  | cons next rest => simp [undeclared?, hat]

/-! ## All violations -/

/-- The complaints about the given locations. -/
def complaints (schema : Schema) (start : String) (locations : List (Json.Location × Json)) :
    List Violation :=
  locations.filterMap fun entry => schema.complaint? start entry.1 entry.2

/-- Two lists of locations have their complaints one after the other. -/
theorem complaints_append (schema : Schema) (start : String)
    (front behind : List (Json.Location × Json)) :
    schema.complaints start (front ++ behind) =
      schema.complaints start front ++ schema.complaints start behind :=
  List.filterMap_append

/-- The complaint about the root comes before all others. -/
theorem complaints_root_cons (schema : Schema) (start : String) (value : Json)
    (rest : List (Json.Location × Json)) :
    schema.complaints start (([], value) :: rest) =
      (schema.mismatch? value start).toList ++ schema.complaints start rest := by
  rw [complaints, List.filterMap_cons, complaint?_nil]
  cases schema.mismatch? value start <;> rfl

/-- The complaints about locations one step below, seen from there. -/
theorem complaints_below {schema child : Schema} {step : Json.Step}
    (h : schema.child? step = some child) (start : String)
    (locations : List (Json.Location × Json)) :
    schema.complaints start (locations.map fun entry => (step :: entry.1, entry.2)) =
      child.complaints (start ++ step.text) locations := by
  simp only [complaints, List.filterMap_map, Function.comp_def, complaint?_cons h]

/-- There is at most one complaint about what stands below a step that is not declared. -/
theorem complaints_below_of_child?_eq_none {schema : Schema} {step : Json.Step}
    (h : schema.child? step = none) (start : String) (value : Json) :
    schema.complaints start (value.locations.map fun entry => (step :: entry.1, entry.2)) =
      (schema.undeclared? start [step]).toList := by
  obtain ⟨rest, hlocations, hrest⟩ := value.locations_eq_cons
  rw [complaints, List.filterMap_map, hlocations, List.filterMap_cons]
  have hnone : rest.filterMap ((fun entry => schema.complaint? start entry.1 entry.2) ∘
      fun entry => (step :: entry.1, entry.2)) = [] := by
    refine List.filterMap_eq_nil_iff.mpr fun entry hentry => ?_
    rw [Function.comp_apply, complaint?_cons_of_child?_eq_none h, if_neg (hrest entry hentry)]
  rw [hnone, Function.comp_apply, complaint?_cons_of_child?_eq_none h, if_pos rfl]
  cases schema.undeclared? start [step] <;> rfl

private theorem complaints_memberLocations_eq_nil {schema : Schema} {start : String}
    (hchild : ∀ name, schema.child? (.member name) = none)
    (hundeclared : ∀ name, schema.undeclared? start [.member name] = none)
    (fields : List (String × Json)) :
    schema.complaints start (Json.memberLocations fields) = [] := by
  induction fields with
  | nil => rfl
  | cons field rest ih =>
    obtain ⟨name, value⟩ := field
    rw [Json.memberLocations, complaints_append, ih,
      complaints_below_of_child?_eq_none (hchild name), hundeclared]
    rfl

private theorem complaints_itemLocations_eq_nil {schema : Schema} {start : String}
    (hchild : ∀ index, schema.child? (.item index) = none) (items : List Json) (index : ℕ) :
    schema.complaints start (Json.itemLocations items index) = [] := by
  induction items generalizing index with
  | nil => rfl
  | cons item rest ih =>
    rw [Json.itemLocations, complaints_append, ih,
      complaints_below_of_child?_eq_none (hchild index)]
    rfl

private theorem itemViolations_eq_complaints {element : Schema} {items : List Json}
    (ih : ∀ item ∈ items, ∀ path,
      violations element item path = element.complaints path item.locations)
    (documentation : Option String) (index : ℕ) (path : String) :
    itemViolations element items index path =
      (list element documentation).complaints path (Json.itemLocations items index) := by
  induction items generalizing index with
  | nil => rfl
  | cons item rest ihrest =>
    have hchild : (list element documentation).child? (.item index) = some element := rfl
    rw [itemViolations, Json.itemLocations, complaints_append, complaints_below hchild,
      Json.Step.append_text_item, ih item (by simp),
      ihrest fun x hx => ih x (List.mem_cons_of_mem _ hx)]

private theorem fieldViolations_eq_complaints {members : List (String × Schema)}
    {fields : List (String × Json)}
    (ih : ∀ field ∈ fields, ∀ (schema : Schema) (path : String),
      violations schema field.2 path = schema.complaints path field.2.locations)
    (documentation : Option String) (path : String) :
    fieldViolations members fields path =
      (struct members documentation).complaints path (Json.memberLocations fields) := by
  induction fields with
  | nil => rfl
  | cons field rest ihrest =>
    obtain ⟨name, value⟩ := field
    have hrest := ihrest fun x hx => ih x (List.mem_cons_of_mem _ hx)
    have hchild : (struct members documentation).child? (.member name) =
        Entries.get? members name := rfl
    rw [fieldViolations, Json.memberLocations, complaints_append, hrest]
    -- an undeclared field is one complaint, and nothing is said of what is inside
    cases hmember : Entries.get? members name with
    | none =>
      rw [complaints_below_of_child?_eq_none (hchild.trans hmember)]
      simp [undeclared?, atLocation?]
    | some member =>
      rw [complaints_below (hchild.trans hmember), Json.Step.append_text_member,
        ← ih (name, value) (by simp)]

/-- A value that its node does not describe has one violation at most. -/
private theorem violations_scalar (kind : Scalar) (documentation : Option String) (value : Json)
    (path : String) :
    violations (.scalar kind documentation) value path =
      ((scalar kind documentation).mismatch? value path).toList := by
  rw [violations, mismatch?]
  by_cases haccepts : kind.accepts value = true
  · rw [if_pos haccepts, if_pos (Scalar.accepts_iff.mp haccepts)]
    rfl
  · rw [if_neg haccepts, if_neg (haccepts ∘ Scalar.accepts_iff.mpr)]
    rfl

/-- The violations are the complaints about all locations, in the order of the locations. -/
theorem violations_eq_complaints (schema : Schema) (value : Json) (path : String) :
    violations schema value path = schema.complaints path value.locations := by
  induction value generalizing schema path with
  | array items ih =>
    rw [Json.locations, complaints_root_cons]
    cases schema with
    | list element documentation =>
      -- only a list looks into an array
      exact itemViolations_eq_complaints (fun item hitem path => ih item hitem element path)
        documentation 0 path
    | scalar kind documentation =>
      rw [complaints_itemLocations_eq_nil fun _ => rfl, List.append_nil, violations_scalar]
    | _ => rw [complaints_itemLocations_eq_nil fun _ => rfl]; rfl
  | object fields ih =>
    rw [Json.locations, complaints_root_cons]
    cases schema with
    | struct members documentation =>
      -- and only a structure into an object
      exact fieldViolations_eq_complaints ih documentation path
    | scalar kind documentation =>
      rw [complaints_memberLocations_eq_nil (fun _ => rfl) (fun _ => rfl), List.append_nil,
        violations_scalar]
    | _ => rw [complaints_memberLocations_eq_nil (fun _ => rfl) (fun _ => rfl)]; rfl
  | _ =>
    rw [Json.locations, complaints_root_cons]
    · cases schema with
      | scalar kind documentation => rw [violations_scalar]; exact (List.append_nil _).symm
      | _ => rfl
    all_goals
      intro members h
      contradiction

end Schema

/-! ## Where violations are -/

/-- The violation is about a location that the value has, and about the node that describes it. A
mismatch carries what stands there, the kind of what stands there, and the kind that the node
expects, which is another one. An undeclared member belongs to the object that stands there. -/
inductive Violation.Located (schema : Schema) (value : Json) (start : String) :
    Violation → Prop where
  | typeMismatch {location : Json.Location} {found : Json} {node : Schema}
      (stands : (location, found) ∈ value.locations)
      (described : schema.atLocation? location = some node)
      (differ : found.kindName ≠ node.tag) :
      Located schema value start
        (.typeMismatch (location.path start) found found.kindName node.tag)
  | unknownParameter {location : Json.Location} {fields : List (String × Json)}
      {members : List (String × Schema)} {documentation : Option String} {name : String}
      (stands : (location, .object fields) ∈ value.locations)
      (described : schema.atLocation? location = some (.struct members documentation))
      (present : name ∈ Entries.names fields) (undeclared : name ∉ Entries.names members) :
      Located schema value start (.unknownParameter name (location.path start))
  | unsupportedKind {location : Json.Location} {found : Json} {tag : String}
      {documentation : Option String} (stands : (location, found) ∈ value.locations)
      (described : schema.atLocation? location = some (.unsupported tag documentation)) :
      Located schema value start (.unsupportedKind tag (location.path start))

namespace Schema

private theorem located_of_mismatch? {schema node : Schema} {value found : Json} {start : String}
    {location : Json.Location} {violation : Violation}
    (stands : (location, found) ∈ value.locations)
    (described : schema.atLocation? location = some node)
    (h : node.mismatch? found (location.path start) = some violation) :
    violation.Located schema value start := by
  rcases mismatch?_eq_some_iff.mp h with ⟨tag, documentation, rfl, rfl⟩ | ⟨-, differ, rfl⟩
  · exact .unsupportedKind stands described
  · exact .typeMismatch stands described differ

private theorem located_of_undeclared? {schema : Schema} {value found : Json} {start : String}
    {location : Json.Location} {violation : Violation}
    (stands : (location, found) ∈ value.locations)
    (described : schema.atLocation? location = none)
    (h : schema.undeclared? start location = some violation) :
    violation.Located schema value start := by
  unfold undeclared? at h
  split at h
  · rename_i name members documentation hlast habove
    obtain rfl := Option.some.inj h
    -- the field is the last step, and the structure is described where the others lead
    have hlocation : location.dropLast ++ [.member name] = location :=
      List.dropLast_append_getLast? _ hlast
    rw [← hlocation] at stands described
    obtain ⟨fields, hobject, hmember⟩ := Json.exists_object_of_mem_locations stands
    rw [atLocation?_append, habove] at described
    have hundeclared : Entries.get? members name = none := by
      cases hget : Entries.get? members name with
      | none => rfl
      | some member => simp [atLocation?, child?, hget] at described
    exact .unknownParameter hobject habove (Entries.mem_names_of_mem hmember)
      (Entries.get?_eq_none_iff.mp hundeclared)
  · contradiction

/-- Every violation tells the truth about a location of the value. -/
theorem located_of_mem_violations {schema : Schema} {value : Json} {start : String}
    {violation : Violation} (h : violation ∈ violations schema value start) :
    violation.Located schema value start := by
  rw [violations_eq_complaints] at h
  obtain ⟨⟨location, found⟩, stands, hcomplaint⟩ := List.mem_filterMap.mp h
  unfold complaint? at hcomplaint
  split at hcomplaint
  · rename_i node described
    exact located_of_mismatch? stands described hcomplaint
  · rename_i described
    exact located_of_undeclared? stands described hcomplaint

/-- There is no violation if and only if the value conforms. -/
theorem violations_eq_nil_iff {schema : Schema} {value : Json} (path : String) :
    violations schema value path = [] ↔ Conforms schema value := by
  have hcheck : check schema value path = .ok () ↔ Conforms schema value := check_eq_ok_iff
  rw [← hcheck, check_eq_outcome_violations]
  cases violations schema value path <;> simp [Violation.outcome]

/-- A check, of a value at any path or of the arguments of a call, succeeds if there is no violation
and fails with the first one otherwise. The violations are the complaints about all locations of the
value in document order, and each of them tells the truth about a location. A mismatch names the
kind of the very value that it carries. The arguments of a call may be checked as members, as items
or as one value: it is the same check. -/
theorem check_eq_first_violation (schema : Schema) (value : Json) (start : String) :
    check schema value start = Violation.outcome (violations schema value start) ∧
    violations schema value start = schema.complaints start value.locations ∧
    (violations schema value start = [] ↔ Conforms schema value) ∧
    (∀ violation ∈ violations schema value start, violation.Located schema value start) ∧
    (∀ path found actual expected,
      .typeMismatch path found actual expected ∈ violations schema value start →
        actual = found.kindName) ∧
    (∀ params : Params, params.check schema = schema.check params.toJson "$") ∧
    ∀ (args : Arguments) params, args.params? = .ok params →
      args.accept schema =
        match violations schema params.toJson "$" with
        | [] => .ok params
        | violation :: _ => .error (.nonconforming violation) := by
  refine ⟨check_eq_outcome_violations schema value start, violations_eq_complaints ..,
    violations_eq_nil_iff start, fun _ => located_of_mem_violations, ?_,
    fun params => params.check_eq_check_toJson schema, ?_⟩
  · intro path found actual expected hviolation
    cases located_of_mem_violations hviolation
    rfl
  · intro args params hparams
    rw [Arguments.accept_of_params? hparams, check_eq_outcome_violations]
    cases violations schema params.toJson "$" <;> rfl

end Schema

/-- A schema of orders, with a member of unknown kind. -/
def Schema.order : Schema :=
  .struct [("lines", .list (.struct [("count", .scalar .integer none)] none) none),
    ("weight", .unsupported "float" none)] none

/-- An order of which the second line is no integer and the third member is not declared. -/
def Json.order : Json :=
  .object [("lines", .array [.object [("count", .number (.integer 2 (by decide)))],
      .object [("count", .string "two")]]),
    ("note", .null), ("weight", .bool true)]

/-- An order with a count that is a text, a note that was not asked for and a weight of an unknown
kind: the count is reported, with what it is and what it ought to be. -/
theorem Schema.check_eq_first_violation_order :
    violations .order .order "$" =
      [.typeMismatch "$.lines[1].count" (.string "two") "string" "integer",
        .unknownParameter "note" "$", .unsupportedKind "float" "$.weight"] ∧
    check .order .order "$" =
      .error (.typeMismatch "$.lines[1].count" (.string "two") "string" "integer") ∧
    (Violation.typeMismatch "$.lines[1].count" (.string "two") "string" "integer").Located
      .order .order "$" ∧
    Arguments.params? (.ofLists [] [("note", .null)]) = .ok (.keyword (.ofList [("note", .null)])) ∧
    Arguments.accept .order (.ofLists [] [("note", .null)]) =
      .error (.nonconforming (.unknownParameter "note" "$")) := by
  obtain ⟨hcheck, -, -, hlocated, -, -, haccept⟩ := check_eq_first_violation .order .order "$"
  have hviolations : violations .order .order "$" =
      [.typeMismatch "$.lines[1].count" (.string "two") "string" "integer",
        .unknownParameter "note" "$", .unsupportedKind "float" "$.weight"] := by
    decide +kernel
  have hparams : Arguments.params? (.ofLists [] [("note", .null)]) =
      .ok (.keyword (.ofList [("note", .null)])) := rfl
  refine ⟨hviolations, ?_, hlocated _ (by simp [hviolations]), hparams, ?_⟩
  · rw [hcheck, hviolations]
    rfl
  · rw [haccept _ _ hparams]
    rfl

end SchemaCall
