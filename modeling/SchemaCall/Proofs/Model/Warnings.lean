import Mathlib.Algebra.Ring.Nat
import SchemaCall.Proofs.Call.Requests
import SchemaCall.Proofs.Model.Load
import SchemaCall.Proofs.Schema.Position
import SchemaCall.Proofs.Schema.Shape

/-!
# Warnings and what they foretell

A model that uses unknown kinds is loaded, with a warning for each node of unknown kind
(`warnings_of_load`). When an operation is called, a node of unknown kind refuses whatever stands at
its place. The two belong together (`load_warnings_unsupported`): a call that is refused in this way
is refused at a location whose position has its warning (`Schema.exists_location_of_accept`), and
for every node of unknown kind there is a call that gets as far as this node and is refused there
(`Schema.Position.accept_args`).
-/

namespace SchemaCall

/-! ## Calls that reach a node -/

namespace Schema

/-- The value that has nothing but the given one at a position. -/
def Position.wrap : Position → Json → Json
  | [], value => value
  | .member name :: rest, value => .object [(name, wrap rest value)]
  | .element :: rest, value => .array [wrap rest value]

/-- Wrapping a value along a position binds no name twice. -/
theorem Position.distinct_wrap (position : Position) {value : Json} (h : value.Distinct) :
    (position.wrap value).Distinct := by
  induction position with
  | nil => exact h
  | cons step rest ih =>
    cases step with
    | member name => exact ⟨List.nodup_singleton name, ih, trivial⟩
    | element => exact ⟨ih, trivial⟩

/-- Nothing is checked on the way to a position, so all depends on the value that stands there. -/
theorem Position.check_wrap {schema node : Schema} {position : Position}
    (h : schema.atPosition? position = some node) (value : Json) (path : String) :
    check schema (position.wrap value) path = check node value (position.location.path path) := by
  induction position generalizing schema path with
  | nil =>
    obtain rfl := Option.some.inj h
    exact congrArg _ (Json.Location.path_nil path).symm
  | cons step rest ih =>
    obtain ⟨below, hbelow, hnode⟩ := Option.bind_eq_some_iff.mp h
    have hpath : Position.location (step :: rest) = step.first :: Position.location rest := rfl
    rw [hpath, Json.Location.path_cons]
    cases step with
    | member name =>
      cases schema with
      | struct members documentation =>
        rw [wrap, check_field hbelow, ih hnode, Step.first, Json.Step.append_text_member]
      | _ => exact nomatch hbelow
    | element =>
      cases schema with
      | list element documentation =>
        obtain rfl := Option.some.inj hbelow
        rw [wrap, check_singleton, ih hnode, Step.first, Json.Step.append_text_item]
      | _ => exact nomatch hbelow

/-- The arguments that have nothing but an empty object at a position. -/
def Position.args : Position → Arguments
  | [] => .none
  | .member name :: rest => .ofLists [] [(name, wrap rest (.object []))]
  | .element :: rest => .ofLists [wrap rest (.object [])] []

/-- The arguments for a position have an empty object there. -/
theorem Position.toJson_args (position : Position) :
    position.args.toJson = position.wrap (.object []) := by
  cases position with
  | nil => rfl
  | cons step rest => cases step <;> rfl

/-- The arguments for a position keep to one mode. -/
theorem Position.not_isMixed_args (position : Position) : ¬position.args.IsMixed := by
  rintro ⟨hpositional, hkeyword⟩
  cases position with
  | nil => exact hpositional rfl
  | cons step rest =>
    cases step with
    | member name => exact hpositional rfl
    | element => exact hkeyword rfl

/-- No object in the arguments for a position binds a name twice. -/
theorem Position.distinct_args (position : Position) : position.args.toJson.Distinct := by
  rw [toJson_args]
  exact position.distinct_wrap ⟨Entries.distinct_nil, trivial⟩

/-- These arguments are refused by a node of unknown kind at the position, and nowhere else. -/
theorem Position.accept_args {input : Schema} {position : Position} {tag : String}
    {documentation : Option String}
    (h : input.atPosition? position = some (.unsupported tag documentation)) :
    position.args.accept input =
      .error (.nonconforming (.unsupportedKind tag (position.location.path "$"))) := by
  refine Arguments.accept_of_check_eq_error position.not_isMixed_args ?_
  rw [toJson_args, check_wrap h, check]

/-- A call that is refused for an unknown kind has something at a location that a node of this kind
describes. -/
theorem exists_location_of_accept {input : Schema} {args : Arguments} {tag path : String}
    (h : args.accept input = .error (.nonconforming (.unsupportedKind tag path))) :
    ∃ location found documentation, (location, found) ∈ args.toJson.locations ∧
      input.atLocation? location = some (.unsupported tag documentation) ∧
      path = location.path "$" := by
  obtain ⟨-, hcheck⟩ := Arguments.check_eq_error_of_accept h
  cases located_of_mem_violations (mem_violations_of_check_eq_error hcheck) with
  | unsupportedKind stands described => exact ⟨_, _, _, stands, described, rfl⟩

end Schema

/-! ## Warnings of a loading -/

/-- Is the warning about a node of unknown kind? -/
def Warning.isUnsupportedKind : Warning → Bool
  | .unsupportedKind .. => true
  | .uncallable .. => false

namespace Operation

/-- The warnings about one part are about its nodes of unknown kind, in their order. -/
theorem unsupportedWarnings_eq_map (name : String) (operation : Operation) (part : Part) :
    operation.unsupportedWarnings name part = (operation.schema part).unknowns.map fun unknown =>
      .unsupportedKind name part (unknown.1.path "$") unknown.2 := by
  rw [unsupportedWarnings, Schema.unsupportedNodes_eq_map, List.map_map]
  rfl

/-- Without what is said of the operation as a whole, the warnings are those about its two parts. -/
theorem filter_warnings (name : String) (operation : Operation) :
    (operation.warnings name).filter Warning.isUnsupportedKind =
      [Part.input, .output].flatMap fun part =>
        (operation.schema part).unknowns.map fun unknown =>
          .unsupportedKind name part (unknown.1.path "$") unknown.2 := by
  have hparts (part : Part) : (operation.unsupportedWarnings name part).filter
      Warning.isUnsupportedKind = operation.unsupportedWarnings name part := by
    rw [unsupportedWarnings_eq_map, List.filter_eq_self]
    rintro warning hwarning
    obtain ⟨unknown, -, rfl⟩ := List.mem_map.mp hwarning
    rfl
  have hwhole : (if operation.input.isContainer then []
      else [Warning.uncallable name operation.input.typeName]).filter
        Warning.isUnsupportedKind = [] := by
    split <;> rfl
  rw [warnings, List.filter_append, List.filter_append, hparts, hparts, hwhole, List.nil_append,
    unsupportedWarnings_eq_map, unsupportedWarnings_eq_map]
  simp

end Operation

namespace Model

variable {document : Json} {model : Model}

private theorem inspectOperations_warnings {operations : List (String × Operation)}
    (h : (inspectOperations operations).2 = .ok ()) :
    (inspectOperations operations).1 =
      operations.flatMap fun entry => entry.2.warnings entry.1 := by
  induction operations with
  | nil => rfl
  | cons entry rest ih =>
    obtain ⟨name, operation⟩ := entry
    rw [inspectOperations] at h ⊢
    cases hblank : Text.isBlankText name with
    | true => rw [hblank] at h; contradiction
    | false =>
      rw [hblank] at h
      rw [List.flatMap_cons, ← ih h]
      rfl

/-- A model that is loaded with validation comes with the warnings about all of its operations. -/
theorem warnings_of_load (h : (load true document).outcome = .ok model) :
    (load true document).warnings =
      model.operations.entries.flatMap fun entry => entry.2.warnings entry.1 := by
  obtain ⟨hcheck, hread, hinspect⟩ := load_true_outcome_eq_ok_iff.mp h
  have hwarnings : model.inspected.warnings = model.inspect.1 := by
    rw [inspected]
    rcases model.inspect with ⟨warnings, _ | _⟩ <;> rfl
  rw [load_true_eq_inspected hcheck hread, hwarnings]
  rw [inspect] at hinspect ⊢
  cases hendpoint : checkEndpoint model.endpoint with
  | error error => rw [hendpoint] at hinspect; contradiction
  | ok => rw [hendpoint] at hinspect; exact inspectOperations_warnings hinspect

/-- The warnings about nodes of unknown kind are about those of all operations, in order. -/
theorem filter_warnings_of_load (h : (load true document).outcome = .ok model) :
    (load true document).warnings.filter Warning.isUnsupportedKind =
      model.operations.entries.flatMap fun entry => [Part.input, .output].flatMap fun part =>
        (entry.2.schema part).unknowns.map fun unknown =>
          .unsupportedKind entry.1 part (unknown.1.path "$") unknown.2 := by
  rw [warnings_of_load h, List.filter_flatMap]
  simp only [Operation.filter_warnings]

/-- There is a warning about a node if and only if the part has the node at a position of this
path. -/
theorem mem_warnings_iff (h : (load true document).outcome = .ok model) {name : String}
    {operation : Operation} (hoperation : model.operation? name = some operation) {part : Part}
    {path tag : String} : .unsupportedKind name part path tag ∈ (load true document).warnings ↔
      ∃ position, (position, tag) ∈ (operation.schema part).unknowns ∧
        path = Schema.Position.path "$" position := by
  have hfilter : Warning.unsupportedKind name part path tag ∈ (load true document).warnings ↔
      .unsupportedKind name part path tag ∈
        (load true document).warnings.filter Warning.isUnsupportedKind := by
    rw [List.mem_filter]
    exact ⟨fun hmem => ⟨hmem, rfl⟩, And.left⟩
  rw [hfilter, filter_warnings_of_load h, List.mem_flatMap]
  constructor
  · rintro ⟨⟨other, found⟩, hentry, hmem⟩
    obtain ⟨_, -, hpart⟩ := List.mem_flatMap.mp hmem
    obtain ⟨⟨position, _⟩, hunknown, heq⟩ := List.mem_map.mp hpart
    obtain ⟨rfl, rfl, rfl, rfl⟩ := Warning.unsupportedKind.inj heq
    have hget : model.operation? other = some found :=
      Entries.get?_of_mem model.operations.distinct hentry
    obtain rfl : operation = found := Option.some.inj (hoperation.symm.trans hget)
    exact ⟨position, hunknown, rfl⟩
  · rintro ⟨position, hunknown, rfl⟩
    refine ⟨(name, operation), Entries.mem_of_get? hoperation, List.mem_flatMap.mpr
      ⟨part, by cases part <;> simp, List.mem_map.mpr ⟨(position, tag), hunknown, rfl⟩⟩⟩

/-- The schemas of a model that was loaded declare no member twice. -/
theorem distinct_schema_of_load {validate : Bool} (distinct : document.Distinct)
    (h : (load validate document).outcome = .ok model) {name : String} {operation : Operation}
    (hoperation : model.operation? name = some operation) (part : Part) :
    (operation.schema part).Distinct := by
  have hreadable := readable_of_ofJson distinct (ofJson_of_load h)
  obtain ⟨hinput, houtput⟩ := hreadable _ (Entries.mem_of_get? hoperation)
  cases part with
  | input => exact hinput.distinct
  | output => exact houtput.distinct

/-- Loading a model with validation warns of exactly those nodes of unknown kind that calls can be
refused for. A call that is refused for one has a warning of its kind, at the path of the same
location without indices; and for every warning about an input there is a call that is refused for
this kind, at the path of such a location with indices. A schema tells of each of its nodes of
unknown kind once, depth first in the order of declaration, so that the warnings are those of all
inputs and outputs, input before output, in the order of operations, and as many as there are such
nodes. -/
theorem load_warnings_unsupported (distinct : document.Distinct)
    (h : (load true document).outcome = .ok model) :
    (∀ name operation, model.operation? name = some operation →
      (∀ (args : Arguments) (tag path : String),
        args.accept operation.input = .error (.nonconforming (.unsupportedKind tag path)) →
        ∃ location found documentation, (location, found) ∈ args.toJson.locations ∧
          operation.input.atLocation? location = some (.unsupported tag documentation) ∧
          path = location.path "$" ∧
          .unsupportedKind name .input (location.position.path "$") tag ∈
            (load true document).warnings) ∧
      (∀ path tag, .unsupportedKind name .input path tag ∈ (load true document).warnings →
        ∃ (args : Arguments) (location : Json.Location), args.toJson.Distinct ∧
          path = location.position.path "$" ∧
          args.accept operation.input =
            .error (.nonconforming (.unsupportedKind tag (location.path "$")))) ∧
      ∀ part, (operation.schema part).Distinct) ∧
    (∀ schema : Schema, schema.Distinct →
      schema.unsupportedNodes =
        schema.unknowns.map (fun unknown => (unknown.1.path "$", unknown.2)) ∧
      (schema.unknowns.map Prod.fst).Nodup ∧
      ∀ position tag, (position, tag) ∈ schema.unknowns ↔
        ∃ documentation, schema.atPosition? position = some (.unsupported tag documentation)) ∧
    (load true document).warnings.filter Warning.isUnsupportedKind =
      model.operations.entries.flatMap (fun entry => [Part.input, .output].flatMap fun part =>
        (entry.2.schema part).unknowns.map fun unknown =>
          .unsupportedKind entry.1 part (unknown.1.path "$") unknown.2) ∧
    ((load true document).warnings.filter Warning.isUnsupportedKind).length =
      (model.operations.entries.map fun entry =>
        entry.2.input.unknowns.length + entry.2.output.unknowns.length).sum := by
  refine ⟨fun name operation hoperation => ⟨fun args tag path hrefused => ?_,
    fun path tag hwarning => ?_, distinct_schema_of_load distinct h hoperation⟩,
    fun schema hschema => ⟨schema.unsupportedNodes_eq_map, Schema.nodup_unknowns hschema,
      fun position tag => Schema.mem_unknowns_iff hschema⟩,
    filter_warnings_of_load h, ?_⟩
  -- a refusal is at a location, and the warning at the position of it
  · obtain ⟨location, found, documentation, stands, described, rfl⟩ :=
      Schema.exists_location_of_accept hrefused
    refine ⟨location, found, documentation, stands, described, rfl, ?_⟩
    rw [Schema.atLocation?_eq_atPosition?] at described
    have hinput := distinct_schema_of_load distinct h hoperation .input
    exact (mem_warnings_iff h hoperation).mpr
      ⟨location.position, (Schema.mem_unknowns_iff hinput).mpr ⟨documentation, described⟩, rfl⟩
  -- a position has arguments that lead to it and to nothing else
  · obtain ⟨position, hunknown, rfl⟩ := (mem_warnings_iff h hoperation).mp hwarning
    have hinput := distinct_schema_of_load distinct h hoperation .input
    obtain ⟨documentation, hnode⟩ := (Schema.mem_unknowns_iff hinput).mp hunknown
    exact ⟨position.args, position.location, position.distinct_args,
      by rw [position.position_location], Schema.Position.accept_args hnode⟩
  · rw [filter_warnings_of_load h, List.length_flatMap]
    simp [Operation.schema]

/-- An operation that takes parcels, whose weight is of unknown kind, and answers something else of
unknown kind. -/
def shipOperation : Operation where
  name := "ship"
  documentation := ""
  input := .list (.struct [("to", .scalar .string none), ("weight", .unsupported "float" none)]
    none) none
  output := .unsupported "receipt" none

/-- A model with this operation only. -/
def shipping : Model := ⟨"http://localhost:4000", .ofList [("ship", shipOperation)]⟩

/-- The document of this model. -/
def shippingDocument : Json :=
  .object [("endpoint_url", .string "http://localhost:4000"), ("operations", .object [("ship",
    .object [("input", .object [("type", .string "list"), ("members",
        .object [("type", .string "structure"), ("members", .object
          [("to", .object [("type", .string "string")]),
            ("weight", .object [("type", .string "float"), ("members", .null)])])])]),
      ("output", .object [("type", .string "receipt")])])])]

/-- Two parcels, of which the second has a weight. -/
def twoParcels : Arguments :=
  .ofLists [.object [("to", .string "Oslo")],
    .object [("to", .string "Rome"), ("weight", .bool true)]] []

/-- The second parcel is refused at its weight, of which there was a warning; there are two
warnings, one of them about what is answered. -/
theorem load_warnings_unsupported_shipping :
    shippingDocument.Distinct ∧ (load true shippingDocument).outcome = .ok shipping ∧
    (twoParcels.accept shipOperation.input =
        .error (.nonconforming (.unsupportedKind "float" "$[1].weight")) ∧
      ∃ location, "$[1].weight" = Json.Location.path "$" location ∧
        .unsupportedKind "ship" .input (location.position.path "$") "float" ∈
          (load true shippingDocument).warnings) ∧
    (Warning.unsupportedKind "ship" .input "$[].weight" "float" ∈
        (load true shippingDocument).warnings ∧
      ∃ (args : Arguments) (location : Json.Location),
        "$[].weight" = location.position.path "$" ∧ args.accept shipOperation.input =
          .error (.nonconforming (.unsupportedKind "float" (location.path "$")))) ∧
    ((load true shippingDocument).warnings.filter Warning.isUnsupportedKind).length = 2 := by
  have hdistinct : shippingDocument.Distinct := by
    simp [shippingDocument, Json.Distinct, Json.DistinctMembers, Entries.Distinct]
  have hload : (load true shippingDocument).outcome = .ok shipping := by decide +kernel
  have hrefused : twoParcels.accept shipOperation.input =
      .error (.nonconforming (.unsupportedKind "float" "$[1].weight")) := by
    decide +kernel
  have hwarning : Warning.unsupportedKind "ship" .input "$[].weight" "float" ∈
      (load true shippingDocument).warnings := by
    decide +kernel
  obtain ⟨hoperations, -, -, hlength⟩ := load_warnings_unsupported hdistinct hload
  obtain ⟨hsound, hcomplete, -⟩ := hoperations "ship" shipOperation rfl
  obtain ⟨location, -, -, -, -, hpath, hmem⟩ := hsound _ _ _ hrefused
  obtain ⟨args, place, -, hplace, haccept⟩ := hcomplete _ _ hwarning
  exact ⟨hdistinct, hload, ⟨hrefused, location, hpath, hmem⟩,
    ⟨hwarning, args, place, hplace, haccept⟩, hlength⟩

end Model

end SchemaCall
