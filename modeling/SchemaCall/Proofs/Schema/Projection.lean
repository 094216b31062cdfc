import SchemaCall.Proofs.Schema.Violations
import SchemaCall.Schema.Conformance

/-!
# What projection leaves

Projection drops the members that checking calls unknown, and nothing else: the violations of a
projected value are those of the value itself without the unknown parameters (`violations_project`),
and a value without unknown parameters is its own projection (`project_eq_self_iff`). Hence a second
projection changes nothing (`project_project`). At every location that the schema describes, what is
left is the projection of what stood there (`mem_locations_project`).
-/

namespace SchemaCall

/-- Is the violation a member that is not declared? -/
def Violation.isUnknownParameter : Violation → Bool
  | .unknownParameter .. => true
  | _ => false

namespace Schema

/-- Items are projected one by one. -/
theorem projectItems_eq_map (element : Schema) (items : List Json) :
    projectItems element items = items.map element.project := by
  induction items with
  | nil => rfl
  | cons item rest ih => rw [projectItems, ih, List.map_cons]

/-- Of the fields those remain that are members, each projected. -/
theorem projectFields_eq_filterMap (members : List (String × Schema))
    (fields : List (String × Json)) :
    projectFields members fields = fields.filterMap fun field =>
      (Entries.get? members field.1).map fun member => (field.1, member.project field.2) := by
  induction fields with
  | nil => rfl
  | cons field rest ih =>
    obtain ⟨name, value⟩ := field
    rw [projectFields, ih, List.filterMap_cons]
    cases Entries.get? members name <;> rfl

/-- The declared names are left, in their order. -/
theorem names_projectFields (members : List (String × Schema)) (fields : List (String × Json)) :
    Entries.names (projectFields members fields) =
      (Entries.names fields).filter (· ∈ Entries.names members) := by
  induction fields with
  | nil => rfl
  | cons field rest ih =>
    obtain ⟨name, value⟩ := field
    rw [projectFields, Entries.names_cons, List.filter_cons]
    cases hmember : Entries.get? members name with
    | none => simp [Entries.get?_eq_none_iff.mp hmember, ih]
    | some member =>
      have hname : name ∈ Entries.names members :=
        Entries.isSome_get?_iff.mp (by rw [hmember, Option.isSome_some])
      simp [hname, ih]

/-! ## Violations of what is left -/

private theorem itemViolations_project {element : Schema} {items : List Json}
    (ih : ∀ item ∈ items, ∀ path, violations element (project element item) path =
      (violations element item path).filter fun violation => !violation.isUnknownParameter)
    (index : ℕ) (path : String) :
    itemViolations element (projectItems element items) index path =
      (itemViolations element items index path).filter
        fun violation => !violation.isUnknownParameter := by
  induction items generalizing index with
  | nil => rfl
  | cons item rest ihrest =>
    rw [projectItems, itemViolations, itemViolations, List.filter_append, ih item (by simp),
      ihrest fun x hx => ih x (List.mem_cons_of_mem _ hx)]

private theorem fieldViolations_project {members : List (String × Schema)}
    {fields : List (String × Json)}
    (ih : ∀ field ∈ fields, ∀ schema path, violations schema (project schema field.2) path =
      (violations schema field.2 path).filter fun violation => !violation.isUnknownParameter)
    (path : String) :
    fieldViolations members (projectFields members fields) path =
      (fieldViolations members fields path).filter
        fun violation => !violation.isUnknownParameter := by
  induction fields with
  | nil => rfl
  | cons field rest ihrest =>
    obtain ⟨name, value⟩ := field
    have hrest := ihrest fun x hx => ih x (List.mem_cons_of_mem _ hx)
    rw [projectFields, fieldViolations, List.filter_append, ← hrest]
    cases hmember : Entries.get? members name with
    | none => rfl
    | some member =>
      have hvalue := ih (name, value) (by simp) member (memberPath path name)
      simp only [fieldViolations, hmember, hvalue]

private theorem violations_scalar_known (kind : Scalar) (documentation : Option String)
    (value : Json) (path : String) :
    (violations (.scalar kind documentation) value path).filter
        (fun violation => !violation.isUnknownParameter) =
      violations (.scalar kind documentation) value path := by
  rw [violations]
  split <;> rfl

/-- Projection takes the unknown parameters away and leaves all other violations as they are. -/
theorem violations_project (schema : Schema) (value : Json) (path : String) :
    violations schema (project schema value) path =
      (violations schema value path).filter fun violation => !violation.isUnknownParameter := by
  induction value generalizing schema path with
  | array items ih =>
    cases schema with
    | list element documentation =>
      exact itemViolations_project (fun item hitem path => ih item hitem element path) 0 path
    | scalar kind documentation => exact (violations_scalar_known ..).symm
    | _ => rfl
  | object fields ih =>
    cases schema with
    | struct members documentation => exact fieldViolations_project ih path
    | scalar kind documentation => exact (violations_scalar_known ..).symm
    | _ => rfl
  | _ =>
    cases schema with
    | scalar kind documentation => exact (violations_scalar_known ..).symm
    | _ => rfl

/-! ## Values that are left as they are -/

private theorem projectItems_eq_self_iff {element : Schema} {items : List Json}
    (ih : ∀ item ∈ items, ∀ path, project element item = item ↔
      ∀ violation ∈ violations element item path, violation.isUnknownParameter = false)
    (index : ℕ) (path : String) :
    projectItems element items = items ↔
      ∀ violation ∈ itemViolations element items index path,
        violation.isUnknownParameter = false := by
  induction items generalizing index with
  | nil => simp [projectItems, itemViolations]
  | cons item rest ihrest =>
    rw [projectItems, itemViolations, List.cons.injEq, List.forall_mem_append,
      ← ih item (by simp), ← ihrest fun x hx => ih x (List.mem_cons_of_mem _ hx)]

private theorem projectFields_eq_self_iff {members : List (String × Schema)}
    {fields : List (String × Json)}
    (ih : ∀ field ∈ fields, ∀ schema path, project schema field.2 = field.2 ↔
      ∀ violation ∈ violations schema field.2 path, violation.isUnknownParameter = false)
    (path : String) :
    projectFields members fields = fields ↔
      ∀ violation ∈ fieldViolations members fields path,
        violation.isUnknownParameter = false := by
  induction fields with
  | nil => simp [projectFields, fieldViolations]
  | cons field rest ihrest =>
    obtain ⟨name, value⟩ := field
    rw [projectFields, fieldViolations, List.forall_mem_append,
      ← ihrest fun x hx => ih x (List.mem_cons_of_mem _ hx)]
    cases hmember : Entries.get? members name with
    | none =>
      -- a member was dropped, so that too few are left
      have hlength : (projectFields members rest).length ≤ rest.length := by
        rw [projectFields_eq_filterMap]
        exact List.length_filterMap_le ..
      refine iff_of_false (fun heq => ?_) fun h => ?_
      · have htoo : (projectFields members rest).length = rest.length + 1 :=
          congrArg List.length heq
        omega
      · exact absurd (h.1 _ List.mem_cons_self) (by simp [Violation.isUnknownParameter])
    | some member =>
      rw [← ih (name, value) (by simp) member]
      simp

private theorem known_of_mem_violations_scalar {kind : Scalar} {documentation : Option String}
    {value : Json} {path : String} {violation : Violation}
    (h : violation ∈ violations (.scalar kind documentation) value path) :
    violation.isUnknownParameter = false := by
  rw [← violations_scalar_known] at h
  simpa using (List.mem_filter.mp h).2

/-- A value is its own projection if and only if it has no unknown parameters. -/
theorem project_eq_self_iff {schema : Schema} {value : Json} (path : String) :
    project schema value = value ↔
      ∀ violation ∈ violations schema value path, violation.isUnknownParameter = false := by
  induction value generalizing schema path with
  | array items ih =>
    cases schema with
    | list element documentation =>
      rw [project, Json.array.injEq]
      exact projectItems_eq_self_iff (fun item hitem path => ih item hitem _) 0 path
    | scalar kind documentation =>
      exact iff_of_true rfl fun violation => known_of_mem_violations_scalar
    | _ => simp [project, violations, Violation.mismatch, Violation.isUnknownParameter]
  | object fields ih =>
    cases schema with
    | struct members documentation =>
      rw [project, Json.object.injEq]
      exact projectFields_eq_self_iff (fun field hfield schema path => ih field hfield _) path
    | scalar kind documentation =>
      exact iff_of_true rfl fun violation => known_of_mem_violations_scalar
    | _ => simp [project, violations, Violation.mismatch, Violation.isUnknownParameter]
  | _ =>
    cases schema with
    | scalar kind documentation =>
      exact iff_of_true rfl fun violation => known_of_mem_violations_scalar
    | _ => simp [project, violations, Violation.mismatch, Violation.isUnknownParameter]

/-- A projected value is its own projection. -/
theorem project_project (schema : Schema) (value : Json) :
    project schema (project schema value) = project schema value := by
  refine (project_eq_self_iff "$").mpr fun violation hviolation => ?_
  rw [violations_project] at hviolation
  simpa using (List.mem_filter.mp hviolation).2

/-- A value that is accepted is its own projection. -/
theorem project_eq_self_of_check_eq_ok {schema : Schema} {value : Json} {path : String}
    (h : check schema value path = .ok ()) : project schema value = value := by
  have hnone := (violations_eq_nil_iff path).mpr (check_eq_ok_iff.mp h)
  exact (project_eq_self_iff path).mpr (by simp [hnone])

/-! ## What is left at a location -/

/-- A field that is a member remains, projected. -/
theorem mem_projectFields {members : List (String × Schema)} {fields : List (String × Json)}
    {name : String} {value : Json} {member : Schema} (hfield : (name, value) ∈ fields)
    (hmember : Entries.get? members name = some member) :
    (name, member.project value) ∈ projectFields members fields := by
  rw [projectFields_eq_filterMap]
  exact List.mem_filterMap.mpr ⟨(name, value), hfield, by rw [hmember, Option.map_some]⟩

/-- What stands at a location that the schema describes is left there, projected. -/
theorem mem_locations_project {schema node : Schema} {value found : Json}
    {location : Json.Location} (stands : (location, found) ∈ value.locations)
    (described : schema.atLocation? location = some node) :
    (location, node.project found) ∈ (schema.project value).locations := by
  induction value generalizing schema location with
  | array items ih =>
    rw [Json.locations, List.mem_cons] at stands
    -- the root stays where it is; what is below comes from an item
    rcases stands with hroot | hbelow
    · obtain ⟨rfl, rfl⟩ := Prod.mk.inj hroot
      obtain rfl := Option.some.inj described
      exact Json.nil_mem_locations _
    · obtain ⟨offset, item, rest, hitem, rfl, hfound⟩ := Json.mem_itemLocations_iff.mp hbelow
      cases schema with
      | list element documentation =>
        rw [project, Json.locations, projectItems_eq_map]
        refine List.mem_cons_of_mem _ (Json.mem_itemLocations_iff.mpr
          ⟨offset, element.project item, rest, ?_, rfl, ?_⟩)
        · rw [List.getElem?_map, hitem, Option.map_some]
        · exact ih item (List.mem_of_getElem? hitem) hfound described
      | _ => contradiction
  | object fields ih =>
    rw [Json.locations, List.mem_cons] at stands
    rcases stands with hroot | hbelow
    · obtain ⟨rfl, rfl⟩ := Prod.mk.inj hroot
      obtain rfl := Option.some.inj described
      exact Json.nil_mem_locations _
    · obtain ⟨name, value, rest, hfield, rfl, hfound⟩ := Json.mem_memberLocations_iff.mp hbelow
      cases schema with
      | struct members documentation =>
        obtain ⟨member, hmember, hat⟩ := Option.bind_eq_some_iff.mp described
        rw [project, Json.locations]
        exact List.mem_cons_of_mem _ (Json.mem_memberLocations_iff.mpr
          ⟨name, member.project value, rest, mem_projectFields hfield hmember, rfl,
            ih (name, value) hfield hfound hat⟩)
      | _ => contradiction
  | _ =>
    obtain ⟨rfl, rfl⟩ := Prod.mk.inj (List.mem_singleton.mp stands)
    obtain rfl := Option.some.inj described
    exact Json.nil_mem_locations _

/-- Does the node describe what is inside the value: is it a structure over an object, or a list
over an array? -/
def describesInside : Schema → Json → Bool
  | .struct .., .object _ => true
  | .list .., .array _ => true
  | _, _ => false

/-- What is left of a value at a node: of an object at a structure, the declared members in their
order; of an array at a list, as many items; of anything else, the value as it is. -/
inductive Leaves : Schema → Json → Json → Prop where
  | struct {members : List (String × Schema)} {documentation : Option String}
      {fields left : List (String × Json)}
      (names : Entries.names left = (Entries.names fields).filter (· ∈ Entries.names members)) :
      Leaves (.struct members documentation) (.object fields) (.object left)
  | list {element : Schema} {documentation : Option String} {items left : List Json}
      (length : left.length = items.length) :
      Leaves (.list element documentation) (.array items) (.array left)
  | same {node : Schema} {value : Json} (apart : node.describesInside value = false) :
      Leaves node value value

/-- The projection leaves of a value what the schema has a place for. -/
theorem leaves_project (node : Schema) (value : Json) : Leaves node value (node.project value) := by
  cases node with
  | struct members documentation =>
    cases value with
    | object fields => exact .struct (names_projectFields members fields)
    | _ => exact .same rfl
  | list element documentation =>
    cases value with
    | array items => exact .list (by rw [projectItems_eq_map, List.length_map])
    | _ => exact .same rfl
  | _ => cases value <;> exact .same rfl

/-- Projection deletes the unknown parameters from the violations and does nothing else: it changes
a value only if the value has unknown parameters, changes nothing the second time or in a value that
is accepted, and leaves at every location that the schema describes as much as it may. -/
theorem project_drops_unknown_parameters (schema : Schema) (value : Json) (path : String) :
    violations schema (project schema value) path =
      (violations schema value path).filter (fun violation => !violation.isUnknownParameter) ∧
    (project schema value = value ↔
      ∀ violation ∈ violations schema value path, violation.isUnknownParameter = false) ∧
    project schema (project schema value) = project schema value ∧
    (check schema value path = .ok () → project schema value = value) ∧
    ∀ location found node, (location, found) ∈ value.locations →
      schema.atLocation? location = some node →
      ∃ left, (location, left) ∈ (project schema value).locations ∧ Leaves node found left := by
  refine ⟨violations_project .., project_eq_self_iff _, project_project ..,
    project_eq_self_of_check_eq_ok, ?_⟩
  intro location found node stands described
  exact ⟨node.project found, mem_locations_project stands described, leaves_project ..⟩

/-- Projecting an order takes the member away that is not declared; the second line stays at its
place although it is wrong, and so does the weight although its kind is unknown. -/
theorem project_drops_unknown_parameters_order :
    (Violation.unknownParameter "note" "$" ∈ violations .order .order "$" ∧
      project .order .order ≠ .order) ∧
    violations .order (project .order .order) "$" =
      [.typeMismatch "$.lines[1].count" (.string "two") "string" "integer",
        .unsupportedKind "float" "$.weight"] ∧
    (check (.list .order none) (.array [.object [("lines", .array [])]]) "$" = .ok () ∧
      project (.list .order none) (.array [.object [("lines", .array [])]]) =
        .array [.object [("lines", .array [])]]) ∧
    (([.member "weight"], .bool true) ∈ Json.order.locations ∧
      Schema.order.atLocation? [.member "weight"] = some (.unsupported "float" none) ∧
      ∃ left, ([.member "weight"], left) ∈ (project .order .order).locations ∧
        Leaves (.unsupported "float" none) (.bool true) left) := by
  obtain ⟨hviolations, hself, -, -, hleft⟩ := project_drops_unknown_parameters .order .order "$"
  obtain ⟨-, -, -, haccepted, -⟩ := project_drops_unknown_parameters (.list .order none)
    (.array [.object [("lines", .array [])]]) "$"
  have hnote : Violation.unknownParameter "note" "$" ∈ violations .order .order "$" := by
    decide +kernel
  have hcheck : check (.list .order none) (.array [.object [("lines", .array [])]]) "$" =
      .ok () := by
    decide +kernel
  have hweight : ([.member "weight"], .bool true) ∈ Json.order.locations := by decide +kernel
  have hfloat : Schema.order.atLocation? [.member "weight"] = some (.unsupported "float" none) := by
    decide +kernel
  refine ⟨⟨hnote, fun heq => ?_⟩, ?_, ⟨hcheck, haccepted hcheck⟩, hweight, hfloat,
    hleft _ _ _ hweight hfloat⟩
  · exact absurd (hself.mp heq _ hnote) (by decide)
  · rw [hviolations]
    decide +kernel

end Schema

end SchemaCall
