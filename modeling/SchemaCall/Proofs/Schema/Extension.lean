import SchemaCall.Proofs.Call.Dispatch
import SchemaCall.Proofs.Schema.Projection

/-!
# Schemas that grow

A schema extends another one if it has all of it, kind by kind and member by member, and possibly
more members. A model may grow in this way while its clients and servers are not renewed together:
what was accepted is still accepted (`Extends.conforms`), and of two projections, through the old
schema and through the new one, the old one decides what is left, in whichever order they are made
(`Extends.project_old_project_new`, `Extends.project_new_project_old`).
-/

namespace SchemaCall.Schema

/-- The first schema has all of the second one: the kinds are the same wherever the second has a
node, and each member of the second is a member of the first. Documentation and the order of members
do not matter. -/
inductive Extends : Schema → Schema → Prop where
  | scalar (kind : Scalar) (c d : Option String) : Extends (.scalar kind c) (.scalar kind d)
  | list {new old : Schema} (c d : Option String) (element : Extends new old) :
      Extends (.list new c) (.list old d)
  | struct {news olds : List (String × Schema)} (c d : Option String)
      (kept : ∀ name ∈ Entries.names olds, name ∈ Entries.names news)
      (each : ∀ name new old, Entries.get? news name = some new →
        Entries.get? olds name = some old → Extends new old) :
      Extends (.struct news c) (.struct olds d)
  | unsupported (tag : String) (c d : Option String) :
      Extends (.unsupported tag c) (.unsupported tag d)

variable {new old : Schema}

/-- A member that is declared is still declared. -/
private theorem exists_get?_of_kept {news olds : List (String × Schema)}
    (kept : ∀ name ∈ Entries.names olds, name ∈ Entries.names news) {name : String} {old : Schema}
    (h : Entries.get? olds name = some old) : ∃ new, Entries.get? news name = some new := by
  have hname : name ∈ Entries.names olds := Entries.isSome_get?_iff.mp (by rw [h]; rfl)
  exact Option.isSome_iff_exists.mp (Entries.isSome_get?_iff.mpr (kept name hname))

/-- What conforms to a schema conforms to its extensions. -/
theorem Extends.conforms (h : new.Extends old) {value : Json} (hold : old.Conforms value) :
    new.Conforms value := by
  induction h generalizing value with
  | scalar kind c d => exact conforms_scalar_iff.mpr (conforms_scalar_iff.mp hold)
  | list c d _ ih =>
    cases hold with
    | list each => exact .list fun item hitem => ih (each item hitem)
  | @struct news olds c d kept _ ih =>
    cases value with
    | object fields =>
      refine conforms_struct_iff.mpr fun field hfield => ?_
      obtain ⟨old, hmember, hconforms⟩ := conforms_struct_iff.mp hold field hfield
      obtain ⟨new, hnew⟩ := exists_get?_of_kept kept hmember
      exact ⟨new, hnew, ih field.1 new old hnew hmember hconforms⟩
    | _ => exact nomatch hold
  | unsupported tag c d => exact nomatch hold

/-! ## Two projections -/

private theorem projectFields_cons_of_some {members : List (String × Schema)} {name : String}
    {member : Schema} (h : Entries.get? members name = some member) (value : Json)
    (rest : List (String × Json)) : projectFields members ((name, value) :: rest) =
      (name, project member value) :: projectFields members rest := by
  rw [projectFields, h]

private theorem projectFields_cons_of_none {members : List (String × Schema)} {name : String}
    (h : Entries.get? members name = none) (value : Json) (rest : List (String × Json)) :
    projectFields members ((name, value) :: rest) = projectFields members rest := by
  rw [projectFields, h]

private theorem projectFields_old_new {news olds : List (String × Schema)}
    (kept : ∀ name ∈ Entries.names olds, name ∈ Entries.names news)
    (each : ∀ name new old, Entries.get? news name = some new → Entries.get? olds name = some old →
      ∀ value, project old (project new value) = project old value)
    (fields : List (String × Json)) :
    projectFields olds (projectFields news fields) = projectFields olds fields := by
  induction fields with
  | nil => rfl
  | cons field rest ih =>
    obtain ⟨name, value⟩ := field
    cases hold : Entries.get? olds name with
    | none =>
      -- whether the extension keeps the member or not, the old structure drops it
      rw [projectFields_cons_of_none hold]
      cases hnew : Entries.get? news name with
      | none => rw [projectFields_cons_of_none hnew, ih]
      | some new => rw [projectFields_cons_of_some hnew, projectFields_cons_of_none hold, ih]
    | some old =>
      obtain ⟨new, hnew⟩ := exists_get?_of_kept kept hold
      rw [projectFields_cons_of_some hnew, projectFields_cons_of_some hold,
        projectFields_cons_of_some hold, each name new old hnew hold, ih]

private theorem projectFields_new_old {news olds : List (String × Schema)}
    (kept : ∀ name ∈ Entries.names olds, name ∈ Entries.names news)
    (each : ∀ name new old, Entries.get? news name = some new → Entries.get? olds name = some old →
      ∀ value, project new (project old value) = project old value)
    (fields : List (String × Json)) :
    projectFields news (projectFields olds fields) = projectFields olds fields := by
  induction fields with
  | nil => rfl
  | cons field rest ih =>
    obtain ⟨name, value⟩ := field
    cases hold : Entries.get? olds name with
    | none => rw [projectFields_cons_of_none hold, ih]
    | some old =>
      obtain ⟨new, hnew⟩ := exists_get?_of_kept kept hold
      rw [projectFields_cons_of_some hold, projectFields_cons_of_some hnew,
        each name new old hnew hold, ih]

/-- A value that went through the extension first loses the same through the old schema. -/
theorem Extends.project_old_project_new (h : new.Extends old) (value : Json) :
    project old (project new value) = project old value := by
  induction h generalizing value with
  | scalar kind c d => cases value <;> rfl
  | list c d _ ih =>
    cases value with
    | array items =>
      simp only [project, projectItems_eq_map, List.map_map, Function.comp_def, ih]
    | _ => rfl
  | struct c d kept _ ih =>
    cases value with
    | object fields => exact congrArg Json.object (projectFields_old_new kept ih fields)
    | _ => rfl
  | unsupported tag c d => cases value <;> rfl

/-- The extension leaves what went through the old schema as it is. -/
theorem Extends.project_new_project_old (h : new.Extends old) (value : Json) :
    project new (project old value) = project old value := by
  induction h generalizing value with
  | scalar kind c d => cases value <;> rfl
  | list c d _ ih =>
    cases value with
    | array items =>
      simp only [project, projectItems_eq_map, List.map_map, Function.comp_def, ih]
    | _ => rfl
  | struct c d kept _ ih =>
    cases value with
    | object fields => exact congrArg Json.object (projectFields_new_old kept ih fields)
    | _ => rfl
  | unsupported tag c d => cases value <;> rfl

/-! ## Growth -/

/-- When a schema grows, the values and arguments that were accepted are still accepted, and are
sent as before. Projecting through both schemas, in either order, leaves of every value what the old
one leaves, in the same order of members. -/
theorem Extends.accepted_and_projected_alike (h : new.Extends old) (value : Json) :
    (∀ path, check old value path = .ok () → check new value path = .ok ()) ∧
    (∀ (args : Arguments) params, args.accept old = .ok params → args.accept new = .ok params) ∧
    project old (project new value) = project old value ∧
    project new (project old value) = project old value := by
  refine ⟨fun path hcheck => ?_, fun args params haccept => ?_, h.project_old_project_new value,
    h.project_new_project_old value⟩
  · exact check_eq_ok_iff.mpr (h.conforms (check_eq_ok_iff.mp hcheck))
  · obtain ⟨hparams, hconforms⟩ := Arguments.accept_eq_ok_iff.mp haccept
    exact Arguments.accept_eq_ok_iff.mpr ⟨hparams, h.conforms hconforms⟩

/-- The schema of orders, grown: lines have a unit, orders may have a note and are documented. -/
def orderWithNotes : Schema :=
  .struct [("note", .list (.scalar .string none) none),
    ("weight", .unsupported "float" (some "In kilograms.")),
    ("lines", .list (.struct [("unit", .scalar .string none), ("count", .scalar .integer none)]
      none) (some "All."))] (some "An order.")

/-- An order form to which notes were added: old calls are accepted alike, and projections compose
to the smaller form. -/
theorem Extends.accepted_and_projected_alike_order :
    orderWithNotes.Extends order ∧
    (Arguments.accept order (.ofLists [] [("lines", .array [])]) =
        .ok (.keyword (.ofList [("lines", .array [])])) ∧
      Arguments.accept orderWithNotes (.ofLists [] [("lines", .array [])]) =
        .ok (.keyword (.ofList [("lines", .array [])]))) ∧
    (check order (.object [("lines", .array [.object []])]) "$" = .ok () ∧
      check orderWithNotes (.object [("lines", .array [.object []])]) "$" = .ok ()) ∧
    (project orderWithNotes .order = .order ∧
      project order (project orderWithNotes .order) = project order .order ∧
      project orderWithNotes (project order .order) = project order .order ∧
      project order .order ≠ .order) := by
  have hline : Extends
      (.struct [("unit", .scalar .string none), ("count", .scalar .integer none)] none)
      (.struct [("count", .scalar .integer none)] none) := by
    refine .struct none none (by decide) fun name new old hnew hold => ?_
    obtain ⟨rfl, rfl⟩ : "count" = name ∧ .scalar .integer none = old := by
      simpa [Entries.get?] using hold
    obtain rfl := Option.some.inj hnew
    exact .scalar .integer none none
  have hextends : orderWithNotes.Extends order := by
    refine .struct _ _ (by decide) fun name new old hnew hold => ?_
    have hnames : name = "lines" ∨ name = "weight" := by
      simpa [Entries.names] using Entries.mem_names_of_mem (Entries.mem_of_get? hold)
    rcases hnames with rfl | rfl
    · obtain rfl := Option.some.inj hnew
      obtain rfl := Option.some.inj hold
      exact .list _ _ hline
    · obtain rfl := Option.some.inj hnew
      obtain rfl := Option.some.inj hold
      exact .unsupported _ _ _
  have haccept : Arguments.accept order (.ofLists [] [("lines", .array [])]) =
      .ok (.keyword (.ofList [("lines", .array [])])) := by
    decide +kernel
  have hcheck : check order (.object [("lines", .array [.object []])]) "$" = .ok () := by
    decide +kernel
  obtain ⟨-, haccepts, hold, hnew⟩ := Extends.accepted_and_projected_alike hextends .order
  obtain ⟨hchecks, -⟩ := Extends.accepted_and_projected_alike hextends
    (.object [("lines", .array [.object []])])
  exact ⟨hextends, ⟨haccept, haccepts _ _ haccept⟩, ⟨hcheck, hchecks "$" hcheck⟩,
    by decide +kernel, hold, hnew, by decide +kernel⟩

end SchemaCall.Schema
