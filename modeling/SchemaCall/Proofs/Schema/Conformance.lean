import SchemaCall.Proofs.Json.Alike
import SchemaCall.Schema.Conformance

/-!
# Conforming values

`Conforms` says, without paths and without an order of steps, when a value is of the shape that a
schema describes. Checking succeeds on exactly these values (`check_eq_ok_iff`). The order of object
members does not matter for it (`Conforms.alike`), although it does matter for which violation a
failing check reports.
-/

namespace SchemaCall.Schema

/-- The value is of the shape that the schema describes: a text, an integer of at most 64 bits, a
truth value, an array whose items conform to the element of a list, or an object whose members are
declared by a structure and conform to what they are declared as. A declared member may be missing.
Nothing conforms to a node of unknown kind. -/
inductive Conforms : Schema → Json → Prop where
  | string {documentation : Option String} (content : String) :
      Conforms (.scalar .string documentation) (.string content)
  | integer {documentation : Option String} (value : Int)
      (fits : -0x8000000000000000 ≤ value ∧ value ≤ 0xffffffffffffffff) :
      Conforms (.scalar .integer documentation) (.number (.integer value fits))
  | boolean {documentation : Option String} (value : Bool) :
      Conforms (.scalar .boolean documentation) (.bool value)
  | list {element : Schema} {documentation : Option String} {items : List Json}
      (each : ∀ item ∈ items, Conforms element item) :
      Conforms (.list element documentation) (.array items)
  | struct {members : List (String × Schema)} {documentation : Option String}
      {fields : List (String × Json)}
      (declared : ∀ field ∈ fields, (Entries.get? members field.1).isSome)
      (each : ∀ field ∈ fields, ∀ member, Entries.get? members field.1 = some member →
        Conforms member field.2) :
      Conforms (.struct members documentation) (.object fields)

/-- The values of a scalar kind are those that the checker accepts for it. -/
theorem conforms_scalar_iff {kind : Scalar} {documentation : Option String} {value : Json} :
    Conforms (.scalar kind documentation) value ↔ kind.accepts value = true := by
  constructor
  · intro h
    cases h with
    | string content => rfl
    | integer value fits => rfl
    | boolean value => rfl
  · intro h
    cases value with
    | string content =>
      cases kind with
      | string => exact .string content
      | _ => contradiction
    | number number =>
      cases kind with
      | integer =>
        cases number with
        | integer value fits => exact .integer value fits
        | double value => contradiction
      | _ => contradiction
    | bool value =>
      cases kind with
      | boolean => exact .boolean value
      | _ => contradiction
    | _ => cases kind <;> contradiction

/-- An array conforms to a list if its items conform to the element. -/
theorem conforms_list_iff {element : Schema} {documentation : Option String} {items : List Json} :
    Conforms (.list element documentation) (.array items) ↔
      ∀ item ∈ items, Conforms element item :=
  ⟨fun | .list each => each, .list⟩

/-- An object conforms to a structure if each of its fields is a member and conforms to it. -/
theorem conforms_struct_iff {members : List (String × Schema)} {documentation : Option String}
    {fields : List (String × Json)} :
    Conforms (.struct members documentation) (.object fields) ↔
      ∀ field ∈ fields, ∃ member, Entries.get? members field.1 = some member ∧
        Conforms member field.2 := by
  constructor
  · intro h field hfield
    obtain ⟨declared, each⟩ : (∀ field ∈ fields, (Entries.get? members field.1).isSome) ∧
        ∀ field ∈ fields, ∀ member, Entries.get? members field.1 = some member →
          Conforms member field.2 := by
      cases h with
      | struct declared each => exact ⟨declared, each⟩
    obtain ⟨member, hmember⟩ := Option.isSome_iff_exists.mp (declared field hfield)
    exact ⟨member, hmember, each field hfield member hmember⟩
  · intro h
    refine .struct (fun field hfield => ?_) (fun field hfield member hmember => ?_)
    · obtain ⟨member, hmember, -⟩ := h field hfield
      rw [hmember, Option.isSome_some]
    · obtain ⟨declared, hdeclared, hconforms⟩ := h field hfield
      obtain rfl : member = declared := Option.some.inj (hmember.symm.trans hdeclared)
      exact hconforms

/-- No scalar accepts an array. -/
@[simp] theorem scalar_accepts_array (kind : Scalar) (items : List Json) :
    kind.accepts (.array items) = false := by
  cases kind <;> rfl

/-- No scalar accepts an object. -/
@[simp] theorem scalar_accepts_object (kind : Scalar) (fields : List (String × Json)) :
    kind.accepts (.object fields) = false := by
  cases kind <;> rfl

/-! ## Checking -/

private theorem checkItems_eq_ok_iff {element : Schema} {items : List Json}
    (ih : ∀ item ∈ items, ∀ path, check element item path = .ok () ↔ Conforms element item)
    (index : ℕ) (path : String) :
    checkItems element items index path = .ok () ↔ ∀ item ∈ items, Conforms element item := by
  induction items generalizing index with
  | nil => simp [checkItems]
  | cons item rest ihrest =>
    have hitem := ih item (by simp) (itemPath path index)
    have hrest := ihrest (fun x hx => ih x (List.mem_cons_of_mem _ hx)) (index + 1)
    rw [checkItems, List.forall_mem_cons, ← hitem, ← hrest]
    split
    · rename_i hok
      simp only [hok, true_and]
    · rename_i hviolation
      simp [hviolation]

private theorem checkFields_eq_ok_iff {members : List (String × Schema)}
    {fields : List (String × Json)}
    (ih : ∀ field ∈ fields, ∀ schema path,
      check schema field.2 path = .ok () ↔ Conforms schema field.2) (path : String) :
    checkFields members fields path = .ok () ↔
      ∀ field ∈ fields, ∃ member, Entries.get? members field.1 = some member ∧
        Conforms member field.2 := by
  induction fields with
  | nil => simp [checkFields]
  | cons field rest ihrest =>
    obtain ⟨name, value⟩ := field
    rw [checkFields, List.forall_mem_cons, ← ihrest fun x hx => ih x (List.mem_cons_of_mem _ hx)]
    -- an undeclared field stops the check; a declared one is checked as its member
    cases hmember : Entries.get? members name with
    | none => simp
    | some member =>
      have hfield := ih (name, value) (by simp) member (memberPath path name)
      simp only [Option.some.injEq, exists_eq_left', ← hfield]
      split
      · rename_i hok
        simp only [hok, true_and]
      · rename_i hviolation
        simp [hviolation]

private theorem check_scalar_eq_ok_iff {kind : Scalar} {documentation : Option String}
    {value : Json} {path : String} :
    check (.scalar kind documentation) value path = .ok () ↔
      Conforms (.scalar kind documentation) value := by
  rw [check, conforms_scalar_iff]
  split <;> simp [*]

/-- Checking succeeds on the values that conform, wherever they stand. -/
theorem check_eq_ok_iff {schema : Schema} {value : Json} {path : String} :
    check schema value path = .ok () ↔ Conforms schema value := by
  induction value generalizing schema path with
  | array items ih =>
    cases schema with
    | scalar kind documentation => exact check_scalar_eq_ok_iff
    | list element documentation =>
      rw [check, conforms_list_iff]
      exact checkItems_eq_ok_iff (fun item hitem path => ih item hitem) 0 path
    | _ => exact ⟨(nomatch ·), (nomatch ·)⟩
  | object fields ih =>
    cases schema with
    | scalar kind documentation => exact check_scalar_eq_ok_iff
    | struct members documentation =>
      rw [check, conforms_struct_iff]
      exact checkFields_eq_ok_iff (fun field hfield schema path => ih field hfield) path
    | _ => exact ⟨(nomatch ·), (nomatch ·)⟩
  | _ =>
    cases schema with
    | scalar kind documentation => exact check_scalar_eq_ok_iff
    | _ => exact ⟨(nomatch ·), (nomatch ·)⟩

/-! ## Member order -/

/-- A value conforms if one that is alike does. -/
theorem Conforms.alike {schema : Schema} {a b : Json} (h : Json.Alike a b)
    (ha : Conforms schema a) : Conforms schema b := by
  induction h generalizing schema with
  | refl value => exact ha
  | @item a b as bs first rest ihfirst ihrest =>
    cases schema with
    | list element documentation =>
      obtain ⟨hfirst, hrest⟩ := List.forall_mem_cons.mp (conforms_list_iff.mp ha)
      have htail : Conforms (.list element documentation) (.array bs) := ihrest (.list hrest)
      exact .list (List.forall_mem_cons.mpr ⟨ihfirst hfirst, conforms_list_iff.mp htail⟩)
    | scalar kind documentation => exact absurd (conforms_scalar_iff.mp ha) (by simp)
    | _ => exact nomatch ha
  | @member name a b as bs first rest ihfirst ihrest =>
    cases schema with
    | struct members documentation =>
      obtain ⟨⟨member, hmember, hfirst⟩, hrest⟩ :=
        List.forall_mem_cons.mp (conforms_struct_iff.mp ha)
      have htail : Conforms (.struct members documentation) (.object bs) :=
        ihrest (conforms_struct_iff.mpr hrest)
      exact conforms_struct_iff.mpr (List.forall_mem_cons.mpr
        ⟨⟨member, hmember, ihfirst hfirst⟩, conforms_struct_iff.mp htail⟩)
    | scalar kind documentation => exact absurd (conforms_scalar_iff.mp ha) (by simp)
    | _ => exact nomatch ha
  -- what a structure asks of fields does not depend on their order
  | @swap j k differ a b rest =>
    cases schema with
    | struct members documentation =>
      have hfields := conforms_struct_iff.mp ha
      have hmem (field : String × Json) (h : field ∈ (k, b) :: (j, a) :: rest) :
          field ∈ (j, a) :: (k, b) :: rest := (List.Perm.swap ..).subset h
      exact conforms_struct_iff.mpr fun field hfield => hfields field (hmem field hfield)
    | scalar kind documentation => exact absurd (conforms_scalar_iff.mp ha) (by simp)
    | _ => exact nomatch ha
  | trans _ _ ihbefore ihafter => exact ihafter (ihbefore ha)

end SchemaCall.Schema
