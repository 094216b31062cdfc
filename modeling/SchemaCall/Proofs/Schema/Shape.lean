import Mathlib.Data.List.Nodup
import Mathlib.Data.List.Perm.Subperm
import SchemaCall.Call.Arguments
import SchemaCall.Proofs.Entries
import SchemaCall.Proofs.Schema.Violations
import SchemaCall.Schema.Conformance

/-!
# The shape of a schema

Two schemas are of one shape if they differ only in documentation and in the order of structure
members. The shape is all that checking and projection see of a schema (`SameShape.check_eq`,
`SameShape.project_eq`), and checking sees all of it: two schemas of different shapes give different
outcomes on some value (`sameShape_of_forall_check_eq`). On schemas that declare no member twice, to
be of one shape is to be equivalent once the documentation is taken away
(`sameShape_iff_equivalent`).
-/

namespace SchemaCall

/-- Scalars of one tag are one scalar. -/
theorem Scalar.tag_injective {j k : Scalar} (h : j.tag = k.tag) : j = k := by
  cases j <;> cases k <;> first | rfl | exact absurd h (by decide)

namespace Schema

/-- The schemas agree at every depth, up to documentation and the order of structure members. -/
inductive SameShape : Schema → Schema → Prop where
  | scalar (kind : Scalar) (c d : Option String) : SameShape (.scalar kind c) (.scalar kind d)
  | list {a b : Schema} (c d : Option String) (element : SameShape a b) :
      SameShape (.list a c) (.list b d)
  | struct {as bs : List (String × Schema)} (c d : Option String)
      (names : ∀ name, name ∈ Entries.names as ↔ name ∈ Entries.names bs)
      (each : ∀ name a b, Entries.get? as name = some a → Entries.get? bs name = some b →
        SameShape a b) : SameShape (.struct as c) (.struct bs d)
  | unsupported (tag : String) (c d : Option String) :
      SameShape (.unsupported tag c) (.unsupported tag d)

/-! ## What is seen of a schema -/

private theorem checkItems_congr {a b : Schema}
    (h : ∀ value path, check a value path = check b value path) (items : List Json) (index : ℕ)
    (path : String) : checkItems a items index path = checkItems b items index path := by
  induction items generalizing index with
  | nil => rfl
  | cons item rest ih => rw [checkItems, checkItems, h, ih]

private theorem checkFields_congr {as bs : List (String × Schema)}
    (h : ∀ name, Option.Rel (fun a b => ∀ value path, check a value path = check b value path)
      (Entries.get? as name) (Entries.get? bs name)) (fields : List (String × Json))
    (path : String) : checkFields as fields path = checkFields bs fields path := by
  induction fields with
  | nil => rfl
  | cons field rest ih =>
    obtain ⟨name, value⟩ := field
    rw [checkFields, checkFields, ih]
    have hname := h name
    generalize Entries.get? as name = found at hname
    generalize Entries.get? bs name = other at hname
    cases hname with
    | none => rfl
    | some hmember =>
      dsimp only
      rw [hmember]

/-- Checking does not tell schemas of one shape apart. -/
theorem SameShape.check_eq {a b : Schema} (h : SameShape a b) (value : Json) (path : String) :
    check a value path = check b value path := by
  induction h generalizing value path with
  | scalar kind c d => rw [check, check]
  | list c d _ ih =>
    cases value with
    | array items => exact checkItems_congr ih items 0 path
    | _ => rfl
  | struct c d names _ ih =>
    cases value with
    | object fields => exact checkFields_congr (Entries.rel_get? names ih) fields path
    | _ => rfl
  | unsupported tag c d => rw [check, check]

private theorem projectItems_congr {a b : Schema} (h : ∀ value, project a value = project b value)
    (items : List Json) : projectItems a items = projectItems b items := by
  induction items with
  | nil => rfl
  | cons item rest ih => rw [projectItems, projectItems, h, ih]

private theorem projectFields_congr {as bs : List (String × Schema)}
    (h : ∀ name, Option.Rel (fun a b => ∀ value, project a value = project b value)
      (Entries.get? as name) (Entries.get? bs name)) (fields : List (String × Json)) :
    projectFields as fields = projectFields bs fields := by
  induction fields with
  | nil => rfl
  | cons field rest ih =>
    obtain ⟨name, value⟩ := field
    rw [projectFields, projectFields, ih]
    have hname := h name
    generalize Entries.get? as name = found at hname
    generalize Entries.get? bs name = other at hname
    cases hname with
    | none => rfl
    | some hmember =>
      dsimp only
      rw [hmember]

/-- Projection through schemas of one shape leaves the same, in the same order. -/
theorem SameShape.project_eq {a b : Schema} (h : SameShape a b) (value : Json) :
    project a value = project b value := by
  induction h generalizing value with
  | scalar kind c d => cases value <;> rfl
  | list c d _ ih =>
    cases value with
    | array items => exact congrArg Json.array (projectItems_congr ih items)
    | _ => rfl
  | struct c d names _ ih =>
    cases value with
    | object fields =>
      exact congrArg Json.object (projectFields_congr (Entries.rel_get? names ih) fields)
    | _ => rfl
  | unsupported tag c d => cases value <;> rfl

/-- Arguments are accepted, refused and sent alike under schemas of one shape. -/
theorem SameShape.accept_eq {a b : Schema} (h : SameShape a b) (args : Arguments) :
    args.accept a = args.accept b := by
  cases hparams : args.params? with
  | error error => rw [Arguments.accept, Arguments.accept, hparams]
  | ok params =>
    rw [Arguments.accept_of_params? hparams, Arguments.accept_of_params? hparams, h.check_eq]

/-! ## Values that tell shapes apart -/

/-- What checking says about null: every known kind misses a value of its own. -/
def nullViolation (schema : Schema) (path : String) : Violation :=
  match schema with
  | .unsupported tag _ => .unsupportedKind tag path
  | _ => .mismatch path .null schema.tag

/-- No schema accepts null. -/
theorem check_null (schema : Schema) (path : String) :
    check schema .null path = .error (schema.nullViolation path) := by
  cases schema with
  | scalar kind documentation => cases kind <;> rfl
  | _ => rfl

/-- The nodes are of one kind, whatever is below them. -/
def SameKind : Schema → Schema → Prop
  | .scalar j _, .scalar k _ => j = k
  | .list .., .list .. => True
  | .struct .., .struct .. => True
  | .unsupported s _, .unsupported t _ => s = t
  | _, _ => False

/-- Nodes that say the same about null are of one kind. -/
theorem sameKind_of_nullViolation_eq {a b : Schema} {path : String}
    (h : a.nullViolation path = b.nullViolation path) : SameKind a b := by
  cases a with
  | scalar j c =>
    cases b with
    | scalar k d => exact Scalar.tag_injective (Violation.typeMismatch.inj h).2.2.2
    | unsupported tag d => contradiction
    | _ => cases j <;> exact absurd (Violation.typeMismatch.inj h).2.2.2 (by simp [tag, Scalar.tag])
  | unsupported tag c =>
    cases b with
    | unsupported other d => exact (Violation.unsupportedKind.inj h).1
    | _ => contradiction
  | _ =>
    cases b with
    | scalar k d =>
      cases k <;> exact absurd (Violation.typeMismatch.inj h).2.2.2 (by simp [tag, Scalar.tag])
    | unsupported tag d => contradiction
    | _ => first | trivial | exact absurd (Violation.typeMismatch.inj h).2.2.2 (by simp [tag])

/-- Nodes that checking does not tell apart by null are of one kind. -/
theorem sameKind_of_check_null_eq {a b : Schema} {path : String}
    (h : check a .null path = check b .null path) : SameKind a b := by
  rw [check_null, check_null] at h
  exact sameKind_of_nullViolation_eq (Except.error.inj h)

/-- What is reported of null is never an unknown parameter. -/
theorem nullViolation_ne_unknownParameter (schema : Schema) (path name other : String) :
    schema.nullViolation path ≠ .unknownParameter name other := by
  cases schema <;> exact nofun

/-- An array of one item is checked as the item is. -/
theorem check_singleton (element : Schema) (documentation : Option String) (item : Json)
    (path : String) :
    check (.list element documentation) (.array [item]) path =
      check element item (itemPath path 0) := by
  rw [check, checkItems]
  cases check element item (itemPath path 0) <;> rfl

/-- An object of one declared member is checked as the member is. -/
theorem check_field {members : List (String × Schema)} {name : String} {member : Schema}
    (h : Entries.get? members name = some member) (documentation : Option String) (value : Json)
    (path : String) :
    check (.struct members documentation) (.object [(name, value)]) path =
      check member value (memberPath path name) := by
  rw [check, checkFields, h]
  dsimp only
  cases check member value (memberPath path name) <;> rfl

/-- An object of one undeclared member is refused for it. -/
theorem check_undeclared_field {members : List (String × Schema)} {name : String}
    (h : Entries.get? members name = none) (documentation : Option String) (value : Json)
    (path : String) :
    check (.struct members documentation) (.object [(name, value)]) path =
      .error (.unknownParameter name path) := by
  rw [check, checkFields, h]

private theorem distinct_singleton {item : Json} (h : item.Distinct) :
    (Json.array [item]).Distinct :=
  ⟨h, trivial⟩

private theorem distinct_field {value : Json} (h : value.Distinct) (name : String) :
    (Json.object [(name, value)]).Distinct :=
  ⟨List.nodup_singleton name, h, trivial⟩

/-- A null under a name tells whether a structure declares the name. -/
private theorem mem_names_of_check_eq {as bs : List (String × Schema)} {c d : Option String}
    {path name : String}
    (h : check (.struct as c) (.object [(name, .null)]) path =
      check (.struct bs d) (.object [(name, .null)]) path)
    (hname : name ∈ Entries.names as) : name ∈ Entries.names bs := by
  by_contra hmissing
  have hb : Entries.get? bs name = none := Entries.get?_eq_none_iff.mpr hmissing
  obtain ⟨member, ha⟩ := Option.isSome_iff_exists.mp (Entries.isSome_get?_iff.mpr hname)
  rw [check_field ha, check_undeclared_field hb, check_null] at h
  exact nullViolation_ne_unknownParameter _ _ _ _ (Except.error.inj h)

/-- Schemas that checking does not tell apart are of one shape. The kinds are told apart by null;
elements and members by values that are put into an array of one item or an object of one member,
at the path of the item or member. -/
theorem sameShape_of_forall_check_eq {a b : Schema} {path : String}
    (h : ∀ value : Json, value.Distinct → check a value path = check b value path) :
    SameShape a b := by
  have hkind : SameKind a b := sameKind_of_check_null_eq (h .null trivial)
  induction a generalizing b path with
  | scalar j c =>
    cases b with
    | scalar k d =>
      obtain rfl : j = k := hkind
      exact .scalar j c d
    | _ => exact hkind.elim
  | list element c ih =>
    cases b with
    | list other d =>
      -- a list of one value shows what the element says of the value
      have helement : ∀ value : Json, value.Distinct →
          check element value (itemPath path 0) = check other value (itemPath path 0) := by
        intro value hvalue
        have hchecks := h (.array [value]) (distinct_singleton hvalue)
        rwa [check_singleton, check_singleton] at hchecks
      exact .list c d (ih helement (sameKind_of_check_null_eq (helement .null trivial)))
    | _ => exact hkind.elim
  | struct as c ih =>
    cases b with
    | struct bs d =>
      -- an object with null under a name shows whether the name is declared
      have hnull (name : String) := h (.object [(name, .null)]) (distinct_field (by trivial) name)
      refine .struct c d (fun name => ?_) fun name member other hmember hother => ?_
      · exact ⟨mem_names_of_check_eq (hnull name), mem_names_of_check_eq (hnull name).symm⟩
      · have hmembers : ∀ value : Json, value.Distinct →
            check member value (memberPath path name) =
              check other value (memberPath path name) := by
          intro value hvalue
          have hchecks := h (.object [(name, value)]) (distinct_field hvalue name)
          rwa [check_field hmember, check_field hother] at hchecks
        exact ih (name, member) (Entries.mem_of_get? hmember) hmembers
          (sameKind_of_check_null_eq (hmembers .null trivial))
    | _ => exact hkind.elim
  | unsupported tag c =>
    cases b with
    | unsupported other d =>
      obtain rfl : tag = other := hkind
      exact .unsupported tag c d
    | _ => exact hkind.elim

/-! ## Equality without documentation -/

mutual

/-- The schema without its documentation, at every depth. -/
def undocumented : Schema → Schema
  | .scalar kind _ => .scalar kind none
  | .list element _ => .list element.undocumented none
  | .struct members _ => .struct (undocumentedMembers members) none
  | .unsupported tag _ => .unsupported tag none

/-- The members of a structure without their documentation. -/
def undocumentedMembers : List (String × Schema) → List (String × Schema)
  | [] => []
  | (name, member) :: rest => (name, member.undocumented) :: undocumentedMembers rest

end

private theorem undocumentedMembers_eq_map (members : List (String × Schema)) :
    undocumentedMembers members =
      members.map fun member => (member.1, member.2.undocumented) := by
  induction members with
  | nil => rfl
  | cons member rest ih => rw [undocumentedMembers, ih, List.map_cons]

/-- Members are equivalent to others if each of them has its equivalent under its name. -/
theorem equivalentMembers_iff {as bs : List (String × Schema)} :
    equivalentMembers as bs = true ↔
      ∀ member ∈ as, ∃ other, Entries.get? bs member.1 = some other ∧
        equivalent member.2 other = true := by
  induction as with
  | nil => simp [equivalentMembers]
  | cons member rest ih =>
    obtain ⟨name, member⟩ := member
    rw [equivalentMembers, Bool.and_eq_true, ih, List.forall_mem_cons]
    refine and_congr_left fun _ => ?_
    cases Entries.get? bs name <;> simp

private theorem equivalentMembers_undocumented_iff {as bs : List (String × Schema)} :
    equivalentMembers (undocumentedMembers as) (undocumentedMembers bs) = true ↔
      ∀ member ∈ as, ∃ other, Entries.get? bs member.1 = some other ∧
        equivalent member.2.undocumented other.undocumented = true := by
  rw [equivalentMembers_iff, undocumentedMembers_eq_map, undocumentedMembers_eq_map,
    List.forall_mem_map]
  simp only [Entries.get?_map, Option.map_eq_some_iff, exists_exists_and_eq_and]

/-- As many different names, all of them in the other list, are all names of the other list. -/
private theorem mem_names_iff_of_subset {as bs : List (String × Schema)}
    (distinct : Entries.Distinct as) (length : as.length = bs.length)
    (h : Entries.names as ⊆ Entries.names bs) (name : String) :
    name ∈ Entries.names as ↔ name ∈ Entries.names bs := by
  have hlength : (Entries.names bs).length ≤ (Entries.names as).length := by
    rw [Entries.names, Entries.names, List.length_map, List.length_map, length]
  have hperm := (List.Nodup.subperm distinct h).perm_of_length_le hlength
  exact hperm.mem_iff

private theorem sameShape_scalar_iff {j k : Scalar} {c d : Option String} :
    SameShape (.scalar j c) (.scalar k d) ↔ j = k := by
  constructor
  · rintro ⟨⟩
    rfl
  · rintro rfl
    exact .scalar j c d

private theorem sameShape_unsupported_iff {tag other : String} {c d : Option String} :
    SameShape (.unsupported tag c) (.unsupported other d) ↔ tag = other := by
  constructor
  · rintro ⟨⟩
    rfl
  · rintro rfl
    exact .unsupported tag c d

private theorem sameShape_list_iff {a b : Schema} {c d : Option String} :
    SameShape (.list a c) (.list b d) ↔ SameShape a b :=
  ⟨fun | .list _ _ element => element, .list c d⟩

private theorem sameShape_struct_iff {as bs : List (String × Schema)} {c d : Option String} :
    SameShape (.struct as c) (.struct bs d) ↔
      (∀ name, name ∈ Entries.names as ↔ name ∈ Entries.names bs) ∧
        ∀ name a b, Entries.get? as name = some a → Entries.get? bs name = some b →
          SameShape a b :=
  ⟨fun | .struct _ _ names each => ⟨names, each⟩, fun h => .struct c d h.1 h.2⟩

/-- Structures that declare no name twice agree in their names and members if and only if they have
as many members, and each of one has its like in the other. -/
theorem members_agree_iff {R : Schema → Schema → Prop} {as bs : List (String × Schema)}
    (ha : Entries.Distinct as) (hb : Entries.Distinct bs) :
    ((∀ name, name ∈ Entries.names as ↔ name ∈ Entries.names bs) ∧
        ∀ name a b, Entries.get? as name = some a → Entries.get? bs name = some b → R a b) ↔
      as.length = bs.length ∧
        ∀ member ∈ as, ∃ other, Entries.get? bs member.1 = some other ∧ R member.2 other := by
  constructor
  · rintro ⟨names, each⟩
    constructor
    · have hperm : (Entries.names as).Perm (Entries.names bs) :=
        (List.perm_ext_iff_of_nodup ha hb).mpr names
      have hlength := hperm.length_eq
      rwa [Entries.names, Entries.names, List.length_map, List.length_map] at hlength
    · intro member hmember
      have hname : member.1 ∈ Entries.names bs :=
        (names member.1).mp (Entries.mem_names_of_mem hmember)
      obtain ⟨other, hother⟩ := Option.isSome_iff_exists.mp (Entries.isSome_get?_iff.mpr hname)
      exact ⟨other, hother, each member.1 member.2 other (Entries.get?_of_mem ha hmember) hother⟩
  · rintro ⟨length, each⟩
    constructor
    -- as many names, and all of one among those of the other, are the same names
    · refine mem_names_iff_of_subset ha length fun name hname => ?_
      obtain ⟨member, hmember, rfl⟩ := List.mem_map.mp hname
      obtain ⟨other, hother, -⟩ := each member hmember
      exact Entries.isSome_get?_iff.mp (by rw [hother]; rfl)
    · intro name a b hmember hother
      obtain ⟨found, hfound, hrel⟩ := each (name, a) (Entries.mem_of_get? hmember)
      obtain rfl : found = b := Option.some.inj (hfound.symm.trans hother)
      exact hrel

/-- Where no structure declares a member twice, schemas are of one shape if and only if they are
equivalent without their documentation. -/
theorem sameShape_iff_equivalent {a b : Schema} (ha : a.Distinct) (hb : b.Distinct) :
    SameShape a b ↔ equivalent a.undocumented b.undocumented = true := by
  induction a generalizing b with
  | scalar j c =>
    cases b with
    | scalar k d =>
      rw [sameShape_scalar_iff]
      simp [undocumented, equivalent]
    | _ => exact iff_of_false (by rintro ⟨⟩) (by simp [undocumented, equivalent])
  | list element c ih =>
    cases b with
    | list other d =>
      have helement : SameShape element other ↔
          equivalent element.undocumented other.undocumented = true := ih ha hb
      rw [sameShape_list_iff, helement]
      simp [undocumented, equivalent]
    | _ => exact iff_of_false (by rintro ⟨⟩) (by simp [undocumented, equivalent])
  | struct as c ih =>
    cases b with
    | struct bs d =>
      have hlength (members : List (String × Schema)) :
          (undocumentedMembers members).length = members.length := by
        rw [undocumentedMembers_eq_map, List.length_map]
      -- the definition counts members, where the shapes compare names
      rw [sameShape_struct_iff, members_agree_iff ha.1 hb.1, undocumented, undocumented, equivalent,
        hlength, hlength, Bool.and_eq_true, Bool.and_eq_true, decide_eq_true_iff,
        equivalentMembers_undocumented_iff, decide_eq_true rfl, and_iff_left rfl]
      refine and_congr_right fun _ => forall₂_congr fun member hmember => ?_
      refine exists_congr fun other => and_congr_right fun hother => ?_
      exact ih member hmember (distinctMembers_iff.mp ha.2 member hmember)
        (distinctMembers_iff.mp hb.2 _ (Entries.mem_of_get? hother))
    | _ => exact iff_of_false (by rintro ⟨⟩) (by simp [undocumented, equivalent])
  | unsupported tag c =>
    cases b with
    | unsupported other d =>
      rw [sameShape_unsupported_iff]
      simp [undocumented, equivalent]
    | _ => exact iff_of_false (by rintro ⟨⟩) (by simp [undocumented, equivalent])

/-! ## Shape and checking -/

/-- Two schemas are of one shape if and only if checking gives the same outcome, verdict and
violation, for every value at any one path. Then projection leaves the same of every value, and all
arguments are accepted as the same parameters or refused with the same error. To be of one shape is
equality of schemas without documentation, up to member order. -/
theorem sameShape_iff_forall_check_eq (a b : Schema) (path : String) :
    (SameShape a b ↔
      ∀ value : Json, value.Distinct → check a value path = check b value path) ∧
    (SameShape a b →
      (∀ value path, check a value path = check b value path) ∧
      (∀ value, project a value = project b value) ∧
      ∀ args : Arguments, args.accept a = args.accept b) ∧
    (a.Distinct → b.Distinct →
      (SameShape a b ↔ equivalent a.undocumented b.undocumented = true)) :=
  ⟨⟨fun h value _ => h.check_eq value path, sameShape_of_forall_check_eq⟩,
    fun h => ⟨h.check_eq, h.project_eq, h.accept_eq⟩, sameShape_iff_equivalent⟩

/-- The schema of orders with its members in another order, and in other words. -/
def orderInWords : Schema :=
  .struct [("weight", .unsupported "float" (some "In kilograms.")),
    ("lines", .list (.struct [("count", .scalar .integer (some "How many."))] none) (some "All."))]
    (some "An order.")

/-- An order is checked and projected in the same way whatever is said about it, and in another way
if its counts may be texts. -/
theorem sameShape_iff_forall_check_eq_order :
    (SameShape .order .orderInWords ∧
      check .orderInWords .order "$" =
        .error (.typeMismatch "$.lines[1].count" (.string "two") "string" "integer") ∧
      project .order .order = project .orderInWords .order ∧
      Arguments.accept .orderInWords (.ofLists [] [("note", .null)]) =
        .error (.nonconforming (.unknownParameter "note" "$"))) ∧
    ¬SameShape .order (.struct [("lines", .list (.struct [("count", .scalar .string none)] none)
      none), ("weight", .unsupported "float" none)] none) := by
  obtain ⟨-, hsame, hequivalent⟩ := sameShape_iff_forall_check_eq .order .orderInWords "$"
  have hdistinct : Schema.order.Distinct ∧ Schema.orderInWords.Distinct := by
    simp [order, orderInWords, Schema.Distinct, DistinctMembers, Entries.Distinct]
  have hshape : SameShape .order .orderInWords :=
    (hequivalent hdistinct.1 hdistinct.2).mpr (by decide +kernel)
  obtain ⟨hcheck, hproject, haccept⟩ := hsame hshape
  refine ⟨⟨hshape, ?_, hproject .order, ?_⟩, fun hother => ?_⟩
  · rw [← hcheck]
    decide +kernel
  · rw [← haccept]
    decide +kernel
  · have hchecks := ((sameShape_iff_forall_check_eq _ _ "$").2.1 hother).1
      (.object [("lines", .array [.object [("count", .null)]])]) "$"
    exact absurd hchecks (by decide +kernel)

end Schema

end SchemaCall
