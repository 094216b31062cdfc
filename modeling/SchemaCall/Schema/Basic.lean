import SchemaCall.Entries

/-!
# Schemas

A schema describes the shape of one value: a scalar, a list of one kind of element, or a structure
of named members in declaration order. A model may use kinds that this library does not know; they
are kept under their tag, so that the model still loads, and are listed by `unsupported`.

`equivalent` compares two schemas up to the order of their structure members, documentation
included; it is what equality of models means.
-/

namespace SchemaCall

/-- The kinds of scalar values. -/
inductive Scalar where
  | string
  | integer
  | boolean
  deriving DecidableEq, Repr

/-- The tag of a scalar kind. -/
def Scalar.tag : Scalar → String
  | .string => "string"
  | .integer => "integer"
  | .boolean => "boolean"

/-- A schema node with everything below it. -/
inductive Schema where
  | scalar (kind : Scalar) (documentation : Option String)
  | list (element : Schema) (documentation : Option String)
  | struct (members : List (String × Schema)) (documentation : Option String)
  | unsupported (tag : String) (documentation : Option String)

namespace Schema

/-- Induction over a schema and everything below it. -/
@[elab_as_elim, induction_eliminator]
theorem induction {motive : Schema → Prop}
    (scalar : ∀ kind documentation, motive (.scalar kind documentation))
    (list : ∀ element documentation, motive element → motive (.list element documentation))
    (struct : ∀ members documentation, (∀ member ∈ members, motive member.2) →
      motive (.struct members documentation))
    (unsupported : ∀ tag documentation, motive (.unsupported tag documentation))
    (schema : Schema) : motive schema :=
  @Schema.rec motive (fun members => ∀ member ∈ members, motive member.2)
    (fun member => motive member.2) scalar list struct unsupported
    (fun _ h => nomatch h)
    (fun _ _ head tail => by
      intro member h
      rcases List.mem_cons.mp h with rfl | h
      · exact head
      · exact tail member h)
    (fun _ _ h => h) schema

instance : Inhabited Schema := ⟨.unsupported "" none⟩

/-! ## Views -/

/-- The tag of a node, as written in a model document. -/
def tag : Schema → String
  | .scalar kind _ => kind.tag
  | .list .. => "list"
  | .struct .. => "structure"
  | .unsupported tag _ => tag

/-- The documentation of a node, if it has one. -/
def documentation? : Schema → Option String
  | .scalar _ documentation => documentation
  | .list _ documentation => documentation
  | .struct _ documentation => documentation
  | .unsupported _ documentation => documentation

/-- The documentation of a node, empty if it has none. -/
def documentation (schema : Schema) : String :=
  schema.documentation?.getD ""

/-- The same node with other documentation. -/
def withDocumentation (text : String) : Schema → Schema
  | .scalar kind _ => .scalar kind (some text)
  | .list element _ => .list element (some text)
  | .struct members _ => .struct members (some text)
  | .unsupported tag _ => .unsupported tag (some text)

/-- The members of a structure. -/
def members? : Schema → Option (List (String × Schema))
  | .struct members _ => some members
  | _ => none

/-- The element of a list. -/
def element? : Schema → Option Schema
  | .list element _ => some element
  | _ => none

/-- The name of the type that a node describes, such as `list<integer>`. -/
def typeName : Schema → String
  | .list element _ => "list<" ++ element.typeName ++ ">"
  | .scalar kind _ => kind.tag
  | .struct .. => "structure"
  | .unsupported tag _ => tag

/-- Can arguments be given to a node at all: is it a structure or a list? -/
def isContainer : Schema → Bool
  | .struct .. | .list .. => true
  | _ => false

mutual

/-- The nodes of unknown kind below a node that stands at the given path, each with its path and
tag, depth first in declaration order. -/
def unsupportedBelow : Schema → (path : String) → List (String × String)
  | .scalar .., _ => []
  | .list element _, path => unsupportedBelow element (path ++ "[]")
  | .struct members _, path => unsupportedMembers members path
  | .unsupported tag _, path => [(path, tag)]

/-- The nodes of unknown kind below the members of a structure. -/
def unsupportedMembers : List (String × Schema) → (path : String) → List (String × String)
  | [], _ => []
  | (name, member) :: rest, path =>
    unsupportedBelow member (path ++ "." ++ name) ++ unsupportedMembers rest path

end

/-- The nodes of unknown kind in a schema, each with its path from the root `$` and its tag. -/
def unsupportedNodes (schema : Schema) : List (String × String) :=
  schema.unsupportedBelow "$"

/-! ## Equality -/

mutual

/-- Are two schemas the same, member order included? -/
def same : Schema → Schema → Bool
  | .scalar j c, .scalar k d => decide (j = k) && decide (c = d)
  | .list a c, .list b d => same a b && decide (c = d)
  | .struct a c, .struct b d => sameMembers a b && decide (c = d)
  | .unsupported s c, .unsupported t d => decide (s = t) && decide (c = d)
  | _, _ => false

/-- Are two lists of members the same member by member? -/
def sameMembers : List (String × Schema) → List (String × Schema) → Bool
  | [], [] => true
  | (j, a) :: as, (k, b) :: bs => decide (j = k) && (same a b && sameMembers as bs)
  | _, _ => false

end

private theorem sameSchemas_iff {as : List (String × Schema)}
    (ih : ∀ a ∈ as, ∀ b, same a.2 b = true ↔ a.2 = b) :
    ∀ bs, sameMembers as bs = true ↔ as = bs := by
  induction as with
  | nil => intro bs; cases bs <;> simp [sameMembers]
  | cons a as iha =>
    obtain ⟨j, a⟩ := a
    intro bs
    cases bs with
    | nil => simp [sameMembers]
    | cons b bs =>
      obtain ⟨k, b⟩ := b
      rw [sameMembers, Bool.and_eq_true, Bool.and_eq_true, ih (j, a) (by simp) b,
        iha (fun x hx => ih x (List.mem_cons_of_mem _ hx)) bs, List.cons.injEq, Prod.mk.injEq,
        and_assoc, decide_eq_true_iff]

/-- `same` decides equality. -/
theorem same_iff {a b : Schema} : same a b = true ↔ a = b := by
  induction a generalizing b with
  | scalar => cases b <;> simp [same]
  | list element _ ih => cases b <;> simp [same, ih]
  | struct members _ ih => cases b <;> simp [same, sameSchemas_iff fun a ha b => ih a ha]
  | unsupported => cases b <;> simp [same]

instance : DecidableEq Schema := fun _ _ => decidable_of_iff _ same_iff

mutual

/-- Are two schemas equal up to the order of structure members? Documentation counts. -/
def equivalent : Schema → Schema → Bool
  | .scalar j c, .scalar k d => decide (j = k) && decide (c = d)
  | .list a c, .list b d => equivalent a b && decide (c = d)
  | .struct a c, .struct b d =>
    decide (a.length = b.length) && equivalentMembers a b && decide (c = d)
  | .unsupported s c, .unsupported t d => decide (s = t) && decide (c = d)
  | _, _ => false

/-- Has each member an equivalent one of the same name in the other structure? -/
def equivalentMembers : List (String × Schema) → List (String × Schema) → Bool
  | [], _ => true
  | (name, member) :: rest, others =>
    (match Entries.get? others name with
      | some other => equivalent member other
      | none => false) && equivalentMembers rest others

end

mutual

/-- No structure in the schema, at any depth, declares a member twice. -/
def Distinct : Schema → Prop
  | .list element _ => element.Distinct
  | .struct members _ => Entries.Distinct members ∧ DistinctMembers members
  | _ => True

/-- The schema of each member is `Distinct`. -/
def DistinctMembers : List (String × Schema) → Prop
  | [] => True
  | (_, member) :: rest => member.Distinct ∧ DistinctMembers rest

end

/-- The clause for the members of a structure, over all of them at once. -/
theorem distinctMembers_iff {members : List (String × Schema)} :
    DistinctMembers members ↔ ∀ member ∈ members, member.2.Distinct := by
  induction members with
  | nil => simp [DistinctMembers]
  | cons member rest ih =>
    obtain ⟨name, schema⟩ := member
    simp [DistinctMembers, ih]

end Schema

end SchemaCall
