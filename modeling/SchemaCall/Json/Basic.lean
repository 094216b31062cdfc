import SchemaCall.Decimal
import SchemaCall.Entries

/-!
# JSON values

Call arguments, responses and model documents are JSON values. The members of an object keep the
order in which they were written; `Distinct` says that no object, at any depth, binds a name twice,
which holds of every value that is read from a text.

`Json.induction` is the induction principle to use: an array carries the hypothesis for each item
and an object for the value of each member.
-/

namespace SchemaCall

/-! ## Numbers -/

open Decimal

namespace Json

/-- The integers that fit a signed or an unsigned word of 64 bits. -/
def FitsWord (value : Int) : Prop :=
  -0x8000000000000000 ≤ value ∧ value ≤ 0xffffffffffffffff

instance (value : Int) : Decidable (FitsWord value) :=
  inferInstanceAs (Decidable (_ ∧ _))

/-- A number of a JSON text. -/
inductive Number where
  | integer (value : Int) (fits : FitsWord value)
  | double (value : Binary64)
  deriving DecidableEq

namespace Number

/-- The integer, if it fits a word. -/
def ofInt? (value : Int) : Option Number :=
  if fits : FitsWord value then some (.integer value fits) else none

/-- A word of 64 bits. -/
def ofWord (word : UInt64) : Number :=
  .integer word.toNat ⟨by omega, by have := word.toNat_lt; omega⟩

/-- Is the number an integer? -/
def isInteger : Number → Bool
  | .integer .. => true
  | .double _ => false

/-- The value of an integer that fits a signed word of 64 bits. -/
def toInt64? : Number → Option Int
  | .integer value _ => if value ≤ 0x7fffffffffffffff then some value else none
  | .double _ => none

/-- The digits of an integer, after a minus sign if it is negative. -/
def writeInt (value : Int) : List Char :=
  if value < 0 then '-' :: Nat.toDigits 10 value.natAbs else Nat.toDigits 10 value.natAbs

/-- The text of a number. -/
def write : Number → List Char
  | .integer value _ => writeInt value
  | .double value => value.write

end Number

end Json

/-! ## Values -/

/-- A JSON value. -/
inductive Json where
  | null
  | bool (value : Bool)
  | number (value : Json.Number)
  | string (value : String)
  | array (items : List Json)
  | object (members : List (String × Json))
  deriving Inhabited

namespace Json

/-- Induction over a value and everything below it. -/
@[elab_as_elim, induction_eliminator]
theorem induction {motive : Json → Prop} (null : motive .null)
    (bool : ∀ value, motive (.bool value)) (number : ∀ value, motive (.number value))
    (string : ∀ value, motive (.string value))
    (array : ∀ items, (∀ item ∈ items, motive item) → motive (.array items))
    (object : ∀ members, (∀ member ∈ members, motive member.2) → motive (.object members))
    (value : Json) : motive value :=
  @Json.rec motive (fun items => ∀ item ∈ items, motive item)
    (fun members => ∀ member ∈ members, motive member.2) (fun member => motive member.2)
    null bool number string array object
    (fun _ h => nomatch h)
    (fun _ _ head tail => by
      intro item h
      rcases List.mem_cons.mp h with rfl | h
      · exact head
      · exact tail item h)
    (fun _ h => nomatch h)
    (fun _ _ head tail => by
      intro member h
      rcases List.mem_cons.mp h with rfl | h
      · exact head
      · exact tail member h)
    (fun _ _ h => h) value

/-! ### Equality -/

mutual

/-- Are two values the same, member order included? -/
def same : Json → Json → Bool
  | .null, .null => true
  | .bool a, .bool b => a == b
  | .number a, .number b => decide (a = b)
  | .string a, .string b => a == b
  | .array a, .array b => sameItems a b
  | .object a, .object b => sameMembers a b
  | _, _ => false

/-- Are two arrays the same item by item? -/
def sameItems : List Json → List Json → Bool
  | [], [] => true
  | a :: as, b :: bs => same a b && sameItems as bs
  | _, _ => false

/-- Are two objects the same member by member? -/
def sameMembers : List (String × Json) → List (String × Json) → Bool
  | [], [] => true
  | (j, a) :: as, (k, b) :: bs => j == k && (same a b && sameMembers as bs)
  | _, _ => false

end

private theorem sameItems_iff {as : List Json} (ih : ∀ a ∈ as, ∀ b, same a b = true ↔ a = b) :
    ∀ bs, sameItems as bs = true ↔ as = bs := by
  induction as with
  | nil => intro bs; cases bs <;> simp [sameItems]
  | cons a as iha =>
    intro bs
    cases bs with
    | nil => simp [sameItems]
    | cons b bs =>
      rw [sameItems, Bool.and_eq_true, ih a (by simp) b,
        iha (fun x hx => ih x (List.mem_cons_of_mem _ hx)) bs, List.cons.injEq]

private theorem sameMembers_iff {as : List (String × Json)}
    (ih : ∀ a ∈ as, ∀ b, same a.2 b = true ↔ a.2 = b) :
    ∀ bs, sameMembers as bs = true ↔ as = bs := by
  induction as with
  | nil => intro bs; cases bs <;> simp [sameMembers]
  | cons a as iha =>
    obtain ⟨j, a⟩ := a
    intro bs
    cases bs with
    | nil => simp [sameMembers]
    | cons b bs =>
      obtain ⟨k, b⟩ := b
      rw [sameMembers, Bool.and_eq_true, Bool.and_eq_true, ih (j, a) (by simp) b,
        iha (fun x hx => ih x (List.mem_cons_of_mem _ hx)) bs, List.cons.injEq, Prod.mk.injEq,
        and_assoc, beq_iff_eq]

/-- `same` decides equality. -/
theorem same_iff {a b : Json} : same a b = true ↔ a = b := by
  induction a generalizing b with
  | null => cases b <;> simp [same]
  | bool x => cases b <;> simp [same]
  | number x => cases b <;> simp [same]
  | string x => cases b <;> simp [same]
  | array items ih => cases b <;> simp [same, sameItems_iff fun a ha b => ih a ha]
  | object members ih => cases b <;> simp [same, sameMembers_iff fun a ha b => ih a ha]

instance : DecidableEq Json := fun _ _ => decidable_of_iff _ same_iff

/-! ### Views -/

/-- The member of an object with the given name. -/
def get? : Json → String → Option Json
  | .object members, name => Entries.get? members name
  | _, _ => none

/-- The text of a string. -/
def string? : Json → Option String
  | .string value => some value
  | _ => none

/-- Is this the null value? -/
def isNull : Json → Bool
  | .null => true
  | _ => false

/-- The kind of a value, named as schemas name kinds where they do. -/
def kindName : Json → String
  | .null => "null"
  | .bool _ => "boolean"
  | .number n => if n.isInteger then "integer" else "float"
  | .string _ => "string"
  | .array _ => "list"
  | .object _ => "structure"

mutual

/-- No object in the value, at any depth, binds a name twice. -/
def Distinct : Json → Prop
  | .array items => DistinctItems items
  | .object members => Entries.Distinct members ∧ DistinctMembers members
  | _ => True

/-- Each item is `Distinct`. -/
def DistinctItems : List Json → Prop
  | [] => True
  | item :: rest => item.Distinct ∧ DistinctItems rest

/-- The value of each member is `Distinct`. -/
def DistinctMembers : List (String × Json) → Prop
  | [] => True
  | (_, value) :: rest => value.Distinct ∧ DistinctMembers rest

end

/-- The clause for the items of a list, over all of them at once. -/
theorem distinctItems_iff {items : List Json} :
    DistinctItems items ↔ ∀ item ∈ items, item.Distinct := by
  induction items with
  | nil => simp [DistinctItems]
  | cons item rest ih => simp [DistinctItems, ih]

/-- The clause for the members of an object, over all of them at once. -/
theorem distinctMembers_iff {members : List (String × Json)} :
    DistinctMembers members ↔ ∀ member ∈ members, member.2.Distinct := by
  induction members with
  | nil => simp [DistinctMembers]
  | cons member rest ih =>
    obtain ⟨name, value⟩ := member
    simp [DistinctMembers, ih]

end Json

end SchemaCall
