import Mathlib.Data.Nat.Notation
import SchemaCall.Schema.Conformance

/-!
# Locations in a value

A location is the way down from a value to something inside it. `Json.locations` lists every
location of a value together with what stands there: a value before what is inside it, members and
items in document order. A schema is gone down along the same locations (`Schema.atLocation?`), as
far as it declares what is met on the way.
-/

namespace SchemaCall

namespace Json

/-- One step down into a value. -/
inductive Step where
  | member (name : String)
  | item (index : ℕ)
  deriving DecidableEq

/-- A step, as it is written in a path. -/
def Step.text : Step → String
  | .member name => "." ++ name
  | .item index => "[" ++ toString index ++ "]"

/-- The way from a value to something inside it. -/
abbrev Location := List Step

/-- The path of a location inside a value that stands at `start`. -/
def Location.path (start : String) (location : Location) : String :=
  start ++ String.join (location.map Step.text)

/-- A step to a member adds to a path what the checker adds. -/
theorem Step.append_text_member (start name : String) :
    start ++ (Step.member name).text = memberPath start name := by
  rw [Step.text, memberPath, String.append_assoc]

/-- A step to an item adds to a path what the checker adds. -/
theorem Step.append_text_item (start : String) (index : ℕ) :
    start ++ (Step.item index).text = itemPath start index := by
  simp only [Step.text, itemPath, String.append_assoc]

@[simp] theorem Location.path_nil (start : String) : Location.path start [] = start := by
  simp [Location.path]

@[simp] theorem Location.path_cons (start : String) (step : Step) (location : Location) :
    Location.path start (step :: location) = Location.path (start ++ step.text) location := by
  simp [Location.path, String.append_assoc]

/-! ## All locations -/

mutual

/-- Every location in a value with what stands there, depth first in document order. -/
def locations : Json → List (Location × Json)
  | .array items => ([], .array items) :: itemLocations items 0
  | .object members => ([], .object members) :: memberLocations members
  | value => [([], value)]

/-- The locations in the members of an object. -/
def memberLocations : List (String × Json) → List (Location × Json)
  | [] => []
  | (name, value) :: rest =>
    value.locations.map (fun entry => (.member name :: entry.1, entry.2)) ++ memberLocations rest

/-- The locations in the items of an array, from the given index. -/
def itemLocations : List Json → (index : ℕ) → List (Location × Json)
  | [], _ => []
  | item :: rest, index =>
    item.locations.map (fun entry => (.item index :: entry.1, entry.2)) ++
      itemLocations rest (index + 1)

end

/-- A location in an object, below its root, is one in one of its members. -/
theorem mem_memberLocations_iff {members : List (String × Json)} {location : Location}
    {found : Json} :
    (location, found) ∈ memberLocations members ↔
      ∃ name value rest, (name, value) ∈ members ∧ location = .member name :: rest ∧
        (rest, found) ∈ value.locations := by
  induction members with
  | nil => simp [memberLocations]
  | cons member members ih =>
    obtain ⟨name, value⟩ := member
    rw [memberLocations, List.mem_append, ih, List.mem_map]
    constructor
    · rintro (⟨entry, hentry, heq⟩ | ⟨other, inside, rest, hmem, hrest⟩)
      · obtain ⟨rfl, rfl⟩ := Prod.mk.inj heq
        exact ⟨name, value, entry.1, List.mem_cons_self, rfl, hentry⟩
      · exact ⟨other, inside, rest, List.mem_cons_of_mem _ hmem, hrest⟩
    · rintro ⟨other, inside, rest, hmem, rfl, hfound⟩
      rcases List.mem_cons.mp hmem with heq | hmem
      · obtain ⟨rfl, rfl⟩ := Prod.mk.inj heq
        exact .inl ⟨(rest, found), hfound, rfl⟩
      · exact .inr ⟨other, inside, rest, hmem, rfl, hfound⟩

/-- A location in a list, below its root, is one in one of its items. -/
theorem mem_itemLocations_iff {items : List Json} {index : ℕ} {location : Location}
    {found : Json} :
    (location, found) ∈ itemLocations items index ↔
      ∃ offset item rest, items[offset]? = some item ∧
        location = .item (index + offset) :: rest ∧ (rest, found) ∈ item.locations := by
  induction items generalizing index with
  | nil => simp [itemLocations]
  | cons first items ih =>
    rw [itemLocations, List.mem_append, ih, List.mem_map]
    constructor
    · rintro (⟨entry, hentry, heq⟩ | ⟨offset, item, rest, hitem, rfl, hfound⟩)
      · obtain ⟨rfl, rfl⟩ := Prod.mk.inj heq
        exact ⟨0, first, entry.1, rfl, rfl, hentry⟩
      · exact ⟨offset + 1, item, rest, hitem, by rw [Nat.add_assoc, Nat.add_comm 1], hfound⟩
    · rintro ⟨offset, item, rest, hitem, rfl, hfound⟩
      cases offset with
      | zero =>
        obtain rfl := Option.some.inj hitem
        exact .inl ⟨(rest, found), hfound, rfl⟩
      | succ offset =>
        exact .inr ⟨offset, item, rest, hitem, by rw [Nat.add_assoc, Nat.add_comm 1], hfound⟩

/-- The root comes first, and is listed once. -/
theorem locations_eq_cons (value : Json) :
    ∃ rest, value.locations = ([], value) :: rest ∧ ∀ entry ∈ rest, entry.1 ≠ [] := by
  cases value with
  | array items =>
    refine ⟨itemLocations items 0, rfl, fun entry hentry => ?_⟩
    obtain ⟨offset, item, rest, -, hlocation, -⟩ := mem_itemLocations_iff.mp hentry
    rw [hlocation]
    exact List.cons_ne_nil _ _
  | object members =>
    refine ⟨memberLocations members, rfl, fun entry hentry => ?_⟩
    obtain ⟨name, inside, rest, -, hlocation, -⟩ := mem_memberLocations_iff.mp hentry
    rw [hlocation]
    exact List.cons_ne_nil _ _
  | _ => exact ⟨[], rfl, fun _ h => nomatch h⟩

/-- Every value is at the root of itself. -/
theorem nil_mem_locations (value : Json) : ([], value) ∈ value.locations := by
  obtain ⟨rest, hlocations, -⟩ := value.locations_eq_cons
  rw [hlocations]
  exact List.mem_cons_self

/-- What stands at the root is the value itself. -/
theorem eq_of_nil_mem_locations {value found : Json} (h : ([], found) ∈ value.locations) :
    found = value := by
  obtain ⟨rest, hlocations, hrest⟩ := value.locations_eq_cons
  rw [hlocations] at h
  rcases List.mem_cons.mp h with heq | hmem
  · exact (Prod.mk.inj heq).2
  · exact absurd rfl (hrest _ hmem)

/-- A location whose last step leads to a member is the location of that member of an object. -/
theorem exists_object_of_mem_locations {value found : Json} {location : Location} {name : String}
    (h : (location ++ [.member name], found) ∈ value.locations) :
    ∃ fields, (location, .object fields) ∈ value.locations ∧ (name, found) ∈ fields := by
  induction value generalizing location with
  | array items ih =>
    rw [locations, List.mem_cons] at h
    rcases h with heq | h
    · simp at heq
    · obtain ⟨offset, item, rest, hitem, hlocation, hfound⟩ := mem_itemLocations_iff.mp h
      -- the last step is the first one here, or there are steps before it
      rcases List.append_eq_cons_iff.mp hlocation with ⟨-, hstep⟩ | ⟨front, rfl, rfl⟩
      · simp at hstep
      · obtain ⟨fields, hobject, hmem⟩ := ih item (List.mem_of_getElem? hitem) hfound
        exact ⟨fields, List.mem_cons_of_mem _
          (mem_itemLocations_iff.mpr ⟨offset, item, front, hitem, rfl, hobject⟩), hmem⟩
  | object members ih =>
    rw [locations, List.mem_cons] at h
    rcases h with heq | h
    · simp at heq
    · obtain ⟨key, value, rest, hmember, hlocation, hfound⟩ := mem_memberLocations_iff.mp h
      rcases List.append_eq_cons_iff.mp hlocation with ⟨rfl, hstep⟩ | ⟨front, rfl, rfl⟩
      · obtain ⟨hname, rfl⟩ := List.cons.inj hstep
        obtain rfl := Step.member.inj hname
        exact ⟨members, by simp [locations], eq_of_nil_mem_locations hfound ▸ hmember⟩
      · obtain ⟨fields, hobject, hmem⟩ := ih (key, value) hmember hfound
        exact ⟨fields, List.mem_cons_of_mem _
          (mem_memberLocations_iff.mpr ⟨key, value, front, hmember, rfl, hobject⟩), hmem⟩
  | _ => simp [locations] at h

end Json

/-! ## Going down a schema -/

namespace Schema

/-- The node that describes what stands one step below. -/
def child? : Schema → Json.Step → Option Schema
  | .struct members _, .member name => Entries.get? members name
  | .list element _, .item _ => some element
  | _, _ => none

/-- The node that describes what stands at a location, if all on the way is declared. -/
def atLocation? : Schema → Json.Location → Option Schema
  | schema, [] => some schema
  | schema, step :: rest => (schema.child? step).bind fun child => child.atLocation? rest

/-- One location behind another leads from where the other leads to. -/
theorem atLocation?_append (schema : Schema) (front behind : Json.Location) :
    schema.atLocation? (front ++ behind) =
      (schema.atLocation? front).bind fun node => node.atLocation? behind := by
  induction front generalizing schema with
  | nil => rfl
  | cons step rest ih =>
    rw [List.cons_append, atLocation?, atLocation?]
    cases schema.child? step with
    | none => rfl
    | some child => exact ih child

end Schema

end SchemaCall
