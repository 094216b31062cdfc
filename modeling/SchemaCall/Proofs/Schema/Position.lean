import Mathlib.Data.List.Nodup
import SchemaCall.Proofs.Schema.Location
import SchemaCall.Schema.Codec

/-!
# Positions in a schema

A position is the way down from a schema to one of its nodes. `Schema.nodes` lists every node with
its position: a node before what is below it, members in the order of their declaration. Where no
structure declares a member twice, the list has each position once (`nodup_nodes`), with the node
that is met on the way there (`mem_nodes_iff`). What `unsupportedNodes` says of a schema is what
this list has of unknown kinds (`unsupportedNodes_eq_map`).

A location in a value leads down a schema along a position: the one that forgets which items it
passes (`Json.Location.position`). Back from a position, the first item will do
(`Position.location`).
-/

namespace SchemaCall

namespace Schema

/-- A step, as it is written in a path. -/
def Step.text : Step → String
  | .member name => "." ++ name
  | .element => "[]"

/-- The way from a schema to one of its nodes. -/
abbrev Position := List Step

/-- The path of a position below a node that stands at `start`. -/
def Position.path (start : String) (position : Position) : String :=
  start ++ String.join (position.map Step.text)

@[simp] theorem Position.path_nil (start : String) : Position.path start [] = start := by
  simp [Position.path]

@[simp] theorem Position.path_cons (start : String) (step : Step) (position : Position) :
    Position.path start (step :: position) = Position.path (start ++ step.text) position := by
  simp [Position.path, String.append_assoc]

/-- The node one step below. -/
def below? : Schema → Step → Option Schema
  | .struct members _, .member name => Entries.get? members name
  | .list element _, .element => some element
  | _, _ => none

/-- The node at a position. -/
def atPosition? : Schema → Position → Option Schema
  | schema, [] => some schema
  | schema, step :: rest => (schema.below? step).bind fun node => node.atPosition? rest

/-! ## All nodes -/

mutual

/-- Every node of a schema with its position, depth first in the order of declaration. -/
def nodes : Schema → List (Position × Schema)
  | .list element documentation =>
    ([], .list element documentation) ::
      element.nodes.map fun entry => (.element :: entry.1, entry.2)
  | .struct members documentation => ([], .struct members documentation) :: memberNodes members
  | schema => [([], schema)]

/-- The nodes of the members of a structure. -/
def memberNodes : List (String × Schema) → List (Position × Schema)
  | [] => []
  | (name, member) :: rest =>
    member.nodes.map (fun entry => (.member name :: entry.1, entry.2)) ++ memberNodes rest

end

/-- A node of a structure, below its root, is a node of one of its members. -/
theorem mem_memberNodes_iff {members : List (String × Schema)} {position : Position}
    {node : Schema} :
    (position, node) ∈ memberNodes members ↔
      ∃ name member rest, (name, member) ∈ members ∧ position = .member name :: rest ∧
        (rest, node) ∈ member.nodes := by
  induction members with
  | nil => simp [memberNodes]
  | cons first members ih =>
    obtain ⟨name, member⟩ := first
    rw [memberNodes, List.mem_append, ih, List.mem_map]
    constructor
    · rintro (⟨entry, hentry, heq⟩ | ⟨other, found, rest, hmem, hrest⟩)
      · obtain ⟨rfl, rfl⟩ := Prod.mk.inj heq
        exact ⟨name, member, entry.1, List.mem_cons_self, rfl, hentry⟩
      · exact ⟨other, found, rest, List.mem_cons_of_mem _ hmem, hrest⟩
    · rintro ⟨other, found, rest, hmem, rfl, hnode⟩
      rcases List.mem_cons.mp hmem with heq | hmem
      · obtain ⟨rfl, rfl⟩ := Prod.mk.inj heq
        exact .inl ⟨(rest, node), hnode, rfl⟩
      · exact .inr ⟨other, found, rest, hmem, rfl, hnode⟩

/-- The list of nodes has at each position the node that stands there. -/
theorem mem_nodes_iff {schema node : Schema} (distinct : schema.Distinct) {position : Position} :
    (position, node) ∈ schema.nodes ↔ schema.atPosition? position = some node := by
  induction schema generalizing position with
  | list element documentation ih =>
    rw [nodes, List.mem_cons, List.mem_map]
    cases position with
    | nil => simp [atPosition?, @eq_comm _ node]
    | cons step rest =>
      cases step with
      | element =>
        have hbelow : (rest, node) ∈ element.nodes ↔ element.atPosition? rest = some node :=
          ih distinct
        simp [atPosition?, below?, ← hbelow]
      | member name => simp [atPosition?, below?]
  | struct members documentation ih =>
    rw [nodes, List.mem_cons, mem_memberNodes_iff]
    cases position with
    | nil => simp [atPosition?, @eq_comm _ node]
    | cons step rest =>
      cases step with
      | element => simp [atPosition?, below?]
      -- a member stands under its name alone, since no name is declared twice
      | member name =>
        have hmember (member : Schema) (hmem : (name, member) ∈ members) :
            (rest, node) ∈ member.nodes ↔ member.atPosition? rest = some node :=
          ih (name, member) hmem (distinctMembers_iff.mp distinct.2 _ hmem)
        rw [atPosition?, below?, Option.bind_eq_some_iff]
        constructor
        · rintro (heq | ⟨other, member, _, hmem, heq, hnode⟩)
          · exact nomatch heq
          · obtain ⟨hstep, rfl⟩ := List.cons.inj heq
            obtain rfl := Step.member.inj hstep
            exact ⟨member, Entries.get?_of_mem distinct.1 hmem, (hmember member hmem).mp hnode⟩
        · rintro ⟨member, hget, hnode⟩
          have hmem := Entries.mem_of_get? hget
          exact .inr ⟨name, member, rest, hmem, rfl, (hmember member hmem).mpr hnode⟩
  | _ => cases position <;> simp [nodes, atPosition?, below?, @eq_comm _ node]

/-- The positions in a structure below its members are those that start with one of their names. -/
private theorem nodup_memberNodes {members : List (String × Schema)}
    (distinct : Entries.Distinct members)
    (ih : ∀ member ∈ members, (member.2.nodes.map Prod.fst).Nodup) :
    ((memberNodes members).map Prod.fst).Nodup := by
  induction members with
  | nil => exact List.nodup_nil
  | cons first members ihrest =>
    obtain ⟨name, member⟩ := first
    obtain ⟨hname, hrest⟩ := List.nodup_cons.mp distinct
    have hfirst : ((member.nodes.map Prod.fst).map (Step.member name :: ·)).Nodup :=
      (ih (name, member) List.mem_cons_self).map List.cons_injective
    rw [memberNodes, List.map_append, List.map_map]
    rw [List.map_map] at hfirst
    refine List.nodup_append.mpr
      ⟨hfirst, ihrest hrest fun x hx => ih x (List.mem_cons_of_mem _ hx), ?_⟩
    -- what is below the first member does not start with a later name
    rintro position hposition _ hlater rfl
    obtain ⟨entry, -, rfl⟩ := List.mem_map.mp hposition
    obtain ⟨⟨other, node⟩, hnode, heq⟩ := List.mem_map.mp hlater
    obtain ⟨later, found, rest, hmem, rfl, -⟩ := mem_memberNodes_iff.mp hnode
    obtain rfl := Step.member.inj (List.cons.inj heq).1
    exact hname (List.mem_map.mpr ⟨(later, found), hmem, rfl⟩)

/-- Every position is listed once. -/
theorem nodup_nodes {schema : Schema} (distinct : schema.Distinct) :
    (schema.nodes.map Prod.fst).Nodup := by
  induction schema with
  | list element documentation ih =>
    have hbelow : ((element.nodes.map Prod.fst).map (Step.element :: ·)).Nodup :=
      (ih distinct).map List.cons_injective
    rw [nodes, List.map_cons, List.map_map]
    rw [List.map_map] at hbelow
    refine List.nodup_cons.mpr ⟨fun hroot => ?_, hbelow⟩
    obtain ⟨entry, -, heq⟩ := List.mem_map.mp hroot
    exact nomatch heq
  | struct members documentation ih =>
    have hbelow := nodup_memberNodes distinct.1
      fun member hmember => ih member hmember (distinctMembers_iff.mp distinct.2 member hmember)
    refine List.nodup_cons.mpr ⟨fun hroot => ?_, hbelow⟩
    obtain ⟨entry, hentry, heq⟩ := List.mem_map.mp hroot
    obtain ⟨name, member, rest, -, hposition, -⟩ := mem_memberNodes_iff.mp hentry
    rw [hposition] at heq
    exact nomatch heq
  | _ => exact List.nodup_singleton _

/-! ## Nodes of unknown kind -/

/-- The tag of a node of unknown kind. -/
def unknownTag? : Schema → Option String
  | .unsupported tag _ => some tag
  | _ => none

/-- An unknown tag is the tag of an unsupported node. -/
theorem unknownTag?_eq_some_iff {node : Schema} {tag : String} :
    node.unknownTag? = some tag ↔ ∃ documentation, node = .unsupported tag documentation := by
  cases node <;> simp [unknownTag?]

/-- The nodes of unknown kind among the given ones, as their positions and tags. -/
def unknownsAmong (entries : List (Position × Schema)) : List (Position × String) :=
  entries.filterMap fun entry => entry.2.unknownTag?.map fun tag => (entry.1, tag)

/-- The nodes of unknown kind in a schema, as their positions and tags, in the order of `nodes`. -/
def unknowns (schema : Schema) : List (Position × String) :=
  unknownsAmong schema.nodes

/-- The unknown tags are those of the unsupported nodes, each at its position. -/
theorem mem_unknowns_iff {schema : Schema} (distinct : schema.Distinct) {position : Position}
    {tag : String} : (position, tag) ∈ schema.unknowns ↔
      ∃ documentation, schema.atPosition? position = some (.unsupported tag documentation) := by
  rw [unknowns, unknownsAmong, List.mem_filterMap]
  constructor
  · rintro ⟨⟨found, node⟩, hnode, hsome⟩
    obtain ⟨other, htag, heq⟩ := Option.map_eq_some_iff.mp hsome
    obtain ⟨rfl, rfl⟩ := Prod.mk.inj heq
    obtain ⟨documentation, rfl⟩ := unknownTag?_eq_some_iff.mp htag
    exact ⟨documentation, (mem_nodes_iff distinct).mp hnode⟩
  · rintro ⟨documentation, hnode⟩
    exact ⟨_, (mem_nodes_iff distinct).mpr hnode, rfl⟩

/-- No position is listed twice among those of unknown tags. -/
theorem nodup_unknowns {schema : Schema} (distinct : schema.Distinct) :
    (schema.unknowns.map Prod.fst).Nodup := by
  have hpositions : schema.unknowns.map Prod.fst =
      (schema.nodes.filter fun entry => entry.2.unknownTag?.isSome).map Prod.fst := by
    rw [unknowns, unknownsAmong, List.map_filterMap, ← List.filterMap_eq_map, List.filterMap_filter]
    congr 1
    funext entry
    cases entry.2.unknownTag? <;> rfl
  rw [hpositions]
  exact (nodup_nodes distinct).sublist (List.filter_sublist.map Prod.fst)

private theorem unknownsAmong_below (step : Step) (entries : List (Position × Schema)) :
    unknownsAmong (entries.map fun entry => (step :: entry.1, entry.2)) =
      (unknownsAmong entries).map fun unknown => (step :: unknown.1, unknown.2) := by
  simp only [unknownsAmong, List.filterMap_map, List.map_filterMap, Function.comp_def,
    Option.map_map]

private theorem unsupportedMembers_eq_map {members : List (String × Schema)}
    (ih : ∀ member ∈ members, ∀ path, member.2.unsupportedBelow path =
      member.2.unknowns.map fun unknown => (unknown.1.path path, unknown.2)) (path : String) :
    unsupportedMembers members path = (unknownsAmong (memberNodes members)).map
      fun unknown => (unknown.1.path path, unknown.2) := by
  induction members with
  | nil => rfl
  | cons first members ihrest =>
    obtain ⟨name, member⟩ := first
    have hfirst := ih (name, member) List.mem_cons_self (path ++ "." ++ name)
    have hrest := ihrest fun x hx => ih x (List.mem_cons_of_mem _ hx)
    have happend : unknownsAmong (memberNodes ((name, member) :: members)) =
        member.unknowns.map (fun unknown => (.member name :: unknown.1, unknown.2)) ++
          unknownsAmong (memberNodes members) := by
      rw [memberNodes, unknownsAmong, List.filterMap_append]
      exact congrArg (· ++ _) (unknownsAmong_below ..)
    rw [unsupportedMembers, hfirst, hrest, happend, List.map_append, List.map_map]
    simp only [Function.comp_def, Position.path_cons, Step.text, String.append_assoc]

/-- What a schema tells of unknown kinds below a path: each of them, with its path. -/
theorem unsupportedBelow_eq_map (schema : Schema) (path : String) : schema.unsupportedBelow path =
    schema.unknowns.map fun unknown => (unknown.1.path path, unknown.2) := by
  induction schema generalizing path with
  | scalar kind documentation => rfl
  | list element documentation ih =>
    have hunknowns : (list element documentation).unknowns =
        element.unknowns.map fun unknown => (.element :: unknown.1, unknown.2) :=
      unknownsAmong_below ..
    rw [unsupportedBelow, ih, hunknowns, List.map_map]
    simp only [Function.comp_def, Position.path_cons, Step.text]
  | struct members documentation ih => exact unsupportedMembers_eq_map ih path
  | unsupported tag documentation => simp [unsupportedBelow, unknowns, unknownsAmong, nodes,
      unknownTag?]

/-- What a schema reports as unsupported are its unknown tags, with their positions as paths. -/
theorem unsupportedNodes_eq_map (schema : Schema) : schema.unsupportedNodes =
    schema.unknowns.map fun unknown => (unknown.1.path "$", unknown.2) :=
  unsupportedBelow_eq_map schema "$"

end Schema

/-! ## Locations and positions -/

namespace Json

/-- The step down a schema that describes a step down a value. -/
def Step.inSchema : Step → Schema.Step
  | .member name => .member name
  | .item _ => .element

/-- The position of the node that describes a location. -/
def Location.position (location : Location) : Schema.Position :=
  location.map Step.inSchema

end Json

namespace Schema

/-- Below a node, what a step into a value leads to is what the step it stands for leads to. -/
theorem child?_eq_below? (schema : Schema) (step : Json.Step) :
    schema.child? step = schema.below? step.inSchema := by
  cases schema <;> cases step <;> rfl

/-- A location is described by the node at its position. -/
theorem atLocation?_eq_atPosition? (schema : Schema) (location : Json.Location) :
    schema.atLocation? location = schema.atPosition? location.position := by
  induction location generalizing schema with
  | nil => rfl
  | cons step rest ih =>
    rw [atLocation?, child?_eq_below?]
    exact congrArg (Option.bind _) (funext ih)

/-- A step down a value that follows a step down a schema, to the first item of a list. -/
def Step.first : Step → Json.Step
  | .member name => .member name
  | .element => .item 0

/-- Into the first item of a list leads the step to the element. -/
theorem Step.inSchema_first (step : Step) : step.first.inSchema = step := by
  cases step <;> rfl

/-- The location at a position that takes the first item of every list. -/
def Position.location (position : Position) : Json.Location :=
  position.map Step.first

/-- The location that a position stands for has this position. -/
theorem Position.position_location (position : Position) :
    position.location.position = position := by
  rw [location, Json.Location.position, List.map_map]
  simp [Function.comp_def, Step.inSchema_first]

end Schema

end SchemaCall
