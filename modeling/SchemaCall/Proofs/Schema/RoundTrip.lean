import SchemaCall.Proofs.Json.Alike
import SchemaCall.Proofs.Schema.Codec
import SchemaCall.Proofs.Schema.Position
import SchemaCall.Proofs.Schema.Shape

/-!
# Which schemas are read back

A schema is written in one form, as a record or not (`toRecord_eq_toJson`). It is read back from
this form exactly if none of its nodes of unknown kind goes under the tag of a known kind
(`Schema.Unreserved`, `ofJson_toJson_iff`). Hence such schemas are told apart by their forms
(`toJson_injective`), also by forms up to member order (`equivalent_of_alike_toJson`), and what was
read once is read back every time (`ofJson_toJson_of_ofJson`).
-/

namespace SchemaCall.Schema

/-! ## Two ways of writing -/

/-- The record that a schema is written as is its JSON form. -/
theorem toRecord_eq_toJson (schema : Schema) : schema.toRecord = schema.toJson := by
  have hrecord (tag : String) (members : Option Json) (documentation : Option String)
      {field? : String → Option Json} (htag : field? "type" = some (.string tag))
      (hmembers : field? "members" = members)
      (htext : field? "documentation" = documentation.map .string) :
      Json.writeRecord nodeShape field? = nodeJson tag members documentation := by
    subst hmembers
    cases hbelow : field? "members" <;> cases documentation <;>
      simp [Json.writeRecord, nodeShape, nodeJson, htag, htext, hbelow]
  cases schema with
  | struct members documentation =>
    rw [toJson, membersToJson_eq_map]
    exact hrecord _ _ _ rfl rfl rfl
  | _ =>
    rw [toJson]
    exact hrecord _ _ _ rfl rfl rfl

/-! ## Tags of known kinds -/

/-- No node of unknown kind, at any position, goes under the tag of a known kind. -/
def Unreserved (schema : Schema) : Prop :=
  ∀ position tag documentation,
    schema.atPosition? position = some (.unsupported tag documentation) → tag ∉ knownTags

/-- A list has no reserved tag if its element has none. -/
theorem unreserved_list_iff {element : Schema} {documentation : Option String} :
    Unreserved (.list element documentation) ↔ element.Unreserved := by
  constructor
  · intro h position tag text hnode
    exact h (.element :: position) tag text hnode
  · intro h position tag text hnode
    match position, hnode with
    | .element :: rest, hnode => exact h rest tag text hnode

/-- A structure has no reserved tag if none of its members has one. -/
theorem unreserved_struct_iff {members : List (String × Schema)} {documentation : Option String}
    (distinct : Entries.Distinct members) :
    Unreserved (.struct members documentation) ↔ ∀ member ∈ members, member.2.Unreserved := by
  constructor
  · intro h member hmember position tag text hnode
    refine h (.member member.1 :: position) tag text ?_
    have hbelow : Entries.get? members member.1 = some member.2 :=
      Entries.get?_of_mem distinct hmember
    rw [atPosition?, below?, hbelow]
    exact hnode
  · intro h position tag text hnode
    cases position with
    | nil => exact absurd (Option.some.inj hnode) Schema.noConfusion
    | cons step rest =>
      cases step with
      | member name =>
        obtain ⟨member, hget, hrest⟩ := Option.bind_eq_some_iff.mp hnode
        exact h (name, member) (Entries.mem_of_get? hget) rest tag text hrest
      | element => exact absurd hnode.symm (Option.some_ne_none _)

/-- A schema can be read if and only if no structure declares a member twice and no node of unknown
kind goes under the tag of a known kind. -/
theorem readable_iff {schema : Schema} : schema.Readable ↔ schema.Distinct ∧ schema.Unreserved := by
  constructor
  · intro h
    refine ⟨h.distinct, ?_⟩
    induction h with
    | scalar kind documentation =>
      intro position tag text hnode
      cases position with
      | nil => exact nomatch hnode
      | cons step rest => cases step <;> exact nomatch hnode
    | list documentation _ ih => exact unreserved_list_iff.mpr ih
    | struct documentation hdistinct _ ih => exact (unreserved_struct_iff hdistinct).mpr ih
    | unsupported documentation hunknown =>
      intro position tag text hnode
      cases position with
      | nil =>
        obtain ⟨rfl, -⟩ := Schema.unsupported.inj (Option.some.inj hnode)
        exact hunknown
      | cons step rest => cases step <;> exact nomatch hnode
  -- the way back goes over the schema, since both conditions are about all of its nodes
  · rintro ⟨hdistinct, hunreserved⟩
    induction schema with
    | scalar kind documentation => exact .scalar kind documentation
    | list element documentation ih =>
      exact .list _ (ih hdistinct (unreserved_list_iff.mp hunreserved))
    | struct members documentation ih =>
      refine .struct _ hdistinct.1 fun member hmember => ?_
      exact ih member hmember (distinctMembers_iff.mp hdistinct.2 member hmember)
        ((unreserved_struct_iff hdistinct.1).mp hunreserved member hmember)
    | unsupported tag documentation => exact .unsupported _ (hunreserved [] tag documentation rfl)

/-! ## Reading back -/

/-- Exactly the schemas without reserved tags are read back from their form. -/
theorem ofJson_toJson_iff {schema : Schema} (distinct : schema.Distinct) :
    ofJson schema.toJson = .ok schema ↔ schema.Unreserved := by
  constructor
  · intro h
    exact (readable_iff.mp (readable_of_ofJson distinct.toJson h)).2
  · intro h
    exact ofJson_toJson (readable_iff.mpr ⟨distinct, h⟩)

/-- What was read is read back from its form. -/
theorem ofJson_toJson_of_ofJson {value : Json} {schema : Schema} (distinct : value.Distinct)
    (h : ofJson value = .ok schema) : ofJson schema.toJson = .ok schema :=
  ofJson_toJson (readable_of_ofJson distinct h)

/-- Schemas without reserved tags are told apart by their forms. -/
theorem toJson_injective {a b : Schema} (ha : a.Distinct) (hb : b.Distinct) (hua : a.Unreserved)
    (hub : b.Unreserved) (h : a.toJson = b.toJson) : a = b := by
  have hread : ofJson a.toJson = .ok b := h ▸ (ofJson_toJson_iff hb).mpr hub
  exact Except.ok.inj (((ofJson_toJson_iff ha).mpr hua).symm.trans hread)

/-! ## Forms up to member order -/

/-- Nodes whose forms are alike have the same tag and documentation, and contents that are alike. -/
private theorem parts_of_alike_nodeJson {tag other : String} {members others : Option Json}
    {documentation text : Option String}
    (h : Json.Alike (nodeJson tag members documentation) (nodeJson other others text)) :
    tag = other ∧ Option.Rel Json.Alike members others ∧ documentation = text := by
  have hmembers (tag : String) (members : Option Json) (text : Option String) :
      (nodeJson tag members text).get? "members" = members := by
    cases members <;> cases text <;> rfl
  have htext (tag : String) (members : Option Json) (text : Option String) :
      (nodeJson tag members text).get? "documentation" = text.map .string := by
    cases members <;> cases text <;> rfl
  have hget (name : String) : Option.Rel Json.Alike
      ((nodeJson tag members documentation).get? name) ((nodeJson other others text).get? name) :=
    Json.Alike.get? h name
  have hstring {a b : String} (halike : Json.Alike (.string a) (.string b)) : a = b :=
    Json.string.inj halike.canonical_eq
  refine ⟨?_, ?_, ?_⟩
  · cases hget "type" with
    | some halike => exact hstring halike
  · have hrel := hget "members"
    rwa [hmembers, hmembers] at hrel
  · have hrel := hget "documentation"
    rw [htext, htext] at hrel
    cases documentation with
    | none => cases text with
      | none => rfl
      | some b => exact nomatch hrel
    | some a => cases text with
      | none => exact nomatch hrel
      | some b =>
        cases hrel with
        | some halike => rw [hstring halike]

/-- Without reserved tags, a node of unknown kind has another tag than one of known kind. -/
private theorem tag_ne_of_known {tag : String} {documentation : Option String} {known : Schema}
    (h : Unreserved (.unsupported tag documentation)) (hknown : known.unknownTag? = none) :
    tag ≠ known.tag := by
  have htag : known.tag ∈ knownTags := by
    cases known with
    | scalar kind _ => cases kind <;> simp [Schema.tag, Scalar.tag, knownTags]
    | unsupported other _ => exact absurd hknown (Option.some_ne_none other)
    | _ => simp [Schema.tag, knownTags]
  rintro rfl
  exact h [] _ documentation rfl htag

/-- Nodes without reserved tags are of one kind if they have one tag. -/
theorem sameKind_of_tag_eq {a b : Schema} (ha : a.Unreserved) (hb : b.Unreserved)
    (h : a.tag = b.tag) : SameKind a b := by
  -- only a reserved tag could be that of two kinds
  cases a with
  | unsupported tag c =>
    cases b with
    | unsupported other d => exact h
    | _ => exact (tag_ne_of_known ha rfl h).elim
  | scalar j c =>
    cases b with
    | unsupported other d => exact (tag_ne_of_known hb rfl h.symm).elim
    | scalar k d => exact Scalar.tag_injective h
    | _ => cases j <;> simp [tag, Scalar.tag] at h
  | list element c =>
    cases b with
    | unsupported other d => exact (tag_ne_of_known hb rfl h.symm).elim
    | scalar k d => cases k <;> simp [tag, Scalar.tag] at h
    | list other d => trivial
    | struct bs d => simp [tag] at h
  | struct as c =>
    cases b with
    | unsupported other d => exact (tag_ne_of_known hb rfl h.symm).elim
    | scalar k d => cases k <;> simp [tag, Scalar.tag] at h
    | list other d => simp [tag] at h
    | struct bs d => trivial

private theorem sameKind_of_alike_toJson {a b : Schema} (ha : a.Unreserved) (hb : b.Unreserved)
    (h : Json.Alike a.toJson b.toJson) : SameKind a b := by
  have htag : a.tag = b.tag := by
    cases a <;> cases b <;> exact (parts_of_alike_nodeJson h).1
  exact sameKind_of_tag_eq ha hb htag

private theorem get?_membersToJson (members : List (String × Schema)) (name : String) :
    Entries.get? (membersToJson members) name = (Entries.get? members name).map toJson := by
  rw [membersToJson_eq_map, Entries.get?_map]

/-- Structures whose members have forms that are alike have the same names, and under each name
members whose forms are alike. -/
private theorem members_of_alike_membersToJson {as bs : List (String × Schema)}
    (h : Json.Alike (.object (membersToJson as)) (.object (membersToJson bs))) :
    (∀ name, name ∈ Entries.names as ↔ name ∈ Entries.names bs) ∧
      ∀ name a b, Entries.get? as name = some a → Entries.get? bs name = some b →
        Json.Alike a.toJson b.toJson := by
  have hget (name : String) : Option.Rel Json.Alike ((Entries.get? as name).map toJson)
      ((Entries.get? bs name).map toJson) := by
    rw [← get?_membersToJson, ← get?_membersToJson]
    exact h.get? name
  constructor
  · intro name
    rw [← Entries.isSome_get?_iff, ← Entries.isSome_get?_iff]
    have hrel := hget name
    cases ha : Entries.get? as name <;> cases hb : Entries.get? bs name <;> simp [ha, hb] at hrel ⊢
  · intro name a b ha hb
    have hrel := hget name
    rw [ha, hb] at hrel
    cases hrel with
    | some halike => exact halike

/-- Schemas without reserved tags whose forms differ only in the order of members are equivalent. -/
theorem equivalent_of_alike_toJson {a b : Schema} (ha : a.Distinct) (hb : b.Distinct)
    (hua : a.Unreserved) (hub : b.Unreserved) (h : Json.Alike a.toJson b.toJson) :
    a.equivalent b = true := by
  have hkind : SameKind a b := sameKind_of_alike_toJson hua hub h
  induction a generalizing b with
  | scalar j c =>
    cases b with
    | scalar k d =>
      obtain rfl : j = k := hkind
      obtain ⟨-, -, rfl⟩ := parts_of_alike_nodeJson h
      simp [equivalent]
    | _ => exact hkind.elim
  | list element c ih =>
    cases b with
    | list other d =>
      obtain ⟨-, hcontents, rfl⟩ := parts_of_alike_nodeJson h
      cases hcontents with
      | some halike =>
        have hu : element.Unreserved := unreserved_list_iff.mp hua
        have hv : other.Unreserved := unreserved_list_iff.mp hub
        have hother : other.Distinct := hb
        rw [equivalent, ih ha hother hu hv halike (sameKind_of_alike_toJson hu hv halike)]
        simp
    | _ => exact hkind.elim
  | struct as c ih =>
    cases b with
    | struct bs d =>
      obtain ⟨-, hcontents, rfl⟩ := parts_of_alike_nodeJson h
      have hu := (unreserved_struct_iff ha.1).mp hua
      have hv := (unreserved_struct_iff hb.1).mp hub
      cases hcontents with
      | some hobjects =>
        obtain ⟨hnames, heach⟩ := members_of_alike_membersToJson hobjects
        -- the definition compares lengths and looks up one way, which is enough for distinct names
        obtain ⟨hlength, hmembers⟩ := (members_agree_iff ha.1 hb.1).mp ⟨hnames, heach⟩
        have hequivalent : equivalentMembers as bs = true := by
          refine equivalentMembers_iff.mpr fun member hmember => ?_
          obtain ⟨other, hother, halike⟩ := hmembers member hmember
          have hu' := hu member hmember
          have hv' := hv _ (Entries.mem_of_get? hother)
          refine ⟨other, hother, ih member hmember (distinctMembers_iff.mp ha.2 member hmember)
            (distinctMembers_iff.mp hb.2 _ (Entries.mem_of_get? hother)) hu' hv' halike ?_⟩
          exact sameKind_of_alike_toJson hu' hv' halike
        rw [equivalent, hequivalent, hlength]
        simp
    | _ => exact hkind.elim
  | unsupported tag c =>
    cases b with
    | unsupported other d =>
      obtain rfl : tag = other := hkind
      obtain ⟨-, -, rfl⟩ := parts_of_alike_nodeJson h
      simp [equivalent]
    | _ => exact hkind.elim

/-! ## The law -/

/-- A schema is written in one form, as a record and below another node. It is read back from this
form, with its members in order, if and only if no node of unknown kind goes under one of the tags
of known kinds. So schemas without such tags are equal if their forms are, and equal up to the order
of members if their forms are; and what is read from a value is read back from its own form. -/
theorem read_back_iff_unreserved {schema : Schema} (distinct : schema.Distinct) :
    schema.toRecord = schema.toJson ∧
    (ofJson schema.toRecord = .ok schema ↔
      ∀ position tag documentation,
        schema.atPosition? position = some (.unsupported tag documentation) →
          tag ∉ ["structure", "list", "string", "integer", "boolean"]) ∧
    (∀ other : Schema, other.Distinct → schema.Unreserved → other.Unreserved →
      (schema.toRecord = other.toRecord → schema = other) ∧
      (Json.Alike schema.toRecord other.toRecord → schema.equivalent other = true)) ∧
    ∀ value : Json, value.Distinct → ofJson value = .ok schema →
      ofJson schema.toRecord = .ok schema := by
  refine ⟨toRecord_eq_toJson schema, ?_⟩
  simp only [toRecord_eq_toJson]
  refine ⟨ofJson_toJson_iff distinct, fun other hother hu hv => ⟨?_, ?_⟩, ?_⟩
  · exact toJson_injective distinct hother hu hv
  · exact equivalent_of_alike_toJson distinct hother hu hv
  · exact fun value hvalue hread => ofJson_toJson_of_ofJson hvalue hread

/-- A parcel: where it goes, with an empty documentation, and its weights, under the given tag. -/
def parcel (tag : String) : Schema :=
  .struct [("to", .scalar .string (some "")), ("weights", .list (.unsupported tag none) none)]
    (some "A parcel.")

/-- The same with its members in the other order. -/
def weighedParcel : Schema :=
  .struct [("weights", .list (.unsupported "float" none) none), ("to", .scalar .string (some ""))]
    (some "A parcel.")

/-- This schema, written as an array. -/
def weighedParcelItems : Json :=
  .array [.string "structure", .object [("weights", .array [.string "list",
      .object [("members", .bool true), ("type", .string "float")]]),
    ("to", .object [("documentation", .string ""), ("type", .string "string")])],
    .string "A parcel."]

/-- A parcel with weights of unknown kind is read back, also if it was read from another form, and
is equal to the one with its members in the other order. Under the tag of a list its weights are not
read, nor is the parcel. -/
theorem read_back_iff_unreserved_parcel :
    ofJson (parcel "float").toRecord = .ok (parcel "float") ∧
    ofJson weighedParcelItems = .ok weighedParcel ∧
    ofJson weighedParcel.toRecord = .ok weighedParcel ∧
    weighedParcel.equivalent (parcel "float") = true ∧
    ofJson (parcel "list").toRecord ≠ .ok (parcel "list") := by
  have hdistinct (tag : String) : (parcel tag).Distinct := by
    simp [parcel, Distinct, DistinctMembers, Entries.Distinct]
  have hweighed : weighedParcel.Distinct := by
    simp [weighedParcel, Distinct, DistinctMembers, Entries.Distinct]
  have hitems : weighedParcelItems.Distinct := by
    simp [weighedParcelItems, Json.Distinct, Json.DistinctItems, Json.DistinctMembers,
      Entries.Distinct]
  have hread : ofJson (parcel "float").toRecord = .ok (parcel "float") := by decide +kernel
  have hreadItems : ofJson weighedParcelItems = .ok weighedParcel := by decide +kernel
  have halike : Json.Alike weighedParcel.toRecord (parcel "float").toRecord :=
    Json.alike_iff_canonical_eq.mpr (by decide +kernel)
  obtain ⟨-, hback, -⟩ := read_back_iff_unreserved (hdistinct "float")
  obtain ⟨-, hweighedBack, hequal, hagain⟩ := read_back_iff_unreserved hweighed
  obtain ⟨-, hreserved, -⟩ := read_back_iff_unreserved (hdistinct "list")
  have hweighedRead := hagain weighedParcelItems hitems hreadItems
  refine ⟨hread, hreadItems, hweighedRead, ?_, fun h => ?_⟩
  · exact (hequal _ (hdistinct "float") (hweighedBack.mp hweighedRead) (hback.mp hread)).2 halike
  · exact hreserved.mp h [.member "weights", .element] "list" none rfl (by decide)

end SchemaCall.Schema
