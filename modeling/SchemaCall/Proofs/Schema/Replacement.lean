import SchemaCall.Proofs.Schema.Codec
import SchemaCall.Proofs.Schema.Position

/-!
# Replacing a node

`Schema.replaceAt` puts another schema at a position and leaves all else as it is: above the
position there are the same nodes with the replacement below them
(`atPosition?_replaceAt_append`), and beside it the same nodes (`atPosition?_replaceAt_of_beside`).
`Schema.Position.replace` does the same to the value that a schema is read from, so that reading and
replacing commute (`ofJson_replace`). Whatever is written under a node of unknown kind, it is read
as such (`FutureNode.ofJson_eq`).
-/

namespace SchemaCall

/-! ## Changing one member -/

/-- Change a member of an object in its place, if it is there. -/
def Json.modifyMember (name : String) (change : Json → Json) : Json → Json
  | .object members => .object (Entries.modify members name change)
  | value => value

/-- Under the name that is modified, the modified value is found. -/
theorem Json.get?_modifyMember_self (value : Json) (name : String) (change : Json → Json) :
    (value.modifyMember name change).get? name = (value.get? name).map change := by
  cases value with
  | object members => exact Entries.get?_modify_self members name change
  | _ => rfl

/-- Modifying a member leaves the other members as they were. -/
theorem Json.get?_modifyMember_of_ne (value : Json) {name other : String} (change : Json → Json)
    (h : name ≠ other) : (value.modifyMember name change).get? other = value.get? other := by
  cases value with
  | object members => exact Entries.get?_modify_of_ne change h
  | _ => rfl

/-- Modifying a member binds no name twice. -/
theorem Json.BindsOnce.modifyMember {value : Json} (h : value.BindsOnce) (name : String)
    (change : Json → Json) : (value.modifyMember name change).BindsOnce := by
  cases value with
  | object members => exact Entries.Distinct.modify h name change
  | _ => exact h

namespace Schema

/-! ## Replacing in a schema -/

/-- The schema with another one in the place of the node at a position. -/
def replaceAt : Schema → Position → Schema → Schema
  | _, [], new => new
  | .struct members documentation, .member name :: rest, new =>
    .struct (Entries.modify members name fun member => member.replaceAt rest new) documentation
  | .list element documentation, .element :: rest, new =>
    .list (element.replaceAt rest new) documentation
  | schema, _, _ => schema

/-- On the way to the position there are the same nodes, with the replacement below them. -/
theorem atPosition?_replaceAt_append (schema new : Schema) (above below : Position) :
    (schema.replaceAt (above ++ below) new).atPosition? above =
      (schema.atPosition? above).map fun node => node.replaceAt below new := by
  induction above generalizing schema with
  | nil => rfl
  | cons step rest ih =>
    cases schema with
    | struct members documentation =>
      cases step with
      | member name =>
        rw [List.cons_append, replaceAt, atPosition?, atPosition?, below?, below?,
          Entries.get?_modify_self]
        cases Entries.get? members name with
        | none => rfl
        | some member => exact ih member
      | element => rfl
    | list element documentation =>
      cases step with
      | member name => rfl
      | element => exact ih element
    | _ => cases step <;> rfl

/-- Beside the position there are the same nodes. -/
theorem atPosition?_replaceAt_of_beside (schema new : Schema) {position other : Position}
    (h : ¬position <+: other) (h' : ¬other <+: position) :
    (schema.replaceAt position new).atPosition? other = schema.atPosition? other := by
  induction position generalizing schema other with
  | nil => exact absurd List.nil_prefix h
  | cons step rest ih =>
    cases other with
    | nil => exact absurd List.nil_prefix h'
    | cons turn onward =>
      have hbeside (heq : step = turn) : ¬rest <+: onward ∧ ¬onward <+: rest := by
        subst heq
        exact ⟨fun hrest => h (List.cons_prefix_cons.mpr ⟨rfl, hrest⟩),
          fun hrest => h' (List.cons_prefix_cons.mpr ⟨rfl, hrest⟩)⟩
      cases schema with
      | struct members documentation =>
        cases step with
        | member name =>
          cases turn with
          | member key =>
            rw [replaceAt, atPosition?, atPosition?, below?, below?]
            -- the two positions part at this step or below the same member
            by_cases hname : name = key
            · subst hname
              obtain ⟨hrest, honward⟩ := hbeside rfl
              rw [Entries.get?_modify_self]
              cases Entries.get? members name with
              | none => rfl
              | some member => exact ih member hrest honward
            · rw [Entries.get?_modify_of_ne _ hname]
          | element => rfl
        | element => rfl
      | list element documentation =>
        cases step with
        | member name => rfl
        | element =>
          cases turn with
          | member key => rfl
          | element =>
            obtain ⟨hrest, honward⟩ := hbeside rfl
            exact ih element hrest honward
      | _ => cases step <;> rfl

/-! ## Replacing in the value that a schema is read from -/

/-- Change what is written under a node, in an object or an array. -/
def modifyContents (change : Json → Json) : Json → Json
  | .object fields => .object (Entries.modify fields "members" change)
  | .array items => .array (items.modify 1 change)
  | value => value

/-- The value of a schema with another value in the place of the one for the node at a position. -/
def Position.replace (new : Json) : Position → Json → Json
  | [], _ => new
  | .member name :: rest, value => modifyContents (Json.modifyMember name (replace new rest)) value
  | .element :: rest, value => modifyContents (replace new rest) value

/-- Only what is written under the node changes. -/
theorem nodeParts?_modifyContents {value tag members : Json} {text : Option Json}
    (h : nodeParts? value = some ⟨tag, some members, text⟩) (change : Json → Json) :
    nodeParts? (modifyContents change value) = some ⟨tag, some (change members), text⟩ := by
  cases value with
  | object fields =>
    obtain ⟨found, htag, hparts⟩ := Option.map_eq_some_iff.mp h
    obtain ⟨rfl, hmembers, htext⟩ := NodeParts.mk.inj hparts
    rw [modifyContents, nodeParts?, Entries.get?_modify_self,
      Entries.get?_modify_of_ne change (by decide), Entries.get?_modify_of_ne change (by decide),
      htag, hmembers, htext]
    rfl
  | array items =>
    -- the contents are the second item, and there may be a third one
    rcases items with _ | ⟨_, _ | ⟨_, _ | ⟨_, _ | ⟨_, _⟩⟩⟩⟩
    · exact absurd h.symm (Option.some_ne_none _)
    · obtain ⟨-, hmembers, -⟩ := NodeParts.mk.inj (Option.some.inj h)
      exact absurd hmembers.symm (Option.some_ne_none members)
    · obtain ⟨rfl, hmembers, rfl⟩ := NodeParts.mk.inj (Option.some.inj h)
      obtain rfl := Option.some.inj hmembers
      rfl
    · obtain ⟨rfl, hmembers, rfl⟩ := NodeParts.mk.inj (Option.some.inj h)
      obtain rfl := Option.some.inj hmembers
      rfl
    · exact absurd h.symm (Option.some_ne_none _)
  | _ => exact absurd h.symm (Option.some_ne_none _)

/-- Changing what a node contains binds no name twice. -/
theorem bindsOnce_modifyContents {value : Json} (h : value.BindsOnce) (change : Json → Json) :
    (modifyContents change value).BindsOnce := by
  cases value with
  | object fields => exact Entries.Distinct.modify h "members" change
  | _ => exact h

/-- What is read from a node after its contents changed is made of the changed contents. -/
theorem ofJson_modifyContents {value members : Json} {tag : String} {text : Option Json}
    {documentation : Option String} {schema : Schema} {change : Json → Json}
    (distinct : value.BindsOnce)
    (hparts : nodeParts? value = some ⟨.string tag, some members, text⟩)
    (htext : OptionalText text documentation)
    (hmade : MadeOf tag (some (change members)) documentation schema) :
    ofJson (modifyContents change value) = .ok schema :=
  (ofJson_eq_ok_iff (bindsOnce_modifyContents distinct change)).mpr
    ⟨tag, some (change members), text, documentation, nodeParts?_modifyContents hparts change,
      htext, hmade⟩

/-- A value in which one node is replaced is read as the schema in which this node is replaced. -/
theorem ofJson_replace {value new : Json} {schema node other : Schema} {position : Position}
    (distinct : value.Distinct) (h : ofJson value = .ok schema)
    (hnode : schema.atPosition? position = some node) (hnew : ofJson new = .ok other) :
    ofJson (position.replace new value) = .ok (schema.replaceAt position other) := by
  induction position generalizing value schema with
  | nil => exact hnew
  | cons step rest ih =>
    obtain ⟨below, hbelow, hrest⟩ := Option.bind_eq_some_iff.mp hnode
    obtain ⟨tag, written, text, documentation, hparts, htext, hmade⟩ :=
      (ofJson_eq_ok_iff distinct.bindsOnce).mp h
    cases step with
    | member name =>
      cases hmade with
      | @struct fields members _ hread =>
        have hmatches := memberSchemaList_eq_ok_iff.mp hread
        obtain ⟨inner, hinner, hinnerRead⟩ := hmatches.get?_eq_some hbelow
        have hinnerDistinct := (distinct_members distinct hparts).of_get? hinner
        rw [replaceAt, Entries.modify_of_get?_eq_some hbelow]
        -- the same member is changed in the document and in the schema
        refine ofJson_modifyContents distinct.bindsOnce hparts htext
          (.struct documentation (memberSchemaList_eq_ok_iff.mpr ?_))
        rw [Entries.modify_of_get?_eq_some hinner]
        exact hmatches.set name (ih hinnerDistinct hinnerRead hrest)
      | _ => exact nomatch hbelow
    | element =>
      cases hmade with
      | @list inner element _ hread =>
        obtain rfl := Option.some.inj hbelow
        exact ofJson_modifyContents distinct.bindsOnce hparts htext
          (.list documentation (ih (distinct_members distinct hparts) hread hrest))
      | _ => exact nomatch hbelow

/-! ## Nodes of kinds to come -/

/-- An object with a tag of no known kind; its documentation, if there is any, is a text, and what
is written under it is arbitrary. -/
structure FutureNode (value : Json) (tag : String) (documentation : Option String) : Prop where
  distinct : value.Distinct
  tagged : value.get? "type" = some (.string tag)
  nonEmpty : tag ≠ ""
  unknown : tag ∉ knownTags
  documented : value.get? "documentation" = documentation.map .string

/-- Whatever is written under a node of unknown kind, it is read as such. -/
theorem FutureNode.ofJson_eq {value : Json} {tag : String} {documentation : Option String}
    (h : FutureNode value tag documentation) :
    ofJson value = .ok (.unsupported tag documentation) := by
  cases value with
  | object fields =>
    have htagged : Entries.get? fields "type" = some (.string tag) := h.tagged
    have hdocumented : Entries.get? fields "documentation" = documentation.map .string :=
      h.documented
    refine (ofJson_eq_ok_iff h.distinct.bindsOnce).mpr
      ⟨tag, Entries.get? fields "members", documentation.map .string, documentation, ?_, ?_,
        .unsupported _ documentation h.unknown⟩
    · rw [nodeParts?, htagged, hdocumented]
      rfl
    · cases documentation with
      | none => exact .absent
      | some text => exact .text text
  | _ => exact absurd h.tagged.symm (Option.some_ne_none _)

end Schema

end SchemaCall
