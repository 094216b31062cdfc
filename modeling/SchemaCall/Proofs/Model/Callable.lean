import SchemaCall.Proofs.Model.Warnings

/-!
# Operations that cannot be called

Arguments can be found for an input if and only if it is a structure, or a list whose items are not
of unknown kind (`Schema.callable_iff_exists_accept`). How deep other nodes of unknown kind lie does
not matter: every node of known kind has a value that nothing stands in (`Schema.conforms_sample`),
and so a structure is given nothing and a list one such item. A list has to be given an item,
because a call without arguments is an empty object.

A model that was loaded with validation, from wherever (`Loading.Validated`), comes with a warning
about each operation that no arguments can be found for (`callable_and_warned`).
-/

namespace SchemaCall

/-! ## Inputs that arguments can be found for -/

namespace Schema

/-- The schema is a structure, or a list of something that is not of unknown kind. -/
inductive Callable : Schema → Prop where
  | struct (members : List (String × Schema)) (documentation : Option String) :
      Callable (.struct members documentation)
  | list {element : Schema} (known : ∀ tag words, element ≠ .unsupported tag words)
      (documentation : Option String) : Callable (.list element documentation)

/-- A value with nothing in it, of the kind that the node describes if this is known. -/
def sample : Schema → Json
  | .scalar .string _ => .string ""
  | .scalar .integer _ => .number (.integer 0 (by decide))
  | .scalar .boolean _ => .bool false
  | .list .. => .array []
  | .struct .. => .object []
  | .unsupported .. => .null

/-- No object of a sample binds a name twice. -/
theorem distinct_sample (schema : Schema) : schema.sample.Distinct := by
  cases schema with
  | scalar kind documentation => cases kind <;> trivial
  | list element documentation => trivial
  | struct members documentation => exact ⟨Entries.distinct_nil, trivial⟩
  | unsupported tag documentation => trivial

/-- The sample conforms to a node of known kind, whatever is below the node. -/
theorem conforms_sample {schema : Schema} (known : ∀ tag words, schema ≠ .unsupported tag words) :
    schema.Conforms schema.sample := by
  cases schema with
  | scalar kind documentation => exact conforms_scalar_iff.mpr (by cases kind <;> rfl)
  | list element documentation => exact .list nofun
  | struct members documentation => exact .struct nofun nofun
  | unsupported tag documentation => exact absurd rfl (known tag documentation)

/-- Nothing conforms to a node of an unknown kind. -/
theorem not_conforms_unsupported (tag : String) (documentation : Option String) (value : Json) :
    ¬Conforms (.unsupported tag documentation) value :=
  nofun

/-- Arguments that conform to a callable input. -/
def sampleArgs : Schema → Arguments
  | .list element _ => .ofLists [element.sample] []
  | _ => .none

/-- Sample arguments keep to one mode. -/
theorem not_isMixed_sampleArgs (schema : Schema) : ¬schema.sampleArgs.IsMixed := by
  cases schema with
  | list element documentation => exact fun hmixed => hmixed.2 rfl
  | _ => exact fun hmixed => hmixed.1 rfl

/-- No object of sample arguments binds a name twice. -/
theorem distinct_sampleArgs (schema : Schema) : schema.sampleArgs.toJson.Distinct := by
  cases schema with
  | list element documentation => exact ⟨element.distinct_sample, trivial⟩
  | _ => exact ⟨Entries.distinct_nil, trivial⟩

/-- The sample arguments of a callable schema conform to it. -/
theorem Callable.conforms_sampleArgs {input : Schema} (h : input.Callable) :
    input.Conforms input.sampleArgs.toJson := by
  cases h with
  | struct members documentation => exact .struct nofun nofun
  | list known documentation =>
    exact .list fun item hitem => List.mem_singleton.mp hitem ▸ conforms_sample known

/-- The sample arguments of a callable schema are accepted. -/
theorem exists_accept_sampleArgs {input : Schema} (h : input.Callable) :
    ∃ params, input.sampleArgs.accept input = .ok params :=
  Arguments.exists_accept_iff.mpr ⟨input.not_isMixed_sampleArgs, h.conforms_sampleArgs⟩

/-- A value that arguments stand for is no empty array, so an input that it conforms to is
callable. -/
theorem callable_of_conforms {input : Schema} {args : Arguments}
    (h : input.Conforms args.toJson) : input.Callable := by
  obtain ⟨positional, keyword⟩ := args
  cases input with
  | scalar kind documentation => exact (Arguments.not_conforms_scalar _ kind documentation h).elim
  | struct members documentation => exact .struct members documentation
  | list element documentation =>
    cases positional with
    | nil => exact nomatch h
    | cons item rest =>
      have hitem : element.Conforms item := conforms_list_iff.mp h item List.mem_cons_self
      refine .list (fun tag words helement => ?_) documentation
      exact not_conforms_unsupported tag words item (helement ▸ hitem)
  | unsupported tag documentation => exact (not_conforms_unsupported tag documentation _ h).elim

/-- Some arguments are accepted for an input if and only if it is callable. -/
theorem callable_iff_exists_accept {input : Schema} :
    (∃ (args : Arguments) (params : Params), args.accept input = .ok params) ↔ input.Callable := by
  constructor
  · rintro ⟨args, haccept⟩
    exact callable_of_conforms (Arguments.exists_accept_iff.mp haccept).2
  · exact fun hcallable => ⟨input.sampleArgs, exists_accept_sampleArgs hcallable⟩

/-- An input that is not callable is no container, or a list of something of unknown kind. -/
theorem not_callable_iff {input : Schema} : ¬input.Callable ↔
    input.isContainer = false ∨
      ∃ tag words, input.element? = some (.unsupported tag words) := by
  cases input with
  | scalar kind documentation => exact iff_of_true nofun (.inl rfl)
  | struct members documentation =>
    have hcallable : Callable (.struct members documentation) := .struct members documentation
    exact iff_of_false (not_not_intro hcallable) (by simp [isContainer, element?])
  | unsupported tag documentation => exact iff_of_true nofun (.inl rfl)
  | list element documentation =>
    have hlist : Callable (.list element documentation) ↔
        ∀ tag words, element ≠ .unsupported tag words :=
      ⟨fun | .list known _ => known, (.list · documentation)⟩
    rw [hlist]
    simp [isContainer, element?]

end Schema

/-! ## Warnings about the others -/

namespace Model

variable {model : Model} {loading : Loading}

/-- All warnings about an operation of a model that was loaded with validation are given. -/
theorem operation_warnings_subset (validated : loading.Made true) (h : loading.outcome = .ok model)
    {name : String} {operation : Operation}
    (hoperation : model.operation? name = some operation) :
    operation.warnings name ⊆ loading.warnings := by
  obtain ⟨document, hload, hwarnings⟩ := exists_loadedFrom validated h
  refine fun warning hwarning => hwarnings ?_
  rw [warnings_of_load hload]
  exact List.mem_flatMap.mpr ⟨(name, operation), Entries.mem_of_get? hoperation, hwarning⟩

end Model

/-- The warnings about an operation tell why it is not callable: its input is no container, or a
list of something of unknown kind. -/
theorem Operation.mem_warnings_of_not_callable {operation : Operation}
    (h : ¬operation.input.Callable) (name : String) :
    if operation.input.isContainer then
      ∃ tag words, operation.input.element? = some (.unsupported tag words) ∧
        .unsupportedKind name .input "$[]" tag ∈ operation.warnings name
    else .uncallable name operation.input.typeName ∈ operation.warnings name := by
  split
  · rename_i hcontainer
    rcases Schema.not_callable_iff.mp h with hnone | ⟨tag, words, helement⟩
    · rw [hnone] at hcontainer
      exact nomatch hcontainer
    · refine ⟨tag, words, helement, ?_⟩
      -- the element is the only node of unknown kind in such a list
      have hnode : ("$[]", tag) ∈ operation.input.unsupportedNodes := by
        cases hinput : operation.input with
        | list element documentation =>
          rw [hinput] at helement
          obtain rfl : element = .unsupported tag words := Option.some.inj helement
          exact List.mem_singleton.mpr rfl
        | _ => rw [hinput] at helement; exact nomatch helement
      have hwarning : Warning.unsupportedKind name .input "$[]" tag ∈
          operation.unsupportedWarnings name .input :=
        List.mem_map.mpr ⟨("$[]", tag), hnode, rfl⟩
      exact List.mem_append_left _ (List.mem_append_right _ hwarning)
  · rename_i hcontainer
    refine List.mem_append_left _ (List.mem_append_left _ ?_)
    rw [if_neg hcontainer]
    exact List.mem_singleton.mpr rfl

/-- Some arguments are accepted for an input if and only if it is a structure or a list of something
that is not of unknown kind; then there are such that bind no name twice. Loading a model with
validation warns of every operation for which no arguments are accepted: that its input is neither a
structure nor a list, or that the items of its input are of unknown kind. -/
theorem callable_and_warned :
    (∀ input : Schema,
      ((∃ (args : Arguments) (params : Params), args.accept input = .ok params) ↔
        input.Callable) ∧
      (input.Callable → ∃ (args : Arguments) (params : Params), args.toJson.Distinct ∧
        args.accept input = .ok params)) ∧
    ∀ (loading : Loading) (model : Model), loading.Made true → loading.outcome = .ok model →
      ∀ name operation, model.operation? name = some operation →
      (∀ (args : Arguments) (params : Params), args.accept operation.input ≠ .ok params) →
      if operation.input.isContainer then
        ∃ tag words, operation.input.element? = some (.unsupported tag words) ∧
          .unsupportedKind name .input "$[]" tag ∈ loading.warnings
      else .uncallable name operation.input.typeName ∈ loading.warnings := by
  refine ⟨fun input => ⟨Schema.callable_iff_exists_accept, fun hcallable => ?_⟩, ?_⟩
  · obtain ⟨params, haccept⟩ := Schema.exists_accept_sampleArgs hcallable
    exact ⟨input.sampleArgs, params, input.distinct_sampleArgs, haccept⟩
  · intro loading model validated hloading name operation hoperation hrefused
    have hcallable : ¬operation.input.Callable := fun hcallable => by
      obtain ⟨args, params, haccept⟩ := Schema.callable_iff_exists_accept.mpr hcallable
      exact hrefused args params haccept
    have hsubset := Model.operation_warnings_subset validated hloading hoperation
    have hwarning := Operation.mem_warnings_of_not_callable hcallable name
    -- a container is not callable for its element, and anything else for its own kind
    split at hwarning
    · obtain ⟨tag, words, helement, hmem⟩ := hwarning
      rw [if_pos ‹_›]
      exact ⟨tag, words, helement, hsubset hmem⟩
    · rw [if_neg ‹_›]
      exact hsubset hwarning

/-- The document of a model whose operations cannot be called: one takes a text, and the other a
list of something of unknown kind. -/
def uncallableDocument : Json :=
  .object [("endpoint_url", .string "http://localhost:4000"), ("operations", .object
    [("greet", .object [("input", .object [("type", .string "string")]),
        ("output", .object [("type", .string "string")])]),
      ("weigh", .object [("input", .object [("type", .string "list"),
          ("members", .object [("type", .string "float")])]),
        ("output", .object [("type", .string "integer")])])])]

/-- The model of this document. -/
def uncallableModel : Model :=
  ((Model.ofEndpoint "http://localhost:4000").withOperation "greet" "" (.scalar .string none)
    (.scalar .string none)).withOperation "weigh" "" (.list (.unsupported "float" none) none)
    (.scalar .integer none)

/-- No arguments are accepted for either of the two, and both were warned of. -/
theorem callable_and_warned_greet_weigh :
    (Model.load true uncallableDocument).outcome = .ok uncallableModel ∧
    (Schema.Callable (.list (.list (.unsupported "float" none) none) none) ∧
      ∃ (args : Arguments) (params : Params), args.toJson.Distinct ∧
        args.accept (.list (.list (.unsupported "float" none) none) none) = .ok params) ∧
    .uncallable "greet" "string" ∈ (Model.load true uncallableDocument).warnings ∧
    ∃ tag, .unsupportedKind "weigh" .input "$[]" tag ∈
      (Model.load true uncallableDocument).warnings := by
  have hload : (Model.load true uncallableDocument).outcome = .ok uncallableModel := by
    decide +kernel
  obtain ⟨hcallable, hwarned⟩ := callable_and_warned
  have hnested : Schema.Callable (.list (.list (.unsupported "float" none) none) none) :=
    .list (fun _ _ => Schema.noConfusion) none
  have hrefused (input : Schema) (h : ¬input.Callable) (args : Arguments) (params : Params) :
      args.accept input ≠ .ok params :=
    fun haccept => h ((hcallable input).1.mp ⟨args, params, haccept⟩)
  have hoperation (name : String) (operation : Operation)
      (h : uncallableModel.operation? name = some operation) :=
    hwarned _ _ (.document uncallableDocument) hload name operation h
  have hgreet := hoperation "greet" _ rfl
    (hrefused _ (Schema.not_callable_iff.mpr (.inl rfl)))
  obtain ⟨tag, -, -, hweigh⟩ := hoperation "weigh" _ rfl
    (hrefused _ (Schema.not_callable_iff.mpr (.inr ⟨"float", none, rfl⟩)))
  exact ⟨hload, ⟨hnested, (hcallable _).2 hnested⟩, hgreet, tag, hweigh⟩

end SchemaCall
