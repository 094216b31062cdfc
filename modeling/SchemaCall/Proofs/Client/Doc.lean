import SchemaCall.Client.Basic
import SchemaCall.Proofs.Call.Requests
import SchemaCall.Proofs.Schema.Shape

/-!
# Documentation and calls

The documentation of an operation and the check of its arguments are read off the same input schema,
one for the reader and one for the caller. They agree on what is seen at the top
(`OperationDoc.describes_calls`): a call that is accepted has the form that the parameters tell of,
the parameters of a structure are the keywords that are known, and a scalar is accepted where a
parameter is of its type.
-/

namespace SchemaCall

/-! ## Calls with one argument -/

namespace Arguments

variable {input : Schema} {value : Json}

/-- A call with one keyword argument. -/
def ofKeyword (name : String) (value : Json) : Arguments :=
  .ofLists [] [(name, value)]

/-- A call with one positional argument. -/
def ofItem (value : Json) : Arguments :=
  .ofLists [value] []

/-- A keyword argument alone is of one mode. -/
theorem not_isMixed_ofKeyword (name : String) (value : Json) : ¬(ofKeyword name value).IsMixed :=
  fun hmixed => hmixed.1 rfl

/-- A positional argument alone is of one mode. -/
theorem not_isMixed_ofItem (value : Json) : ¬(ofItem value).IsMixed :=
  fun hmixed => hmixed.2 rfl

/-- A call of one mode is refused for the first violation, and for nothing else. -/
theorem accept_eq_nonconforming_iff {args : Arguments} (h : ¬args.IsMixed) {violation : Violation} :
    args.accept input = .error (.nonconforming violation) ↔
      input.check args.toJson "$" = .error violation :=
  ⟨fun haccept => (check_eq_error_of_accept haccept).2, accept_of_check_eq_error h⟩

end Arguments

/-- The path of something inside a value is not shorter than the path of the value. -/
theorem Json.Location.length_le_length_path (start : String) (location : Json.Location) :
    start.length ≤ (location.path start).length := by
  rw [path, String.length_append]
  exact Nat.le_add_right ..

namespace Schema

/-- An unknown parameter is found at a path that is not shorter than where checking starts. -/
theorem length_le_of_check_eq_unknownParameter {schema : Schema} {value : Json}
    {start name path : String}
    (h : check schema value start = .error (.unknownParameter name path)) :
    start.length ≤ path.length := by
  cases located_of_mem_violations (mem_violations_of_check_eq_error h) with
  | @unknownParameter location => exact location.length_le_length_path start

/-- A keyword argument is an unknown parameter of a structure if and only if no member has its
name: unknown parameters inside its value are found further down. -/
theorem accept_ofKeyword_eq_unknownParameter_iff {members : List (String × Schema)}
    {documentation : Option String} {name : String} {value : Json} :
    (Arguments.ofKeyword name value).accept (.struct members documentation) =
        .error (.nonconforming (.unknownParameter name "$")) ↔
      name ∉ Entries.names members := by
  have hvalue : (Arguments.ofKeyword name value).toJson = .object [(name, value)] := rfl
  rw [Arguments.accept_eq_nonconforming_iff (Arguments.not_isMixed_ofKeyword name value), hvalue]
  constructor
  · intro hcheck hname
    obtain ⟨member, hmember⟩ := Option.isSome_iff_exists.mp (Entries.isSome_get?_iff.mpr hname)
    rw [check_field hmember] at hcheck
    -- what is found inside the value has at least the path of the member, which is not the root
    have hlength := length_le_of_check_eq_unknownParameter hcheck
    rw [memberPath, String.length_append, String.length_append] at hlength
    have hroot : "$".length = 1 := by decide
    have hdot : ".".length = 1 := by decide
    omega
  · exact fun hname => check_undeclared_field (Entries.get?_eq_none_iff.mpr hname) ..

/-- A keyword argument is accepted if and only if its value conforms to the member of its name. -/
theorem exists_accept_ofKeyword_iff {members : List (String × Schema)} {name : String}
    {member : Schema} (h : Entries.get? members name = some member) (documentation : Option String)
    (value : Json) :
    (∃ params, (Arguments.ofKeyword name value).accept (.struct members documentation) =
      .ok params) ↔ member.Conforms value := by
  have hvalue : (Arguments.ofKeyword name value).toJson = .object [(name, value)] := rfl
  rw [Arguments.exists_accept_iff, hvalue,
    and_iff_right (Arguments.not_isMixed_ofKeyword name value)]
  calc
    Conforms (.struct members documentation) (.object [(name, value)]) ↔
        check (.struct members documentation) (.object [(name, value)]) "$" = .ok () :=
      check_eq_ok_iff.symm
    _ ↔ check member value (memberPath "$" name) = .ok () := by rw [check_field h]
    _ ↔ member.Conforms value := check_eq_ok_iff

/-- A positional argument is accepted if and only if it conforms to the element of the list. -/
theorem exists_accept_ofItem_iff (element : Schema) (documentation : Option String)
    (value : Json) :
    (∃ params, (Arguments.ofItem value).accept (.list element documentation) = .ok params) ↔
      element.Conforms value := by
  have hvalue : (Arguments.ofItem value).toJson = .array [value] := rfl
  rw [Arguments.exists_accept_iff, hvalue, and_iff_right (Arguments.not_isMixed_ofItem value),
    conforms_list_iff, List.forall_mem_singleton]

end Schema

/-! ## Parameters -/

namespace ParamDoc

/-- The node of an input that a parameter tells of: the element of a list if the parameter may be
repeated, and otherwise the member of its name. -/
def node? (param : ParamDoc) (input : Schema) : Option Schema :=
  if param.isVariadic then input.element?
  else input.members?.bind fun members => Entries.get? members param.name

/-- A call that gives the parameter one value and nothing else. -/
def give (param : ParamDoc) (value : Json) : Arguments :=
  if param.isVariadic then .ofItem value else .ofKeyword param.name value

end ParamDoc

namespace OperationDoc

/-- The arguments have the form that the parameters tell of: positional ones, at least one, for one
parameter that may be repeated; otherwise keyword ones that are named as parameters. -/
def Fits (params : List ParamDoc) (args : Arguments) : Prop :=
  (∃ param, params = [param] ∧ param.isVariadic = true ∧ args.positional ≠ [] ∧
    args.keyword.entries = []) ∨
  ((∀ param ∈ params, param.isVariadic = false) ∧ args.positional = [] ∧
    ∀ key ∈ args.keyword.names, key ∈ params.map ParamDoc.name)

/-- The parameters of a structure are named as its members are, in the same order. -/
theorem names_paramsOf_struct (members : List (String × Schema)) (documentation : Option String) :
    (paramsOf (.struct members documentation)).map ParamDoc.name = Entries.names members := by
  rw [paramsOf, List.map_map]
  rfl

/-- Arguments that are accepted have the form that the parameters tell of. -/
theorem fits_of_accept {input : Schema} {args : Arguments} {params : Params}
    (h : args.accept input = .ok params) : Fits (paramsOf input) args := by
  obtain ⟨hmixed, hconforms⟩ := Arguments.exists_accept_iff.mp ⟨params, h⟩
  obtain ⟨positional, keyword⟩ := args
  -- only a container accepts: a list takes items alone, and a structure keywords alone
  cases input with
  | scalar kind documentation =>
    exact (Arguments.not_conforms_scalar _ kind documentation hconforms).elim
  | unsupported tag documentation => exact nomatch hconforms
  | list element documentation =>
    cases positional with
    | nil => exact nomatch hconforms
    | cons item rest =>
      have hkeyword : keyword.entries = [] :=
        not_not.mp fun hentries => hmixed ⟨List.cons_ne_nil item rest, hentries⟩
      exact .inl ⟨_, rfl, rfl, List.cons_ne_nil item rest, hkeyword⟩
  | struct members documentation =>
    cases positional with
    | cons item rest => exact nomatch hconforms
    | nil =>
      refine .inr ⟨fun param hparam => ?_, rfl, fun key hkey => ?_⟩
      · obtain ⟨member, -, rfl⟩ := List.mem_map.mp hparam
        rfl
      · obtain ⟨field, hfield, rfl⟩ := List.mem_map.mp hkey
        obtain ⟨member, hmember, -⟩ := Schema.conforms_struct_iff.mp hconforms field hfield
        rw [names_paramsOf_struct]
        exact Entries.isSome_get?_iff.mp (Option.isSome_iff_exists.mpr ⟨member, hmember⟩)

/-- Every parameter tells of a node of the input and names its type; a call that gives it one value
is accepted if and only if the value conforms to the node. -/
theorem exists_node_of_mem_paramsOf {input : Schema} (distinct : input.Distinct) {param : ParamDoc}
    (h : param ∈ paramsOf input) :
    ∃ node, param.node? input = some node ∧ param.typeName = node.typeName ∧
      ∀ value, (∃ params, (param.give value).accept input = .ok params) ↔ node.Conforms value := by
  cases input with
  | list element documentation =>
    obtain rfl := List.mem_singleton.mp h
    exact ⟨element, rfl, rfl, Schema.exists_accept_ofItem_iff element documentation⟩
  | struct members documentation =>
    obtain ⟨⟨name, member⟩, hmember, rfl⟩ := List.mem_map.mp h
    have hget : Entries.get? members name = some member := Entries.get?_of_mem distinct.1 hmember
    exact ⟨member, hget, rfl, Schema.exists_accept_ofKeyword_iff hget documentation⟩
  | _ => exact nomatch h

/-- The documentation of an operation describes the calls that are accepted, as far as can be seen
at the top of its input. A call that is accepted gives at least one positional argument to one
parameter that may be repeated, or only keyword arguments that are named as parameters. The
parameters of a structure are its members, each once and in the order of declaration, and a keyword
argument is an unknown parameter at the root if and only if it is not among them. A call with one
argument, for a parameter that is declared as a scalar, is accepted if and only if the value is of
the type that is documented. -/
theorem describes_calls (operation : Operation) (distinct : operation.input.Distinct) :
    (∀ (args : Arguments) (params : Params), args.accept operation.input = .ok params →
      Fits (OperationDoc.of operation).params args) ∧
    (∀ members documentation, operation.input = .struct members documentation →
      (OperationDoc.of operation).params.map ParamDoc.name = Entries.names members ∧
      ((OperationDoc.of operation).params.map ParamDoc.name).Nodup ∧
      ∀ key value, (Arguments.ofKeyword key value).accept operation.input =
          .error (.nonconforming (.unknownParameter key "$")) ↔
        key ∉ (OperationDoc.of operation).params.map ParamDoc.name) ∧
    ∀ param ∈ (OperationDoc.of operation).params,
      ∃ node, param.node? operation.input = some node ∧
        ∀ kind documentation, node = .scalar kind documentation →
          ∀ value, (∃ params, (param.give value).accept operation.input = .ok params) ↔
            value.kindName = param.typeName := by
  refine ⟨fun args params haccept => fits_of_accept haccept, ?_, ?_⟩
  · intro members documentation hinput
    rw [hinput] at distinct
    rw [OperationDoc.of, hinput]
    dsimp only
    rw [names_paramsOf_struct]
    exact ⟨rfl, distinct.1, fun key value => Schema.accept_ofKeyword_eq_unknownParameter_iff⟩
  · intro param hparam
    obtain ⟨node, hnode, htype, hgive⟩ := exists_node_of_mem_paramsOf distinct hparam
    refine ⟨node, hnode, ?_⟩
    rintro kind documentation rfl value
    rw [hgive, Schema.conforms_scalar_iff, Scalar.accepts_iff, htype]
    rfl

/-- An operation that is given keyword arguments, one of them called `args`. -/
def submitOperation : Operation where
  name := "submit"
  documentation := "Submits a job."
  input := .struct [("args", .scalar .integer (some "How many.")),
    ("queue", .unsupported "handle" none)] none
  output := .scalar .boolean none

/-- The number three. -/
def three : Json :=
  .number (.integer 3 (by decide))

/-- The first keyword argument of this operation is accepted if it is an integer, and other keywords
than the two are unknown. -/
theorem describes_calls_submit :
    submitOperation.input.Distinct ∧
    Fits (OperationDoc.of submitOperation).params (.ofKeyword "args" three) ∧
    ((OperationDoc.of submitOperation).params.map ParamDoc.name = ["args", "queue"] ∧
      (Arguments.ofKeyword "count" .null).accept submitOperation.input =
        .error (.nonconforming (.unknownParameter "count" "$"))) ∧
    ∀ value, (∃ params, (Arguments.ofKeyword "args" value).accept submitOperation.input =
      .ok params) ↔ value.kindName = "integer" := by
  have hdistinct : submitOperation.input.Distinct := by
    simp [submitOperation, Schema.Distinct, Schema.DistinctMembers, Entries.Distinct]
  obtain ⟨hfits, hstruct, hgive⟩ := describes_calls submitOperation hdistinct
  obtain ⟨hnames, -, hunknown⟩ := hstruct _ _ rfl
  obtain ⟨node, hnode, hscalar⟩ := hgive ⟨"args", "integer", "How many.", false⟩ List.mem_cons_self
  have haccept : (Arguments.ofKeyword "args" three).accept submitOperation.input =
      .ok (.keyword (.ofList [("args", three)])) := by
    decide +kernel
  obtain rfl : Schema.scalar .integer (some "How many.") = node := Option.some.inj hnode
  refine ⟨hdistinct, hfits _ _ haccept, ⟨hnames, ?_⟩, hscalar .integer _ rfl⟩
  exact (hunknown "count" .null).mpr (by decide)

end OperationDoc

end SchemaCall
