import SchemaCall.Call.Error
import SchemaCall.Entries
import SchemaCall.Json.Basic

/-!
# Call arguments

A call has positional arguments, keyword arguments, or neither. Both at once can be written down,
and are refused when the call is checked; `Params` is the form that is sent, in which only one of
the two is left.

Arguments are checked against the input schema before anything is sent; a call without arguments
counts as one with no keyword arguments. Where the mode fits the schema, the parameters are checked
one by one, and everywhere else as the value that they are sent as. `Params.check_eq_check_toJson`
says that this is one walk over the value in every case. What passes is sent unchanged.
-/

namespace SchemaCall

/-- The arguments of one call. -/
structure Arguments where
  positional : List Json
  keyword : Table Json
  deriving DecidableEq

namespace Arguments

/-- No arguments. -/
def none : Arguments := ⟨[], ∅⟩

instance : Inhabited Arguments := ⟨none⟩

/-- Add a positional argument at the end. -/
def addPositional (args : Arguments) (value : Json) : Arguments :=
  { args with positional := args.positional ++ [value] }

/-- Set a keyword argument. -/
def setKeyword (args : Arguments) (name : String) (value : Json) : Arguments :=
  { args with keyword := args.keyword.set name value }

/-- The arguments with these positional values and these keyword values, set one after the other. -/
def ofLists (positional : List Json) (keyword : List (String × Json)) : Arguments :=
  ⟨positional, .ofList keyword⟩

/-- Are there no arguments? -/
def isEmpty (args : Arguments) : Bool :=
  args.positional.isEmpty && args.keyword.entries.isEmpty

end Arguments

/-- The parameters of a call, as they are sent. -/
inductive Params where
  | positional (items : List Json)
  | keyword (fields : Table Json)
  deriving DecidableEq

namespace Params

/-- The parameters as a JSON value: an array or an object. -/
def toJson : Params → Json
  | .positional items => .array items
  | .keyword fields => .object fields.entries

/-- Are the parameters positional? -/
def isPositional : Params → Bool
  | .positional _ => true
  | .keyword _ => false

end Params

/-! ## Checking -/

/-- Check parameters against the input schema: keyword parameters as the members of a structure,
positional ones as the items of a list, and all others as one value. -/
def Params.check (input : Schema) (params : Params) : Except Violation Unit :=
  match input, params with
  | .struct members _, .keyword fields => Schema.checkFields members fields.entries "$"
  | .list element _, .positional items => Schema.checkItems element items 0 "$"
  -- the mode disagrees with the schema, or the schema is no container
  | input, params => input.check params.toJson "$"

/-- However parameters are checked, it comes to the walk over the value that they are sent as: the
members of a structure are walked over as an object is, the items of a list as an array is. -/
theorem Params.check_eq_check_toJson (params : Params) (input : Schema) :
    params.check input = input.check params.toJson "$" := by
  cases input with
  | struct members documentation =>
    cases params with
    | keyword fields => rw [check, toJson, Schema.check]
    | positional items => rfl
  | list element documentation =>
    cases params with
    | keyword fields => rfl
    | positional items => rw [check, toJson, Schema.check]
  | scalar kind documentation => rfl
  | unsupported tag documentation => rfl

namespace Arguments

/-- The parameters that the arguments stand for, unless both modes are used. -/
def params? (args : Arguments) : Except CallError Params :=
  if args.positional.isEmpty then .ok (.keyword args.keyword)
  else if args.keyword.entries.isEmpty then .ok (.positional args.positional)
  else .error (.ambiguousMode args.positional.length args.keyword.size)

/-- The parameters to send, if the arguments conform to the input schema. -/
def accept (input : Schema) (args : Arguments) : Except CallError Params :=
  match args.params? with
  | .error error => .error error
  | .ok params =>
    match params.check input with
    | .error violation => .error (.nonconforming violation)
    | .ok () => .ok params

/-- Arguments of one mode are accepted if the walk over what is sent finds no violation. -/
theorem accept_of_params? {args : Arguments} {params : Params} (h : args.params? = .ok params)
    (input : Schema) : args.accept input =
      match input.check params.toJson "$" with
      | .error violation => .error (.nonconforming violation)
      | .ok () => .ok params := by
  rw [accept, h]
  dsimp only
  rw [params.check_eq_check_toJson]

end Arguments

end SchemaCall
