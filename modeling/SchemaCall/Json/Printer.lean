import SchemaCall.Json.Basic

/-!
# Writing JSON

`compact` is the text of a value without any space: members in their order, strings with the short
escapes where there is one and other control characters in hexadecimal, everything else as it is.
`pretty` is the same text laid out with two spaces per level.

Two values that differ only in the order of object members stand for the same thing. `canonical`
sorts the members of every object by name, so that such values become equal.
-/

namespace SchemaCall.Json

/-- A character inside a written string. -/
def escape (c : Char) : List Char :=
  match c with
  | '"' => ['\\', '"']
  | '\\' => ['\\', '\\']
  | '\x08' => ['\\', 'b']
  | '\x0c' => ['\\', 'f']
  | '\n' => ['\\', 'n']
  | '\r' => ['\\', 'r']
  | '\t' => ['\\', 't']
  | c =>
    if c.toNat < 0x20 then
      ['\\', 'u', '0', '0', Nat.digitChar (c.toNat / 16), Nat.digitChar (c.toNat % 16)]
    else [c]

/-- A string between quotes. -/
def writeString (text : String) : List Char :=
  '"' :: (text.toList.flatMap escape ++ ['"'])

mutual

/-- The compact text of a value. -/
def write : Json → List Char
  | .null => "null".toList
  | .bool true => "true".toList
  | .bool false => "false".toList
  | .number n => n.write
  | .string s => writeString s
  | .array items => '[' :: writeItems items
  | .object members => '{' :: writeMembers members

/-- The items of an array and its closing bracket. -/
def writeItems : List Json → List Char
  | [] => [']']
  | item :: rest => write item ++ writeMoreItems rest

/-- The items after the first, each after a comma, and the closing bracket. -/
def writeMoreItems : List Json → List Char
  | [] => [']']
  | item :: rest => ',' :: (write item ++ writeMoreItems rest)

/-- The members of an object and its closing brace. -/
def writeMembers : List (String × Json) → List Char
  | [] => ['}']
  | (name, value) :: rest => writeString name ++ ':' :: (write value ++ writeMoreMembers rest)

/-- The members after the first, each after a comma, and the closing brace. -/
def writeMoreMembers : List (String × Json) → List Char
  | [] => ['}']
  | (name, value) :: rest =>
    ',' :: (writeString name ++ ':' :: (write value ++ writeMoreMembers rest))

end

/-- The compact text of a value. -/
def compact (value : Json) : String :=
  String.ofList value.write

/-- A line break and the indentation of a level. -/
def newline (level : Nat) : List Char :=
  '\n' :: List.replicate (2 * level) ' '

mutual

/-- The text of a value with two spaces per level; empty arrays and objects stay on one line. -/
def writePretty (level : Nat) : Json → List Char
  | .array (item :: rest) =>
    '[' :: (newline (level + 1) ++ writePretty (level + 1) item ++ writePrettyItems level rest)
  | .object ((name, value) :: rest) =>
    '{' :: (newline (level + 1) ++ writeString name ++ ':' :: ' ' ::
      (writePretty (level + 1) value ++ writePrettyMembers level rest))
  | value => write value

/-- The items after the first and the closing bracket of an array at the given level. -/
def writePrettyItems (level : Nat) : List Json → List Char
  | [] => newline level ++ [']']
  | item :: rest =>
    ',' :: (newline (level + 1) ++ writePretty (level + 1) item ++ writePrettyItems level rest)

/-- The members after the first and the closing brace of an object at the given level. -/
def writePrettyMembers (level : Nat) : List (String × Json) → List Char
  | [] => newline level ++ ['}']
  | (name, value) :: rest =>
    ',' :: (newline (level + 1) ++ writeString name ++ ':' :: ' ' ::
      (writePretty (level + 1) value ++ writePrettyMembers level rest))

end

/-- The text of a value laid out over several lines. -/
def pretty (value : Json) : String :=
  String.ofList (value.writePretty 0)

/-! ## The canonical order of members -/

/-- Put an entry before the first one with a greater name. -/
def insertByName {α : Type} (entry : String × α) : List (String × α) → List (String × α)
  | [] => [entry]
  | first :: rest =>
    if entry.1 < first.1 then entry :: first :: rest else first :: insertByName entry rest

/-- Sort entries by name. -/
def sortByName {α : Type} (entries : List (String × α)) : List (String × α) :=
  entries.foldl (fun sorted entry => insertByName entry sorted) []

mutual

/-- The value with the members of every object sorted by name. -/
def canonical : Json → Json
  | .array items => .array (canonicalItems items)
  | .object members => .object (sortByName (canonicalMembers members))
  | value => value

/-- Each item in canonical order. -/
def canonicalItems : List Json → List Json
  | [] => []
  | item :: rest => item.canonical :: canonicalItems rest

/-- The value of each member in canonical order. -/
def canonicalMembers : List (String × Json) → List (String × Json)
  | [] => []
  | (name, value) :: rest => (name, value.canonical) :: canonicalMembers rest

end

end SchemaCall.Json
