import SchemaCall.Text.Basic
import SchemaCall.Yaml.Source

/-!
# Tags, anchors and directives

A tag says how a node is to be understood. It is written in full between angle brackets, or as a
handle and the rest; a directive at the start of a document can give handles their meaning. Another
directive tells the version.
-/

namespace SchemaCall.Yaml

/-- A tag as it is written: a handle, empty for a tag in full, and the rest. -/
structure Tag where
  handle : String
  suffix : String
  deriving DecidableEq, Repr

/-- A directive at the start of a document. -/
inductive Directive where
  | version (major minor : Nat)
  | handle (name meaning : String)
  deriving DecidableEq, Repr

/-! ## Addresses inside tags -/

/-- May the character stand in a tag? A `wide` place admits separators too. -/
def isUriCharacter (wide : Bool) (c : Char) : Bool :=
  isWordCharacter c || ";/?:@&=+$.%!~*'()".toList.contains c || (wide && ",[]".toList.contains c)

/-- The octet of an escape at the start of a text. -/
def octet? : List Char → Option Nat
  | '%' :: a :: b :: _ => do
    let high ← Text.digitValue? a
    let low ← Text.digitValue? b
    return high * 16 + low
  | _ => none

/-- The number of octets that follow the first octet of a character. -/
def followers? (octet : Nat) : Option Nat :=
  if octet < 0x80 then some 0
  else if octet / 32 = 6 then some 1
  else if octet / 16 = 14 then some 2
  else if octet / 8 = 30 then some 3
  else none

/-- Read so many further octets of a character; `bytes` holds those so far, the last one first. -/
def readFollowers (source : Source) (bytes : List UInt8) :
    Nat → Except YamlError (List UInt8 × Source)
  | 0 => .ok (bytes, source)
  | count + 1 =>
    match octet? source.rest with
    | none => source.fail .badUriEscape
    | some octet =>
      if octet / 64 = 2 then readFollowers (source.skip 3) (UInt8.ofNat octet :: bytes) count
      else source.fail .badUriOctet

/-- Read the escapes of one character. -/
def readEscapedCharacter (source : Source) : Except YamlError (Char × Source) :=
  match octet? source.rest with
  | none => source.fail .badUriEscape
  | some octet =>
    match followers? octet with
    | none => source.fail .badUriOctet
    | some count => do
      let (bytes, source) ← readFollowers (source.skip 3) [UInt8.ofNat octet] count
      match Text.Utf8.decode bytes.reverse with
      | .ok (c :: _) => return (c, source)
      | _ => return ('\ufffd', source)

/-- Read characters of a tag; `done` holds those so far, the last one first. -/
def readUri (wide : Bool) (fuel : Nat) (done : List Char) (source : Source) :
    Except YamlError (List Char × Source) :=
  match fuel, source.rest with
  | fuel + 1, c :: _ =>
    if c = '%' then do
      let (character, source) ← readEscapedCharacter source
      readUri wide fuel (character :: done) source
    else if isUriCharacter wide c then readUri wide fuel (c :: done) (source.skip 1)
    else .ok (done.reverse, source)
  | _, _ => .ok (done.reverse, source)

/-- Read the characters of a tag, of which there has to be one. -/
def readFullUri (wide : Bool) (source : Source) : Except YamlError (String × Source) := do
  let (characters, source) ← readUri wide source.size [] source
  if characters.isEmpty then source.fail .missingTagUri
  else return (String.ofList characters, source)

/-! ## Tags -/

/-- Read a handle with its marks. In a directive, one with a name has to end with a mark. -/
def readHandle (inDirective : Bool) (source : Source) : Except YamlError (String × Source) :=
  if source.rest.head? ≠ some '!' then source.fail .badHandle
  else
    let (word, source) := (source.skip 1).takeWhile isWordCharacter
    if source.rest.head? = some '!' then
      .ok (String.ofList ('!' :: (word ++ ['!'])), source.skip 1)
    else if inDirective ∧ !word.isEmpty then source.fail .badHandle
    else .ok (String.ofList ('!' :: word), source)

/-- Does a handle end with a mark of its own? -/
def isWholeHandle (handle : String) : Bool :=
  1 < handle.length && handle.toList.getLast? = some '!'

/-- Read a tag without regard to what follows it. -/
def readTagBody (source : Source) : Except YamlError (Tag × Source) := do
  match source.rest with
  | _ :: '<' :: _ =>
    let (suffix, source) ← readFullUri true (source.skip 2)
    if source.rest.head? = some '>' then return (⟨"", suffix⟩, source.skip 1)
    else source.fail .missingTagEnd
  | _ =>
    let (handle, source) ← readHandle false source
    if isWholeHandle handle then
      let (suffix, source) ← readFullUri false source
      return (⟨handle, suffix⟩, source)
    else
      let (characters, source) ← readUri false source.size [] source
      let suffix := String.ofList (handle.toList.drop 1 ++ characters)
      return (if suffix.isEmpty then ⟨"", "!"⟩ else ⟨"!", suffix⟩, source)

/-- Read a tag; a blank, or a comma inside brackets, has to follow. -/
def readTag (inFlow : Bool) (source : Source) : Except YamlError (Tag × Source) := do
  let (tag, source) ← readTagBody source
  if endsWord source.rest ∨ (inFlow ∧ source.rest.head? = some ',') then return (tag, source)
  else source.fail .missingTagBlank

/-! ## Anchors -/

/-- May the character follow the name of an anchor? -/
def endsAnchor : List Char → Bool
  | [] => true
  | c :: _ => isBlank c || isBreak c || "?:,]\x7d%@\x60".toList.contains c

/-- Read the name of an anchor from after its mark. -/
def readAnchor (source : Source) : Except YamlError (String × Source) :=
  let (name, source) := source.takeWhile isWordCharacter
  if name.isEmpty ∨ !endsAnchor source.rest then source.fail .badAnchor
  else .ok (String.ofList name, source)

/-! ## Directives -/

/-- Read one number of a version, of at most nine digits. -/
def readVersionNumber (source : Source) : Except YamlError (Nat × Source) :=
  let digits := source.rest.takeWhile Char.isDigit
  if 9 < digits.length then (source.skip 9).fail .longVersion
  else if digits.isEmpty then source.fail .missingVersion
  else
    .ok (digits.foldl (fun value c => value * 10 + (c.toNat - '0'.toNat)) 0,
      source.skip digits.length)

/-- Read a version. -/
def readVersion (source : Source) : Except YamlError (Directive × Source) := do
  let (major, source) ← readVersionNumber (source.skipWhile isBlank)
  if source.rest.head? ≠ some '.' then source.fail .missingVersionPoint
  else
    let (minor, source) ← readVersionNumber (source.skip 1)
    return (.version major minor, source)

/-- Read a handle and what it stands for. -/
def readHandleMeaning (source : Source) : Except YamlError (Directive × Source) := do
  let (handle, source) ← readHandle true (source.skipWhile isBlank)
  if !source.rest.head?.any isBlank then source.fail .missingBlank
  else
    let (meaning, source) ← readFullUri true (source.skipWhile isBlank)
    if endsWord source.rest then return (.handle handle meaning, source)
    else source.fail .missingTagBlank

/-- Read the name of a directive. -/
def readDirectiveName (source : Source) : Except YamlError (String × Source) :=
  let (name, source) := source.takeWhile isWordCharacter
  if name.isEmpty then source.fail .missingDirectiveName
  else if !endsWord source.rest then source.fail .badDirectiveName
  else .ok (String.ofList name, source)

/-- Read a directive from after its mark, with its line. -/
def readDirective (source : Source) : Except YamlError (Directive × Source) := do
  let (name, source) ← readDirectiveName source
  let (directive, source) ←
    match name with
    | "YAML" => readVersion source
    | "TAG" => readHandleMeaning source
    | _ => source.fail .unknownDirective
  let source := source.skipComment
  if endsLine source.rest then return (directive, source.skipBreak.2)
  else source.fail .missingLineEnd

end SchemaCall.Yaml
