import SchemaCall.Entries
import SchemaCall.Json.Basic
import SchemaCall.Yaml.Event

/-!
# Documents and their values

A text is read as one document, which stands for a JSON value.
-/

namespace SchemaCall.Yaml

/-! ## Documents

A document is what its events say, up to its end or to an error. Aliases are resolved to numbers of
anchored nodes while the events are read: an anchor gets as number how many different names were
known before it, so a name that is bound again shares the number of the next new name, and whichever
node came last under a number is the one that its aliases stand for.
-/

/-- A part of a document. -/
inductive Piece where
  | alias (number : Nat)
  | scalar (tag : Option String) (text : String) (style : Style)
  | sequenceStart (tag : Option String)
  | sequenceEnd
  | mappingStart (tag : Option String)
  | mappingEnd
  | void
  deriving DecidableEq, Repr

/-- A document that was read, as far as it goes. -/
structure Document where
  pieces : Array (Piece × Mark)
  names : List (String × Nat)
  targets : List (Nat × Nat)
  error : Option YamlError

namespace Document

/-- The document without any part. -/
def empty : Document := ⟨#[], [], [], none⟩

/-- Add a part. -/
def push (document : Document) (piece : Piece) (mark : Mark) : Document :=
  { document with pieces := document.pieces.push (piece, mark) }

/-- Let an anchor stand for the part that is added next. -/
def bind (document : Document) (anchor : Option String) : Document :=
  match anchor with
  | none => document
  | some name =>
    -- a name that is bound again does not raise the number of names
    let number := document.names.length
    { document with
      names := Entries.set document.names name number
      targets := (number, document.pieces.size) :: document.targets }

/-- Read a document up to its end. Also gives what is left, unless there was an error or the text
has ended. -/
def ofEvents (fuel : Nat) (document : Document) (reader : EventReader) :
    Document × Option EventReader :=
  match fuel with
  | 0 => (document, none)
  | fuel + 1 =>
    match reader.next with
    | .error error => ({ document with error := some error }, none)
    | .ok (event, mark, reader) =>
      match event with
      | .streamStart | .documentStart => ofEvents fuel document reader
      | .streamEnd =>
        (if document.pieces.isEmpty then document.push .void mark else document, none)
      | .documentEnd => (document, some reader)
      | .alias name =>
        match Entries.get? document.names name with
        | some number => ofEvents fuel (document.push (.alias number) mark) reader
        | none => ({ document with error := some (.ofMark .unknownAnchor mark) }, none)
      | .scalar properties text style =>
        ofEvents fuel
          ((document.bind properties.anchor).push (.scalar properties.tag text style) mark) reader
      | .sequenceStart properties =>
        ofEvents fuel
          ((document.bind properties.anchor).push (.sequenceStart properties.tag) mark) reader
      | .sequenceEnd => ofEvents fuel (document.push .sequenceEnd mark) reader
      | .mappingStart properties =>
        ofEvents fuel
          ((document.bind properties.anchor).push (.mappingStart properties.tag) mark) reader
      | .mappingEnd => ofEvents fuel (document.push .mappingEnd mark) reader

/-- A bound on the number of events of a text: a token makes at most a few events, and a character
at most a few tokens. -/
def eventBound (text : String) : Nat := 16 * text.length + 64

/-- The first document of a text, and what is left after it. -/
def ofText (text : String) : Document × Option EventReader :=
  ofEvents (eventBound text) empty (.ofText text)

/-- Does more than the end of the text follow a document? -/
def isFollowed (rest : Option EventReader) : Bool :=
  match rest with
  | none => false
  | some reader =>
    match reader.next with
    | .ok (.streamEnd, _) => false
    | _ => true

end Document

/-! ## Values of documents

A document stands for a JSON value. Plain scalars may be null, truth values, integers or floats;
everything else is a string. Keys are taken as they are written. Infinite floats and those that are
no number become null; an integer beyond 64 bits is refused, and so is a tag of one's own. Nodes
nest at most 128 deep, and aliases are followed at most a hundred times as often as the document has
parts.
-/

open Decimal

/-! ### Scalars -/

/-- Is the text one of null? -/
def isNull (text : String) : Bool :=
  ["null", "Null", "NULL", "~"].contains text

/-- The truth value that a text stands for. -/
def truthValue? (text : String) : Option Bool :=
  if ["true", "True", "TRUE"].contains text then some true
  else if ["false", "False", "FALSE"].contains text then some false
  else none

/-- The sign in front of a number, if there is one, and what follows it. -/
def splitSign : List Char → Option Bool × List Char
  | '+' :: rest => (some false, rest)
  | '-' :: rest => (some true, rest)
  | rest => (none, rest)

/-- Are these digits that start with a needless zero? Such a text is a string. -/
def hasLeadingZero (digits : List Char) : Bool :=
  1 < digits.length && digits.head? = some '0' && digits.all Char.isDigit

/-- The value of digits of a base, of which there has to be one. -/
def digitsValue? (base : Nat) (digits : List Char) : Option Nat :=
  if digits.isEmpty then none else Text.digitsValue? base digits

/-- The magnitude of an integer after its sign. -/
def magnitude? : List Char → Option Nat
  | '0' :: 'x' :: digits => digitsValue? 16 digits
  | '0' :: 'o' :: digits => digitsValue? 8 digits
  | '0' :: 'b' :: digits => digitsValue? 2 digits
  | digits => if hasLeadingZero digits then none else digitsValue? 10 digits

/-- The integer that a text stands for. -/
def integer? (text : List Char) : Option Int :=
  let (sign, digits) := splitSign text
  (magnitude? digits).map fun value => if sign = some true then -(value : Int) else value

/-- What an integer of a text stands for. -/
inductive IntegerValue where
  | number (value : Json.Number)
  | tooLarge
  | other

/-- The integer that a text stands for, if it is small enough to count as one. -/
def integerValue (text : List Char) : IntegerValue :=
  match integer? text with
  | none => .other
  | some value =>
    match Json.Number.ofInt? value with
    | some number => .number number
    | none =>
      if -0x80000000000000000000000000000000 ≤ value ∧
          value ≤ 0xffffffffffffffffffffffffffffffff then
        .tooLarge
      else .other

/-- The digits of an exponent after its letter. -/
def exponent? (text : List Char) : Option Int :=
  let (sign, digits) := splitSign text
  (digitsValue? 10 digits).map fun value => if sign = some true then -(value : Int) else value

/-- The finite float that a decimal text stands for. Exponents beyond the limit make no difference:
the value is too large, or zero, already at the limit. -/
def decimal? (text : List Char) : Option Binary64 := do
  let (sign, text) := splitSign text
  let whole := text.takeWhile Char.isDigit
  let rest := text.dropWhile Char.isDigit
  let (fraction, rest) :=
    match rest with
    | '.' :: rest => (rest.takeWhile Char.isDigit, rest.dropWhile Char.isDigit)
    | rest => ([], rest)
  let significand ← digitsValue? 10 (whole ++ fraction)
  let exponent ←
    match rest with
    | [] => some 0
    | 'e' :: rest | 'E' :: rest => exponent? rest
    | _ => none
  -- beyond this the power of ten outweighs all digits that were written
  let limit : Int := 400 + whole.length + fraction.length
  let exponent := max (-limit) (min limit (exponent - fraction.length))
  Binary64.ofDecimal (sign = some true) significand exponent

/-- What a float of a text stands for: a number, or null for one without a finite value. -/
def float? (text : List Char) : Option Json :=
  let (sign, rest) := splitSign text
  if [".inf", ".Inf", ".INF"].contains (String.ofList rest) then some .null
  else if [".nan", ".NaN", ".NAN"].contains (String.ofList text) then some .null
  else if sign = some false ∧ (splitSign rest).1.isSome then none
  else (decimal? text).map fun value => .number (.double value)

/-- The value of a plain scalar without a tag. -/
def plainValue (text : String) : Except Cause Json :=
  if text.isEmpty ∨ isNull text then .ok .null
  else
    match truthValue? text with
    | some value => .ok (.bool value)
    | none =>
      match integerValue text.toList with
      | .number number => .ok (.number number)
      | .tooLarge => .error .integerTooLarge
      | .other =>
        if hasLeadingZero (splitSign text.toList).2 then .ok (.string text)
        else .ok ((float? text.toList).getD (.string text))

/-- Is this a tag of one's own? -/
def isOwnTag (tag : Option String) : Bool :=
  tag.any fun tag => tag.toList.head? = some '!'

/-- The value of a scalar. -/
def scalarValue (tag : Option String) (text : String) (style : Style) : Except Cause Json :=
  if isOwnTag tag then .error .taggedValue
  else
    match tag with
    | some "tag:yaml.org,2002:bool" =>
      match truthValue? text with
      | some value => .ok (.bool value)
      | none => .error .notBoolean
    | some "tag:yaml.org,2002:int" =>
      match integerValue text.toList with
      | .number number => .ok (.number number)
      | .tooLarge => .error .integerTooLarge
      | .other => .error .notInteger
    | some "tag:yaml.org,2002:float" =>
      match float? text.toList with
      | some value => .ok value
      | none => .error .notFloat
    | some "tag:yaml.org,2002:null" => if isNull text then .ok .null else .error .notNull
    | some _ => .ok (.string text)
    | none =>
      match style with
      | .plain => plainValue text
      | .marked => .ok (.string text)

/-! ### Nodes -/

/-- Nodes may nest this deep. -/
def maxDepth : Nat := 128

/-- The place of the next part of a document, and how many aliases were followed so far. -/
structure Cursor where
  index : Nat
  jumps : Nat

namespace Document

/-- The part at the cursor; where there is none, the error that ended the document. -/
def piece (document : Document) (cursor : Cursor) : Except YamlError (Piece × Mark) :=
  match document.pieces[cursor.index]? with
  | some piece => .ok piece
  | none => .error (document.error.getD ⟨.endOfStream, none⟩)

/-- Follow an alias. -/
def follow (document : Document) (number : Nat) (cursor : Cursor) : Except YamlError Cursor :=
  if document.pieces.size * 100 < cursor.jumps + 1 then .error ⟨.tooManyAliases, none⟩
  else
    match document.targets.find? (·.1 = number) with
    | some target => .ok ⟨target.2, cursor.jumps + 1⟩
    | none => .error ⟨.unknownAnchor, none⟩

/-- Read a key: the text of a scalar, whatever its tag. -/
def readKey (document : Document) (fuel : Nat) (cursor : Cursor) :
    Except YamlError (String × Cursor) :=
  match fuel with
  | 0 => .error ⟨.tooManyAliases, none⟩
  | fuel + 1 => do
    let (piece, mark) ← document.piece cursor
    match piece with
    | .scalar _ text _ => return (text, { cursor with index := cursor.index + 1 })
    | .alias number =>
      let (text, after) ← readKey document fuel (← document.follow number cursor)
      return (text, ⟨cursor.index + 1, after.jumps⟩)
    | _ => .error (.ofMark .keyNotScalar mark)

mutual

/-- Read a node that may nest `depth` levels; `fuel` bounds the number of steps. -/
def readNode (document : Document) (fuel depth : Nat) (cursor : Cursor) :
    Except YamlError (Json × Cursor) :=
  match fuel with
  | 0 => .error ⟨.tooManyAliases, none⟩
  | fuel + 1 => do
    let (piece, mark) ← document.piece cursor
    let next := { cursor with index := cursor.index + 1 }
    match piece with
    | .alias number =>
      let (value, after) ← readNode document fuel depth (← document.follow number cursor)
      return (value, { next with jumps := after.jumps })
    | .scalar tag text style =>
      match scalarValue tag text style with
      | .ok value => return (value, next)
      | .error cause => .error (.ofMark cause mark)
    | .sequenceStart tag =>
      if isOwnTag tag then .error (.ofMark .taggedValue mark)
      else
        match depth with
        | 0 => .error (.ofMark .tooDeep mark)
        | depth + 1 =>
          let (items, after) ← readItems document fuel depth next
          return (.array items, after)
    | .mappingStart tag =>
      if isOwnTag tag then .error (.ofMark .taggedValue mark)
      else
        match depth with
        | 0 => .error (.ofMark .tooDeep mark)
        | depth + 1 =>
          let (members, after) ← readMembers document fuel depth next
          return (.object (Entries.setAll [] members), after)
    -- an end is never reached here: the readers below take it
    | .sequenceEnd | .mappingEnd | .void => return (.null, next)

/-- Read the items of a sequence. -/
def readItems (document : Document) (fuel depth : Nat) (cursor : Cursor) :
    Except YamlError (List Json × Cursor) :=
  match fuel with
  | 0 => .error ⟨.tooManyAliases, none⟩
  | fuel + 1 => do
    let (piece, _) ← document.piece cursor
    if piece = .sequenceEnd then return ([], { cursor with index := cursor.index + 1 })
    else
      let (item, cursor) ← readNode document fuel depth cursor
      let (items, cursor) ← readItems document fuel depth cursor
      return (item :: items, cursor)

/-- Read the members of a mapping. -/
def readMembers (document : Document) (fuel depth : Nat) (cursor : Cursor) :
    Except YamlError (List (String × Json) × Cursor) :=
  match fuel with
  | 0 => .error ⟨.tooManyAliases, none⟩
  | fuel + 1 => do
    let (piece, _) ← document.piece cursor
    if piece = .mappingEnd then return ([], { cursor with index := cursor.index + 1 })
    else
      let (name, cursor) ← document.readKey fuel cursor
      let (value, cursor) ← readNode document fuel depth cursor
      let (members, cursor) ← readMembers document fuel depth cursor
      return ((name, value) :: members, cursor)

end

/-- A bound on the number of steps: the document is walked once, and again for every alias that may
be followed. -/
def stepBound (document : Document) : Nat :=
  3 * (document.pieces.size + 1) * (100 * document.pieces.size + 2)

/-- The value of a document. -/
def value (document : Document) : Except YamlError Json := do
  let (value, _) ← document.readNode document.stepBound maxDepth ⟨0, 0⟩
  match document.error with
  | some error => .error error
  | none => return value

end Document

/-- The value of a text: that of its only document. -/
def read (text : String) : Except YamlError Json := do
  let (document, rest) := Document.ofText text
  let value ← document.value
  if Document.isFollowed rest then .error ⟨.severalDocuments, none⟩ else return value

end SchemaCall.Yaml
