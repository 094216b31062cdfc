import SchemaCall.Json.Basic
import SchemaCall.Text.Basic

/-!
# Reading JSON

`read` turns a text into a value or into a `ReadError`: a cause and the place where it was noticed.
The reader works on the characters that are left. A failure remembers those too, and how many bytes
beyond their start the reader had already looked, so that the place is computed once, at the end.

A number keeps the digits that fit 64 bits in its significand and scales it by one multiplication or
division with a power of ten (`Binary64.ofSignificand`); a repeated name keeps its first place and
its last value; arrays and objects nest at most `maxDepth` deep.
-/

namespace SchemaCall.Json

open Decimal

/-- Why a text is no JSON value. -/
inductive ReadCause where
  | unclosedList
  | unclosedObject
  | unclosedString
  | missingValue
  | expectedColon
  | expectedListEnd
  | expectedObjectEnd
  | expectedWord
  | expectedValue
  | invalidEscape
  | invalidNumber
  | numberOutOfRange
  | controlCharacter
  | expectedName
  | loneSurrogate
  | trailingComma
  | trailingCharacters
  | cutSurrogatePair
  | tooDeep
  | invalidCodePoint
  deriving DecidableEq, Repr

/-- The wording of a cause. -/
def ReadCause.message : ReadCause → String
  | .unclosedList => "EOF while parsing a list"
  | .unclosedObject => "EOF while parsing an object"
  | .unclosedString => "EOF while parsing a string"
  | .missingValue => "EOF while parsing a value"
  | .expectedColon => "expected `:`"
  | .expectedListEnd => "expected `,` or `]`"
  | .expectedObjectEnd => "expected `,` or `\x7d`"
  | .expectedWord => "expected ident"
  | .expectedValue => "expected value"
  | .invalidEscape => "invalid escape"
  | .invalidNumber => "invalid number"
  | .numberOutOfRange => "number out of range"
  | .controlCharacter => "control character (\\u0000-\\u001F) found while parsing a string"
  | .expectedName => "key must be a string"
  | .loneSurrogate => "lone leading surrogate in hex escape"
  | .trailingComma => "trailing comma"
  | .trailingCharacters => "trailing characters"
  | .cutSurrogatePair => "unexpected end of hex escape"
  | .tooDeep => "recursion limit exceeded"
  | .invalidCodePoint => "invalid unicode code point"

/-- A failure inside the reader: what is wrong, the characters that were left, and how many bytes
of them had been looked at. -/
structure Fault where
  cause : ReadCause
  rest : List Char
  ahead : Nat
  deriving DecidableEq, Repr

/-- A failure just before the characters that are left. -/
def Fault.here (cause : ReadCause) (rest : List Char) : Fault := ⟨cause, rest, 0⟩

/-- A failure at the next byte, which counts as read. -/
def Fault.next (cause : ReadCause) (rest : List Char) : Fault := ⟨cause, rest, 1⟩

/-- The outcome of a reader: what was read and the characters that are left. -/
abbrev Reading (α : Type) := Except Fault (α × List Char)

/-! ## Blanks and words -/

/-- The blanks allowed between tokens. -/
def isBlank (c : Char) : Bool :=
  c = ' ' || c = '\n' || c = '\t' || c = '\r'

/-- The characters from the first that is not a blank. -/
def skipBlanks (chars : List Char) : List Char :=
  chars.dropWhile isBlank

/-- Read the given letters and answer with a value. -/
def readWord (value : Json) : List Char → List Char → Reading Json
  | [], chars => .ok (value, chars)
  | _ :: _, [] => .error (.here .missingValue [])
  | letter :: word, c :: chars =>
    if c = letter then readWord value word chars else .error (.next .expectedWord (c :: chars))

/-! ## Strings -/

/-- The value of four hexadecimal digits. -/
def hexValue4? (a b c d : Char) : Option Nat := do
  let a ← Text.digitValue? a
  let b ← Text.digitValue? b
  let c ← Text.digitValue? c
  let d ← Text.digitValue? d
  return ((a * 16 + b) * 16 + c) * 16 + d

/-- The failure of an escape whose four digits start at the given characters. -/
def hexFault (chars : List Char) : Fault :=
  if Text.byteLength chars < 4 then .here .unclosedString [] else ⟨.invalidEscape, chars, 4⟩

/-- The character of an escape with one letter. -/
def shortEscape? : Char → Option Char
  | '"' => some '"'
  | '\\' => some '\\'
  | '/' => some '/'
  | 'b' => some '\x08'
  | 'f' => some '\x0c'
  | 'n' => some '\n'
  | 'r' => some '\r'
  | 't' => some '\t'
  | _ => none

/-- Is this the first half of a pair of UTF-16 units? -/
def isLeadingUnit (unit : Nat) : Bool := 0xD800 ≤ unit && unit ≤ 0xDBFF

/-- Is this the second half of a pair of UTF-16 units? -/
def isTrailingUnit (unit : Nat) : Bool := 0xDC00 ≤ unit && unit ≤ 0xDFFF

/-- The character of a pair of UTF-16 units. -/
def pairedUnits (leading trailing : Nat) : Char :=
  Char.ofNat ((leading - 0xD800) * 0x400 + (trailing - 0xDC00) + 0x10000)

/-- The rest of a string after its opening quote; `done` holds the characters read so far, the
last one first. -/
def readString (done : List Char) : List Char → Reading String
  | [] => .error (.here .unclosedString [])
  | '"' :: rest => .ok (String.ofList done.reverse, rest)
  | ['\\'] => .error (.here .unclosedString [])
  | '\\' :: 'u' :: a :: b :: c :: d :: rest =>
    match hexValue4? a b c d with
    | none => .error (hexFault (a :: b :: c :: d :: rest))
    | some unit =>
      -- the second half of a pair cannot come first
      if isTrailingUnit unit then .error (.here .loneSurrogate rest)
      else if isLeadingUnit unit then
        match rest with
        | [] => .error (.here .unclosedString [])
        | ['\\'] => .error (.here .unclosedString [])
        | '\\' :: 'u' :: e :: f :: g :: h :: rest =>
          match hexValue4? e f g h with
          | none => .error (hexFault (e :: f :: g :: h :: rest))
          | some second =>
            if isTrailingUnit second then readString (pairedUnits unit second :: done) rest
            else .error (.here .loneSurrogate rest)
        | '\\' :: 'u' :: rest => .error (hexFault rest)
        | '\\' :: rest => .error (.next .cutSurrogatePair rest)
        | rest => .error (.next .cutSurrogatePair rest)
      else readString (Char.ofNat unit :: done) rest
  | '\\' :: 'u' :: rest => .error (hexFault rest)
  | '\\' :: letter :: rest =>
    match shortEscape? letter with
    | some c => readString (c :: done) rest
    | none => .error (.next .invalidEscape (letter :: rest))
  | c :: rest =>
    if c.toNat < 0x20 then .error (.next .controlCharacter (c :: rest))
    else readString (c :: done) rest

/-! ## Numbers -/

/-- The greatest significand that is kept. -/
def maxSignificand : Nat := 0xffffffffffffffff

/-- The significand and exponent of the digits before the point: digits that no longer fit each
raise the exponent. -/
def integerDigits (digits : List Char) : Nat × Nat :=
  go 0 digits
where
  go (significand : Nat) : List Char → Nat × Nat
    | [] => (significand, 0)
    | c :: rest =>
      let next := significand * 10 + (c.toNat - '0'.toNat)
      if maxSignificand < next then (significand, rest.length + 1) else go next rest

/-- Add the digits after the point to a significand: each lowers the exponent, and digits that no
longer fit are dropped. -/
def fractionDigits (significand : Nat) (exponent : Int) : List Char → Nat × Int
  | [] => (significand, exponent)
  | c :: rest =>
    let next := significand * 10 + (c.toNat - '0'.toNat)
    if maxSignificand < next then (significand, exponent)
    else fractionDigits next (exponent - 1) rest

/-- The digits of an exponent. -/
inductive ExponentDigits where
  | value (value : Nat) (rest : List Char)
  | huge (rest : List Char)

/-- Read the digits of an exponent. -/
def readExponentDigits (value : Nat) : List Char → ExponentDigits
  | [] => .value value []
  | c :: rest =>
    if c.isDigit then
      let next := value * 10 + (c.toNat - '0'.toNat)
      if 0x7fffffff < next then .huge rest else readExponentDigits next rest
    else .value value (c :: rest)

/-- Divide by `10 ^ 308` so many times, stopping at zero. -/
def divideDown : Nat → Binary64 → Binary64
  | 0, x => x
  | times + 1, x =>
    if x.isZero then x
    else divideDown times (((Binary64.ofNat false (Nat.pow 10 308)).bind x.div).getD x)

/-- The double of a significand scaled by a power of ten. The significand and the power are each
rounded to a double first, and a power below `10 ^ -308` is divided out in steps. -/
def ofSignificand (negative : Bool) (significand : Nat) (exponent : Int) : Option Binary64 := do
  let x ← Binary64.ofNat false significand
  let scaled ←
    if 0 ≤ exponent then
      if exponent ≤ 308 then (Binary64.ofNat false (Nat.pow 10 exponent.toNat)).bind x.mul
      else if x.isZero then some x
      else none
    else
      let steps := (exponent.natAbs - 1) / 308
      let reduced := divideDown steps x
      if reduced.isZero then some reduced
      else (Binary64.ofNat false (Nat.pow 10 (exponent.natAbs - 308 * steps))).bind reduced.div
  return { scaled with negative }

/-- The double with the given parts, at the end of its text. -/
def doubleAt (negative : Bool) (significand : Nat) (exponent : Int) (rest : List Char) :
    Reading Json :=
  match ofSignificand negative significand exponent with
  | some x => .ok (.number (.double x), rest)
  | none => .error (.here .numberOutOfRange rest)

/-- The rest of a number after the letter of its exponent. -/
def readExponent (negative : Bool) (significand : Nat) (exponent : Int) (chars : List Char) :
    Reading Json :=
  let (positive, digits) :=
    match chars with
    | '+' :: rest => (true, rest)
    | '-' :: rest => (false, rest)
    | rest => (true, rest)
  match digits with
  | [] => .error (.here .missingValue [])
  | c :: _ =>
    if c.isDigit then
      match readExponentDigits 0 digits with
      | .value value rest =>
        doubleAt negative significand (if positive then exponent + value else exponent - value) rest
      | .huge rest =>
        -- zero stays zero, and so small a power makes zero of anything
        if significand ≠ 0 ∧ positive then .error (.here .numberOutOfRange rest)
        else .ok (.number (.double (.zero negative)), rest.dropWhile Char.isDigit)
    else .error (.next .invalidNumber digits)

/-- The rest of a number after its point. -/
def readFraction (negative : Bool) (significand : Nat) (exponent : Int) (chars : List Char) :
    Reading Json :=
  let digits := chars.takeWhile Char.isDigit
  let rest := chars.dropWhile Char.isDigit
  if digits.isEmpty then
    match rest with
    | [] => .error (.here .missingValue [])
    | rest => .error (.next .invalidNumber rest)
  else
    -- these digits are tried even when the integer part had to drop some of its own
    let (significand, exponent) := fractionDigits significand exponent digits
    match rest with
    | 'e' :: rest | 'E' :: rest => readExponent negative significand exponent rest
    | rest => doubleAt negative significand exponent rest

/-- An integer literal whose digits fit the significand: an integer when it fits a word, a double
otherwise; so is minus zero. -/
def integerLiteral (negative : Bool) (significand : Nat) (rest : List Char) : Reading Json :=
  if negative ∧ significand = 0 then .ok (.number (.double (.zero true)), rest)
  else
    match Number.ofInt? (if negative then -(significand : Int) else significand) with
    | some n => .ok (.number n, rest)
    | none => doubleAt negative significand 0 rest

/-- The rest of a number after its sign. -/
def readNumber (negative : Bool) (chars : List Char) : Reading Json :=
  let digits := chars.takeWhile Char.isDigit
  let rest := chars.dropWhile Char.isDigit
  match digits with
  | [] =>
    match chars with
    | [] => .error (.here .missingValue [])
    | chars => .error (.next .invalidNumber chars)
  | '0' :: _ :: _ => .error (.next .invalidNumber (chars.drop 1))
  | digits =>
    let (significand, dropped) := integerDigits digits
    match rest with
    | '.' :: rest => readFraction negative significand dropped rest
    | 'e' :: rest | 'E' :: rest => readExponent negative significand dropped rest
    | rest =>
      if dropped = 0 then integerLiteral negative significand rest
      else doubleAt negative significand dropped rest

/-! ## Values -/

/-- Arrays and objects may nest this deep. -/
def maxDepth : Nat := 127

mutual

/-- Read a value. `fuel` bounds the number of steps and `depth` the levels still allowed. -/
def readValue : (fuel depth : Nat) → List Char → Reading Json
  | 0, _, chars => .error (.here .missingValue chars)
  | fuel + 1, depth, chars =>
    match skipBlanks chars with
    | [] => .error (.here .missingValue [])
    | '"' :: rest => (readString [] rest).map fun (text, rest) => (.string text, rest)
    | '[' :: rest =>
      match depth with
      | 0 => .error (.next .tooDeep ('[' :: rest))
      | depth + 1 => (readItems fuel depth true rest).map fun (items, rest) => (.array items, rest)
    | '{' :: rest =>
      match depth with
      | 0 => .error (.next .tooDeep ('{' :: rest))
      | depth + 1 =>
        (readMembers fuel depth true rest).map fun (members, rest) =>
          -- a name that is bound again keeps its place and takes the new value
          (.object (Entries.setAll [] members), rest)
    | '-' :: rest => readNumber true rest
    | 'n' :: rest => readWord .null ['u', 'l', 'l'] rest
    | 't' :: rest => readWord (.bool true) ['r', 'u', 'e'] rest
    | 'f' :: rest => readWord (.bool false) ['a', 'l', 's', 'e'] rest
    | c :: rest =>
      if c.isDigit then readNumber false (c :: rest)
      else .error (.next .expectedValue (c :: rest))

/-- Read the items of an array up to its closing bracket. -/
def readItems : (fuel depth : Nat) → (first : Bool) → List Char → Reading (List Json)
  | 0, _, _, chars => .error (.here .missingValue chars)
  | fuel + 1, depth, first, chars =>
    match skipBlanks chars with
    | [] => .error (.here .unclosedList [])
    | ']' :: rest => .ok ([], rest)
    | c :: rest =>
      -- only the items after the first one need a comma
      if first then readItem fuel depth (c :: rest)
      else if c = ',' then
        match skipBlanks rest with
        | [] => .error (.here .missingValue [])
        | ']' :: rest => .error (.next .trailingComma (']' :: rest))
        | rest => readItem fuel depth rest
      else .error (.next .expectedListEnd (c :: rest))

/-- Read one item of an array and those after it. -/
def readItem : (fuel depth : Nat) → List Char → Except Fault (List Json × List Char)
  | 0, _, chars => .error (.here .missingValue chars)
  | fuel + 1, depth, chars => do
    let (item, rest) ← readValue fuel depth chars
    let (items, rest) ← readItems fuel depth false rest
    return (item :: items, rest)

/-- Read the members of an object up to its closing brace. -/
def readMembers : (fuel depth : Nat) → (first : Bool) → List Char → Reading (List (String × Json))
  | 0, _, _, chars => .error (.here .missingValue chars)
  | fuel + 1, depth, first, chars =>
    match skipBlanks chars with
    | [] => .error (.here .unclosedObject [])
    | '}' :: rest => .ok ([], rest)
    | c :: rest =>
      if first then
        if c = '"' then readMember fuel depth rest
        else .error (.next .expectedName (c :: rest))
      else if c = ',' then
        match skipBlanks rest with
        | [] => .error (.here .missingValue [])
        | '"' :: rest => readMember fuel depth rest
        | '}' :: rest => .error (.next .trailingComma ('}' :: rest))
        | rest => .error (.next .expectedName rest)
      else .error (.next .expectedObjectEnd (c :: rest))

/-- Read one member of an object, from after the opening quote of its name, and those after it. -/
def readMember :
    (fuel depth : Nat) → List Char → Except Fault (List (String × Json) × List Char)
  | 0, _, chars => .error (.here .missingValue chars)
  | fuel + 1, depth, chars => do
    let (name, rest) ← readString [] chars
    match skipBlanks rest with
    | [] => .error (.here .unclosedObject [])
    | ':' :: rest =>
      let (value, rest) ← readValue fuel depth rest
      let (members, rest) ← readMembers fuel depth false rest
      return ((name, value) :: members, rest)
    | rest => .error (.next .expectedColon rest)

end

/-! ## Whole texts -/

/-- Why and where a text is no JSON value. -/
structure ReadError where
  cause : ReadCause
  position : Text.Position
  deriving DecidableEq, Repr

/-- The message of a reading error. -/
def ReadError.message (error : ReadError) : String :=
  error.cause.message ++ " at line " ++ toString error.position.line ++ " column " ++
    toString error.position.column

/-- The place of a failure in the text that was read. -/
def Fault.locate (text : List Char) (fault : Fault) : ReadError :=
  let size := Text.byteLength text
  let offset := size - Text.byteLength fault.rest + fault.ahead
  ⟨fault.cause, Text.Position.ofOffset text (min size offset)⟩

/-- Read a whole text: one value, and nothing but blanks after it. A step reads at least one
character or follows one that did, so three times the length of the text and a few more are
enough. -/
def readChars (text : List Char) : Except Fault Json := do
  let (value, rest) ← readValue (3 * text.length + 4) maxDepth text
  match skipBlanks rest with
  | [] => return value
  | rest => .error (.next .trailingCharacters rest)

/-- The value written in a text. -/
def read (text : String) : Except ReadError Json :=
  (readChars text.toList).mapError (Fault.locate text.toList)

/-- The value written in a list of bytes. A string with bytes that are no UTF-8 is refused where it
ends. Outside strings such bytes are refused like other characters that have no place there. -/
def readBytes (bytes : List UInt8) : Except ReadError Json :=
  match Text.Utf8.decode bytes with
  | .ok text => (readChars text).mapError (Fault.locate text)
  | .error fault =>
    -- one stand-in has no place in a string, the other one has its place only there
    let refused := Text.Utf8.decodeMasked '\x01' bytes
    let skipped := Text.Utf8.decodeMasked '?' bytes
    let after := skipped.drop ((Text.Utf8.decode (bytes.take fault.start)).toOption.getD []).length
    match readChars refused with
    | .error ⟨.controlCharacter, rest, ahead⟩ =>
      if rest.length = after.length then
        match readString [] after with
        | .ok (_, rest) => .error (Fault.locate skipped (.here .invalidCodePoint rest))
        | .error fault => .error (fault.locate skipped)
      else .error (Fault.locate refused ⟨.controlCharacter, rest, ahead⟩)
    | outcome => outcome.mapError (Fault.locate refused)

end SchemaCall.Json
