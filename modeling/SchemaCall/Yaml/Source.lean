/-!
# YAML texts and errors

A text that is no YAML document, or whose document is no JSON value, is refused with a cause and,
where one is known, the place at which it was noticed.
-/

namespace SchemaCall

/-! ## Errors -/

namespace Yaml

/-- A place in a text. -/
structure Mark where
  index : Nat
  line : Nat
  column : Nat
  deriving DecidableEq, Repr, Inhabited

/-- The start of a text. -/
def Mark.start : Mark := ⟨0, 0, 0⟩

/-- The place so many characters further on in the same line. -/
def Mark.advance (mark : Mark) (count : Nat) : Mark :=
  ⟨mark.index + count, mark.line, mark.column + count⟩

/-- The start of the next line, after a line break of so many characters. -/
def Mark.nextLine (mark : Mark) (count : Nat) : Mark :=
  ⟨mark.index + count, mark.line + 1, 0⟩

/-- A cause for refusing a text. -/
inductive Cause where
  | controlCharacter
  | missingKeyEnd
  | blockEntryNotAllowed
  | keyNotAllowed
  | valueNotAllowed
  | badTokenStart
  | unknownDirective
  | badDirectiveName
  | missingDirectiveName
  | missingLineEnd
  | longVersion
  | missingVersion
  | missingVersionPoint
  | badHandle
  | missingBlank
  | missingTagUri
  | badUriEscape
  | badUriOctet
  | missingTagEnd
  | missingTagBlank
  | badAnchor
  | zeroIndentation
  | tabIndentation
  | documentInQuotes
  | unclosedQuotes
  | unknownEscape
  | badEscapeDigit
  | badEscapeValue
  | colonInFlow
  | missingDocumentStart
  | duplicateVersion
  | incompatibleVersion
  | duplicateHandle
  | undefinedHandle
  | missingNode
  | missingBlockEntry
  | missingKey
  | missingSequenceEnd
  | missingMappingEnd
  | unknownAnchor
  | endOfStream
  | severalDocuments
  | tooDeep
  | tooManyAliases
  | taggedValue
  | notBoolean
  | notInteger
  | notFloat
  | notNull
  | integerTooLarge
  | keyNotScalar
  deriving DecidableEq, Repr

/-- The wording of a cause. -/
def Cause.message : Cause → String
  | .controlCharacter => "control characters are not allowed"
  | .missingKeyEnd => "could not find expected ':'"
  | .blockEntryNotAllowed => "block sequence entries are not allowed in this context"
  | .keyNotAllowed => "mapping keys are not allowed in this context"
  | .valueNotAllowed => "mapping values are not allowed in this context"
  | .badTokenStart => "found character that cannot start any token"
  | .unknownDirective => "found unknown directive name"
  | .badDirectiveName => "found unexpected non-alphabetical character"
  | .missingDirectiveName => "could not find expected directive name"
  | .missingLineEnd => "did not find expected comment or line break"
  | .longVersion => "found extremely long version number"
  | .missingVersion => "did not find expected version number"
  | .missingVersionPoint => "did not find expected digit or '.' character"
  | .badHandle => "did not find expected '!'"
  | .missingBlank => "did not find expected whitespace"
  | .missingTagUri => "did not find expected tag URI"
  | .badUriEscape => "did not find URI escaped octet"
  | .badUriOctet => "found an incorrect UTF-8 octet"
  | .missingTagEnd => "did not find the expected '>'"
  | .missingTagBlank => "did not find expected whitespace or line break"
  | .badAnchor => "did not find expected alphabetic or numeric character"
  | .zeroIndentation => "found an indentation indicator equal to 0"
  | .tabIndentation => "found a tab character that violates indentation"
  | .documentInQuotes => "found unexpected document indicator"
  | .unclosedQuotes => "found unexpected end of stream"
  | .unknownEscape => "found unknown escape character"
  | .badEscapeDigit => "did not find expected hexdecimal number"
  | .badEscapeValue => "found invalid Unicode character escape code"
  | .colonInFlow => "found unexpected ':'"
  | .missingDocumentStart => "did not find expected <document start>"
  | .duplicateVersion => "found duplicate %YAML directive"
  | .incompatibleVersion => "found incompatible YAML document"
  | .duplicateHandle => "found duplicate %TAG directive"
  | .undefinedHandle => "found undefined tag handle"
  | .missingNode => "did not find expected node content"
  | .missingBlockEntry => "did not find expected '-' indicator"
  | .missingKey => "did not find expected key"
  | .missingSequenceEnd => "did not find expected ',' or ']'"
  | .missingMappingEnd => "did not find expected ',' or '\x7d'"
  | .unknownAnchor => "unknown anchor"
  | .endOfStream => "EOF while parsing a value"
  | .severalDocuments =>
    "deserializing from YAML containing more than one document is not supported"
  | .tooDeep => "recursion limit exceeded"
  | .tooManyAliases => "repetition limit exceeded"
  | .taggedValue => "invalid type: enum, expected any valid JSON value"
  | .notBoolean => "invalid value, expected a boolean"
  | .notInteger => "invalid value, expected an integer"
  | .notFloat => "invalid value, expected a float"
  | .notNull => "invalid value, expected null"
  | .integerTooLarge => "invalid type: integer, expected any valid JSON value"
  | .keyNotScalar => "invalid type, expected a string key"

end Yaml

/-- Why a text is refused, and the place if one is known. -/
structure YamlError where
  cause : Yaml.Cause
  place : Option Yaml.Mark
  deriving DecidableEq, Repr

namespace YamlError

/-- An error at a known place. -/
def ofMark (cause : Yaml.Cause) (mark : Yaml.Mark) : YamlError := ⟨cause, some mark⟩

/-- The place of an error in words, counted from one. -/
def location (error : YamlError) : String :=
  match error.place with
  | some mark =>
    " at line " ++ toString (mark.line + 1) ++ ", column " ++ toString (mark.column + 1)
  | none => ""

end YamlError

end SchemaCall

namespace SchemaCall.Yaml

/-! ## Source texts

A `Source` is a text that is being read: the characters that are left and the place where they
start. A line ends at a line feed, a carriage return, both together, or one of three rarer
characters; two of those, the separators of lines and paragraphs, stand for themselves in a scalar
and all others for a line feed.
-/

/-- Does the character end a line? -/
def isBreak (c : Char) : Bool :=
  c = '\n' || c = '\r' || c = '\u0085' || c = '\u2028' || c = '\u2029'

/-- Is the character a space or a tab? -/
def isBlank (c : Char) : Bool := c = ' ' || c = '\t'

/-- May the character stand in the name of an anchor, a handle or a directive? -/
def isWordCharacter (c : Char) : Bool := c.isAlphanum || c = '_' || c = '-'

/-- Does a list of characters start with a blank, a line break or not at all? -/
def endsWord : List Char → Bool
  | [] => true
  | c :: _ => isBlank c || isBreak c

/-- Does a list of characters start with a line break or not at all? -/
def endsLine : List Char → Bool
  | [] => true
  | c :: _ => isBreak c

/-- Do the characters, at the start of a line, mark the start or the end of a document? -/
def isDocumentMark : List Char → Bool
  | '-' :: '-' :: '-' :: rest => endsWord rest
  | '.' :: '.' :: '.' :: rest => endsWord rest
  | _ => false

/-- May the character stand in a text at all? -/
def isAllowed (c : Char) : Bool :=
  let n := c.toNat
  n == 0x9 || n == 0xA || n == 0xD || (0x20 ≤ n && n ≤ 0x7E) || n == 0x85 ||
    (0xA0 ≤ n && n ≤ 0xD7FF) || (0xE000 ≤ n && n ≤ 0xFFFD) || 0x10000 ≤ n

/-- What a character that ends a line stands for in a scalar. -/
def breakText (c : Char) : Char :=
  if c = '\u2028' || c = '\u2029' then c else '\n'

/-- A text that is being read. -/
structure Source where
  rest : List Char
  mark : Mark
  size : Nat
  deriving Repr, Inhabited

namespace Source

/-- The source of a whole text. -/
def ofText (text : String) : Source := ⟨text.toList, .start, text.length⟩

/-- Leave out so many characters, none of which ends a line. -/
def skip (source : Source) (count : Nat) : Source :=
  { source with rest := source.rest.drop count, mark := source.mark.advance count }

/-- Cut off the characters up to the first that is not of a kind, which holds no line breaks. -/
def takeWhile (source : Source) (kind : Char → Bool) : List Char × Source :=
  let taken := source.rest.takeWhile kind
  (taken, source.skip taken.length)

/-- Leave out the characters up to the first that is not of a kind, which holds no line breaks. -/
def skipWhile (source : Source) (kind : Char → Bool) : Source :=
  (source.takeWhile kind).2

/-- Leave out blanks, then a comment if one follows. -/
def skipComment (source : Source) : Source :=
  let source := source.skipWhile isBlank
  if source.rest.head? = some '#' then source.skipWhile (!isBreak ·) else source

/-- Leave out a line break if there is one, and tell what it stands for. -/
def skipBreak (source : Source) : Option Char × Source :=
  match source.rest with
  | '\r' :: '\n' :: rest => (some '\n', { source with rest, mark := source.mark.nextLine 2 })
  | c :: rest =>
    if isBreak c then
      (some (breakText c), { source with rest, mark := source.mark.nextLine 1 })
    else (none, source)
  | [] => (none, source)

/-- An error at the place of the source. -/
def fail {α : Type} (source : Source) (cause : Cause) : Except YamlError α :=
  .error (.ofMark cause source.mark)

end Source

end SchemaCall.Yaml
