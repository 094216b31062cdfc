import SchemaCall.Yaml.Scalar
import SchemaCall.Yaml.Tag

/-!
# Tokens

A text is cut into tokens. The structure that indentation gives is made explicit: a token opens a
block and another closes it. That a scalar is the key of a mapping shows only at the colon after it,
so tokens wait in a queue while they may still turn out to be keys; `Lexer.peek` reads on until the
first token in the queue is settled.
-/

namespace SchemaCall.Yaml

/-- The kinds of token. -/
inductive TokenKind where
  | streamStart
  | streamEnd
  | directive (directive : Directive)
  | documentStart
  | documentEnd
  | blockSequenceStart
  | blockMappingStart
  | blockEnd
  | flowSequenceStart
  | flowSequenceEnd
  | flowMappingStart
  | flowMappingEnd
  | blockEntry
  | flowEntry
  | key
  | value
  | alias (name : String)
  | anchor (name : String)
  | tag (tag : Tag)
  | scalar (text : String) (style : Style)
  deriving DecidableEq, Repr

/-- A token and the places where it starts and ends. -/
structure Token where
  kind : TokenKind
  start : Mark
  stop : Mark
  deriving Repr

/-- A place at which a key may have started. -/
structure KeyPlace where
  isRequired : Bool
  number : Nat
  mark : Mark
  deriving Repr

/-- A text that is being cut into tokens. -/
structure Lexer where
  source : Source
  queue : List Token
  taken : Nat
  isStarted : Bool
  indents : List Nat
  keyPlace : Option KeyPlace
  outer : List (Option KeyPlace)
  keyAllowed : Bool
  deriving Repr

namespace Lexer

/-- The lexer at the start of a text. -/
def ofText (text : String) : Lexer :=
  ⟨.ofText text, [], 0, false, [], none, [], false⟩

/-- Are there open brackets? -/
def inFlow (lexer : Lexer) : Bool := !lexer.outer.isEmpty

/-- The place of the lexer. -/
def mark (lexer : Lexer) : Mark := lexer.source.mark

/-- Refuse the text at the place of the lexer. -/
def fail {α : Type} (lexer : Lexer) (cause : Cause) : Except YamlError α :=
  lexer.source.fail cause

/-- Add a token at the end of the queue. -/
def push (lexer : Lexer) (kind : TokenKind) (start stop : Mark) : Lexer :=
  { lexer with queue := lexer.queue ++ [⟨kind, start, stop⟩] }

/-- Put a token in front of the one with the given number. -/
def insert (lexer : Lexer) (number : Nat) (kind : TokenKind) (mark : Mark) : Lexer :=
  let index := number - lexer.taken
  { lexer with
    queue := lexer.queue.take index ++ ⟨kind, mark, mark⟩ :: lexer.queue.drop index }

/-- Add a token of so many characters and leave those out of the text. -/
def pushHere (lexer : Lexer) (kind : TokenKind) (size : Nat) : Lexer :=
  let source := lexer.source.skip size
  { lexer.push kind lexer.mark source.mark with source }

/-! ## Keys -/

/-- Can what started there no longer be a key, since the line or too much text has passed? -/
def isStale (mark : Mark) (place : KeyPlace) : Bool :=
  place.mark.line < mark.line || place.mark.index + 1024 < mark.index

/-- Forget the places of keys that passed; one that is required must not. -/
def dropStale (lexer : Lexer) : Except YamlError Lexer :=
  let isOverdue (place : Option KeyPlace) : Bool :=
    place.any fun place => place.isRequired && isStale lexer.mark place
  let forget (place : Option KeyPlace) : Option KeyPlace :=
    place.filter fun place => !isStale lexer.mark place
  if (lexer.keyPlace :: lexer.outer).any isOverdue then lexer.fail .missingKeyEnd
  else
    .ok { lexer with keyPlace := forget lexer.keyPlace, outer := lexer.outer.map forget }

/-- Forget the place of a key at the current level; one that is required must not be forgotten. -/
def dropKey (lexer : Lexer) : Except YamlError Lexer :=
  if lexer.keyPlace.any (·.isRequired) then lexer.fail .missingKeyEnd
  else .ok { lexer with keyPlace := none }

/-- Remember that a key may start here, if one may. -/
def saveKey (lexer : Lexer) : Except YamlError Lexer :=
  if lexer.keyAllowed then do
    let isRequired := !lexer.inFlow && lexer.indents.head? = some lexer.mark.column
    let number := lexer.taken + lexer.queue.length
    let lexer ← lexer.dropKey
    return { lexer with keyPlace := some ⟨isRequired, number, lexer.mark⟩ }
  else .ok lexer

/-! ## Indentation -/

/-- Open a block at a column, if that is indented more than the blocks around it. The token goes in
front of the one with the given number, or to the end. -/
def openBlock (lexer : Lexer) (kind : TokenKind) (mark : Mark) (number : Option Nat) : Lexer :=
  if lexer.inFlow || lexer.indents.head?.any (mark.column ≤ ·) then lexer
  else
    let lexer := { lexer with indents := mark.column :: lexer.indents }
    match number with
    | some number => lexer.insert number kind mark
    | none => lexer.push kind mark mark

/-- Close the blocks that are indented by at least so many columns. -/
def closeBlocks (lexer : Lexer) (least : Nat) : Lexer :=
  if lexer.inFlow then lexer
  else
    let closed := lexer.indents.takeWhile (least ≤ ·)
    { lexer with
      indents := lexer.indents.drop closed.length
      queue := lexer.queue ++ closed.map fun _ => ⟨.blockEnd, lexer.mark, lexer.mark⟩ }

/-! ## The kinds of token -/

/-- Skip blanks, comments and line breaks up to the next token. A tab counts as a blank where no key
may start; after a line break outside brackets one may. A mark of byte order may start a line. -/
def skipToToken (fuel : Nat) (lexer : Lexer) : Lexer :=
  let source := lexer.source
  let source :=
    if source.mark.column = 0 ∧ source.rest.head? = some '\ufeff' then source.skip 1 else source
  let source := source.skipWhile fun c =>
    c = ' ' || ((lexer.inFlow || !lexer.keyAllowed) && c = '\t')
  let source :=
    if source.rest.head? = some '#' then source.skipWhile (!isBreak ·) else source
  match fuel, source.skipBreak with
  | fuel + 1, (some _, source) =>
    skipToToken fuel { lexer with source, keyAllowed := lexer.keyAllowed || !lexer.inFlow }
  | _, _ => { lexer with source }

/-- Make the last token. -/
def endStream (lexer : Lexer) : Except YamlError Lexer := do
  let mark := lexer.mark
  -- the end stands on a line of its own
  let mark := if mark.column = 0 then mark else mark.nextLine 0
  let lexer := { lexer with source := { lexer.source with mark } }
  let lexer ← (lexer.closeBlocks 0).dropKey
  return { lexer with keyAllowed := false }.push .streamEnd mark mark

/-- Make the token of a directive. -/
def readDirectiveToken (lexer : Lexer) : Except YamlError Lexer := do
  let lexer ← (lexer.closeBlocks 0).dropKey
  let (directive, source) ← readDirective (lexer.source.skip 1)
  return { lexer.push (.directive directive) lexer.mark source.mark with
    source, keyAllowed := false }

/-- Make the token that starts or ends a document. -/
def markDocument (lexer : Lexer) (kind : TokenKind) : Except YamlError Lexer := do
  let lexer ← (lexer.closeBlocks 0).dropKey
  return { lexer with keyAllowed := false }.pushHere kind 3

/-- Make the token of an opening bracket, which may itself start a key. -/
def openFlow (lexer : Lexer) (kind : TokenKind) : Except YamlError Lexer := do
  let lexer ← lexer.saveKey
  return { lexer with
    keyPlace := none, outer := lexer.keyPlace :: lexer.outer, keyAllowed := true }.pushHere kind 1

/-- Make the token of a closing bracket. -/
def closeFlow (lexer : Lexer) (kind : TokenKind) : Except YamlError Lexer := do
  let lexer ← lexer.dropKey
  let lexer :=
    match lexer.outer with
    | [] => lexer
    | keyPlace :: outer => { lexer with keyPlace, outer }
  return { lexer with keyAllowed := false }.pushHere kind 1

/-- Make the token of a comma. -/
def separateFlow (lexer : Lexer) : Except YamlError Lexer := do
  let lexer ← lexer.dropKey
  return { lexer with keyAllowed := true }.pushHere .flowEntry 1

/-- Make the token of an entry of a block sequence. -/
def startBlockEntry (lexer : Lexer) : Except YamlError Lexer := do
  if !lexer.inFlow && !lexer.keyAllowed then lexer.fail .blockEntryNotAllowed
  else
    let lexer ← (lexer.openBlock .blockSequenceStart lexer.mark none).dropKey
    return { lexer with keyAllowed := true }.pushHere .blockEntry 1

/-- Make the token of a key that is marked as such. -/
def startKey (lexer : Lexer) : Except YamlError Lexer := do
  if !lexer.inFlow && !lexer.keyAllowed then lexer.fail .keyNotAllowed
  else
    let lexer ← (lexer.openBlock .blockMappingStart lexer.mark none).dropKey
    return { lexer with keyAllowed := !lexer.inFlow }.pushHere .key 1

/-- Make the token of a value. If a key may have started earlier, it did. -/
def startValue (lexer : Lexer) : Except YamlError Lexer :=
  match lexer.keyPlace with
  | some place =>
    -- the tokens of the key are in the queue already: what announces them goes in front
    let lexer := lexer.insert place.number .key place.mark
    let lexer := lexer.openBlock .blockMappingStart place.mark (some place.number)
    .ok ({ lexer with keyPlace := none, keyAllowed := false }.pushHere .value 1)
  | none =>
    if !lexer.inFlow && !lexer.keyAllowed then lexer.fail .valueNotAllowed
    else
      let lexer := lexer.openBlock .blockMappingStart lexer.mark none
      .ok ({ lexer with keyAllowed := !lexer.inFlow }.pushHere .value 1)

/-- Make the token of an anchor or alias. -/
def readAnchorToken (lexer : Lexer) (kind : String → TokenKind) : Except YamlError Lexer := do
  let lexer ← lexer.saveKey
  let (name, source) ← readAnchor (lexer.source.skip 1)
  return { lexer.push (kind name) lexer.mark source.mark with source, keyAllowed := false }

/-- Make the token of a tag. -/
def readTagToken (lexer : Lexer) : Except YamlError Lexer := do
  let lexer ← lexer.saveKey
  let (tag, source) ← readTag lexer.inFlow lexer.source
  return { lexer.push (.tag tag) lexer.mark source.mark with source, keyAllowed := false }

/-- Make the token of a block scalar. -/
def readBlockToken (lexer : Lexer) (literal : Bool) : Except YamlError Lexer := do
  let lexer ← lexer.dropKey
  let (text, source) ← readBlock literal lexer.indents.head? (lexer.source.skip 1)
  return { lexer.push (.scalar text .marked) lexer.mark source.mark with
    source, keyAllowed := true }

/-- Make the token of a quoted scalar. -/
def readQuotedToken (lexer : Lexer) (double : Bool) : Except YamlError Lexer := do
  let lexer ← lexer.saveKey
  let source := lexer.source.skip 1
  let (text, source) ← readQuoted double (source.size + 1) [] .empty source
  return { lexer.push (.scalar text .marked) lexer.mark source.mark with
    source, keyAllowed := false }

/-- Make the token of a plain scalar. -/
def readPlainToken (lexer : Lexer) : Except YamlError Lexer := do
  let lexer ← lexer.saveKey
  let indent := (lexer.indents.head?.map (· + 1)).getD 0
  let source := lexer.source
  let plain ← readPlain lexer.inFlow indent (source.size + 1) [] .empty source
  return { lexer.push (.scalar plain.text .plain) lexer.mark plain.source.mark with
    source := plain.source, keyAllowed := plain.endsLine }

/-- Can a plain scalar start with the characters? Some indicators can if no blank follows. -/
def startsPlain (inFlow : Bool) (c : Char) (rest : List Char) : Bool :=
  if c = '-' then !rest.head?.any isBlank
  else if c = '?' ∨ c = ':' then !inFlow && !endsWord rest
  else !(isBlank c || isBreak c || ",[]\x7b\x7d#&*!|>'\"%@\x60".toList.contains c)

/-- Make the next token or tokens. -/
def readToken (lexer : Lexer) : Except YamlError Lexer :=
  if !lexer.isStarted then
    -- the whole text is looked at first, so a bad character wins over every other error
    if lexer.source.rest.all isAllowed then
      .ok ({ lexer with isStarted := true, keyAllowed := true }.push .streamStart lexer.mark
        lexer.mark)
    else lexer.fail .controlCharacter
  else do
    let lexer ← (lexer.skipToToken lexer.source.size).dropStale
    -- a token that is indented less than a block ends it
    let lexer := lexer.closeBlocks (lexer.mark.column + 1)
    let inFlow := lexer.inFlow
    let atStart := lexer.mark.column = 0
    match lexer.source.rest with
    | [] => lexer.endStream
    | c :: rest =>
      if atStart ∧ c = '%' then lexer.readDirectiveToken
      else if atStart ∧ c = '-' ∧ isDocumentMark (c :: rest) then lexer.markDocument .documentStart
      else if atStart ∧ c = '.' ∧ isDocumentMark (c :: rest) then lexer.markDocument .documentEnd
      else if c = '[' then lexer.openFlow .flowSequenceStart
      else if c = '{' then lexer.openFlow .flowMappingStart
      else if c = ']' then lexer.closeFlow .flowSequenceEnd
      else if c = '}' then lexer.closeFlow .flowMappingEnd
      else if c = ',' then lexer.separateFlow
      else if c = '-' ∧ endsWord rest then lexer.startBlockEntry
      else if c = '?' ∧ (inFlow ∨ endsWord rest) then lexer.startKey
      else if c = ':' ∧ (inFlow ∨ endsWord rest) then lexer.startValue
      else if c = '*' then lexer.readAnchorToken .alias
      else if c = '&' then lexer.readAnchorToken .anchor
      else if c = '!' then lexer.readTagToken
      else if c = '|' ∧ !inFlow then lexer.readBlockToken true
      else if c = '>' ∧ !inFlow then lexer.readBlockToken false
      else if c = '\'' then lexer.readQuotedToken false
      else if c = '"' then lexer.readQuotedToken true
      else if startsPlain inFlow c rest then lexer.readPlainToken
      else lexer.fail .badTokenStart

/-- Is it open whether the first token in the queue starts a key? -/
def isUnsettled (lexer : Lexer) : Bool :=
  (lexer.keyPlace :: lexer.outer).any fun place => place.any (·.number = lexer.taken)

/-- Read on until the first token in the queue is settled. -/
def settle (fuel : Nat) (lexer : Lexer) : Except YamlError Lexer :=
  match fuel with
  | 0 => .ok lexer
  | fuel + 1 =>
    if lexer.queue.isEmpty then do settle fuel (← lexer.readToken)
    else do
      let lexer ← lexer.dropStale
      if lexer.isUnsettled then settle fuel (← lexer.readToken) else return lexer

/-- The next token, and the lexer that has it first in its queue. -/
def peek (lexer : Lexer) : Except YamlError (Token × Lexer) := do
  let lexer ← lexer.settle (lexer.source.size + 4)
  match lexer.queue with
  | token :: _ => return (token, lexer)
  | [] => return (⟨.streamEnd, lexer.mark, lexer.mark⟩, lexer)

/-- Take the next token from the queue. -/
def advance (lexer : Lexer) : Lexer :=
  { lexer with queue := lexer.queue.drop 1, taken := lexer.taken + 1 }

end Lexer

end SchemaCall.Yaml
