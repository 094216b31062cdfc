import SchemaCall.Yaml.Token

/-!
# Events

The tokens of a text are read as a sequence of events: documents start and end, sequences and
mappings start and end around their nodes, and scalars and aliases stand for themselves. What may
come next is an `Expected`; those of the nodes around the present one wait on a stack. One step,
`EventReader.next`, makes one event, so that everything before an error can still be used.
-/

namespace SchemaCall.Yaml

/-- The anchor and the tag of a node. -/
structure Properties where
  anchor : Option String
  tag : Option String
  deriving DecidableEq, Repr

/-- A node without anchor and tag. -/
def Properties.empty : Properties := ⟨none, none⟩

/-- An event. -/
inductive Event where
  | streamStart
  | streamEnd
  | documentStart
  | documentEnd
  | alias (name : String)
  | scalar (properties : Properties) (text : String) (style : Style)
  | sequenceStart (properties : Properties)
  | sequenceEnd
  | mappingStart (properties : Properties)
  | mappingEnd
  deriving DecidableEq, Repr

/-- What may come next. -/
inductive Expected where
  | streamStart
  | firstDocument
  | document
  | documentContent
  | documentEnd
  | blockNode
  | blockEntry (isFirst : Bool)
  | indentlessEntry
  | blockKey (isFirst : Bool)
  | blockValue
  | flowEntry (isFirst : Bool)
  | pairKey
  | pairValue
  | pairEnd
  | flowKey (isFirst : Bool)
  | flowValue
  | missingFlowValue
  | nothing
  deriving DecidableEq, Repr

/-- Tokens that are being read as events. -/
structure EventReader where
  lexer : Lexer
  expected : Expected
  pending : List Expected
  handles : List (String × String)
  deriving Repr

namespace EventReader

/-- The reader at the start of a text. -/
def ofText (text : String) : EventReader :=
  ⟨.ofText text, .streamStart, [], []⟩

/-- An event, its place and what is read after it. -/
abbrev Step := Except YamlError (Event × Mark × EventReader)

/-- The next token. -/
def peek (reader : EventReader) : Except YamlError (Token × EventReader) :=
  reader.lexer.peek.map fun (token, lexer) => (token, { reader with lexer })

/-- Leave the next token out. -/
def advance (reader : EventReader) : EventReader :=
  { reader with lexer := reader.lexer.advance }

/-- Go on with what waits after the present node. -/
def pop (reader : EventReader) : EventReader :=
  match reader.pending with
  | [] => { reader with expected := .nothing }
  | expected :: pending => { reader with expected, pending }

/-- Let something wait until the next node has been read. -/
def push (reader : EventReader) (expected : Expected) : EventReader :=
  { reader with pending := expected :: reader.pending }

/-- Expect something next. -/
def expect (reader : EventReader) (expected : Expected) : EventReader :=
  { reader with expected }

/-- An empty scalar in place of a node that is missing. -/
def missing (reader : EventReader) (mark : Mark) : Step :=
  .ok (.scalar .empty "" .plain, mark, reader)

/-! ## Nodes -/

/-- The tag that is meant. -/
def resolve? (reader : EventReader) (tag : Tag) : Option String :=
  if tag.handle.isEmpty then some tag.suffix
  else (reader.handles.find? (·.1 = tag.handle)).map fun entry => entry.2 ++ tag.suffix

/-- Read the anchor and the tag of a node, in either order. Also gives the place of the node and its
first token after them. -/
def readProperties (reader : EventReader) :
    Except YamlError (Properties × Mark × Token × EventReader) := do
  let (first, reader) ← reader.peek
  let start := first.start
  let resolved (reader : EventReader) (tag : Tag) (mark : Mark) : Except YamlError String :=
    match reader.resolve? tag with
    | some tag => .ok tag
    | none => .error (.ofMark .undefinedHandle mark)
  match first.kind with
  | .anchor name =>
    let (second, reader) ← reader.advance.peek
    match second.kind with
    | .tag tag =>
      let (token, reader) ← reader.advance.peek
      let tag ← resolved reader tag second.start
      return (⟨some name, some tag⟩, start, token, reader)
    | _ => return (⟨some name, none⟩, start, second, reader)
  | .tag tag =>
    let (second, reader) ← reader.advance.peek
    match second.kind with
    | .anchor name =>
      let (token, reader) ← reader.advance.peek
      let tag ← resolved reader tag start
      return (⟨some name, some tag⟩, start, token, reader)
    | _ =>
      let tag ← resolved reader tag start
      return (⟨none, some tag⟩, start, second, reader)
  | _ => return (.empty, start, first, reader)

/-- Read a node. A `block` node may be a block collection; where it is `indentless`, the entries of
a sequence may stand without one. -/
def readNode (block indentless : Bool) (reader : EventReader) : Step := do
  let (first, reader) ← reader.peek
  match first.kind with
  | .alias name => return (.alias name, first.start, reader.pop.advance)
  | _ =>
    let (properties, start, token, reader) ← reader.readProperties
    match token.kind, block, indentless with
    | .blockEntry, _, true =>
      return (.sequenceStart properties, start, reader.expect .indentlessEntry)
    | .scalar text style, _, _ =>
      return (.scalar properties text style, start, reader.pop.advance)
    | .flowSequenceStart, _, _ =>
      return (.sequenceStart properties, start, reader.expect (.flowEntry true))
    | .flowMappingStart, _, _ =>
      return (.mappingStart properties, start, reader.expect (.flowKey true))
    | .blockSequenceStart, true, _ =>
      return (.sequenceStart properties, start, reader.expect (.blockEntry true))
    | .blockMappingStart, true, _ =>
      return (.mappingStart properties, start, reader.expect (.blockKey true))
    | _, _, _ =>
      if properties = .empty then .error (.ofMark .missingNode token.start)
      else return (.scalar properties "" .plain, start, reader.pop)

/-! ## Documents -/

/-- Read the directives in front of a document; `version` tells whether there was a version. -/
def readDirectives (fuel : Nat) (version : Bool) (reader : EventReader) :
    Except YamlError EventReader :=
  match fuel with
  | 0 => .ok reader
  | fuel + 1 => do
    let (token, reader) ← reader.peek
    match token.kind with
    | .directive (.version major minor) =>
      if version then .error (.ofMark .duplicateVersion token.start)
      else if major ≠ 1 ∨ (minor ≠ 1 ∧ minor ≠ 2) then
        .error (.ofMark .incompatibleVersion token.start)
      else readDirectives fuel true reader.advance
    | .directive (.handle name meaning) =>
      if reader.handles.any (·.1 = name) then .error (.ofMark .duplicateHandle token.start)
      else
        readDirectives fuel version
          { reader.advance with handles := reader.handles ++ [(name, meaning)] }
    | _ => return reader

/-- The handles that need no directive. -/
def standardHandles : List (String × String) :=
  [("!", "!"), ("!!", "tag:yaml.org,2002:")]

/-- Give the standard handles their meaning, unless directives did. -/
def withStandardHandles (reader : EventReader) : EventReader :=
  { reader with handles := reader.handles ++ standardHandles }

/-- Leave out the marks of the end of a document. -/
def skipDocumentEnds (fuel : Nat) (reader : EventReader) :
    Except YamlError (Token × EventReader) := do
  let (token, reader) ← reader.peek
  match fuel, token.kind with
  | fuel + 1, .documentEnd => skipDocumentEnds fuel reader.advance
  | _, _ => return (token, reader)

/-- Does the token make a document explicit, or end the text? -/
def isExplicit : TokenKind → Bool
  | .directive _ | .documentStart | .streamEnd => true
  | _ => false

/-- Read the start of a document. The first one need not be marked. -/
def readDocument (isFirst : Bool) (reader : EventReader) : Step := do
  let size := reader.lexer.source.size + reader.lexer.queue.length + 1
  let (token, reader) ← if isFirst then reader.peek else skipDocumentEnds size reader
  if isFirst ∧ !isExplicit token.kind then
    return (.documentStart, token.start,
      (reader.withStandardHandles.push .documentEnd).expect .blockNode)
  else if token.kind = .streamEnd then
    return (.streamEnd, token.start, (reader.expect .nothing).advance)
  else
    let reader ← reader.readDirectives size false
    let (mark, reader) ← reader.peek
    if mark.kind ≠ .documentStart then .error (.ofMark .missingDocumentStart mark.start)
    else
      return (.documentStart, token.start,
        ((reader.withStandardHandles.push .documentEnd).expect .documentContent).advance)

/-- Read what a marked document holds, which may be nothing. -/
def readContent (reader : EventReader) : Step := do
  let (token, reader) ← reader.peek
  if isExplicit token.kind ∨ token.kind = .documentEnd then reader.pop.missing token.start
  else reader.readNode true false

/-- Read the end of a document, which need not be marked. -/
def readDocumentEnd (reader : EventReader) : Step := do
  let (token, reader) ← reader.peek
  let reader := { reader with handles := [], expected := .document }
  return (.documentEnd, token.start,
    if token.kind = .documentEnd then reader.advance else reader)

/-! ## Block collections -/

/-- Read an entry of a block sequence, or its end. -/
def readBlockEntry (isFirst : Bool) (reader : EventReader) : Step := do
  let (first, reader) ← reader.peek
  let (token, reader) ← if isFirst then reader.advance.peek else .ok (first, reader)
  match token.kind with
  | .blockEntry =>
    let (next, reader) ← reader.advance.peek
    match next.kind with
    | .blockEntry | .blockEnd => (reader.expect (.blockEntry false)).missing token.stop
    | _ => (reader.push (.blockEntry false)).readNode true false
  | .blockEnd => return (.sequenceEnd, token.start, reader.pop.advance)
  | _ => .error (.ofMark .missingBlockEntry token.start)

/-- Read an entry of a sequence that is not indented more than the mapping around it. -/
def readIndentlessEntry (reader : EventReader) : Step := do
  let (token, reader) ← reader.peek
  match token.kind with
  | .blockEntry =>
    let (next, reader) ← reader.advance.peek
    match next.kind with
    | .blockEntry | .key | .value | .blockEnd =>
      (reader.expect .indentlessEntry).missing token.stop
    | _ => (reader.push .indentlessEntry).readNode true false
  | _ => return (.sequenceEnd, token.start, reader.pop)

/-- Read a node of a block mapping after the token that announces it; without one it is empty. -/
def readBlockPart (reader : EventReader) (token : Token) (after : Expected) : Step := do
  let (next, reader) ← reader.advance.peek
  match next.kind with
  | .key | .value | .blockEnd => (reader.expect after).missing token.stop
  | _ => (reader.push after).readNode true true

/-- Read a key of a block mapping, or its end. -/
def readBlockKey (isFirst : Bool) (reader : EventReader) : Step := do
  let (first, reader) ← reader.peek
  let (token, reader) ← if isFirst then reader.advance.peek else .ok (first, reader)
  match token.kind with
  | .key => reader.readBlockPart token .blockValue
  | .blockEnd => return (.mappingEnd, token.start, reader.pop.advance)
  | _ => .error (.ofMark .missingKey token.start)

/-- Read a value of a block mapping. -/
def readBlockValue (reader : EventReader) : Step := do
  let (token, reader) ← reader.peek
  match token.kind with
  | .value => reader.readBlockPart token (.blockKey false)
  | _ => (reader.expect (.blockKey false)).missing token.start

/-! ## Flow collections -/

/-- The first token of an entry between brackets, after the bracket or comma in front of it. -/
def readSeparator (isFirst : Bool) (last : TokenKind) (cause : Cause) (reader : EventReader) :
    Except YamlError (Token × EventReader) := do
  let (token, reader) ← reader.peek
  if isFirst then reader.advance.peek
  else if token.kind = last then return (token, reader)
  else if token.kind = .flowEntry then reader.advance.peek
  else .error (.ofMark cause token.start)

/-- Read an entry of a flow sequence, or its end. A key makes the entry a mapping of one pair. -/
def readFlowEntry (isFirst : Bool) (reader : EventReader) : Step := do
  let (token, reader) ← reader.readSeparator isFirst .flowSequenceEnd .missingSequenceEnd
  match token.kind with
  | .flowSequenceEnd => return (.sequenceEnd, token.start, reader.pop.advance)
  | .key => return (.mappingStart .empty, token.start, (reader.expect .pairKey).advance)
  | _ => (reader.push (.flowEntry false)).readNode false false

/-- Read the key of a pair. If it is missing, so is what stands in its place. -/
def readPairKey (reader : EventReader) : Step := do
  let (token, reader) ← reader.peek
  match token.kind with
  | .value | .flowEntry | .flowSequenceEnd =>
    (reader.expect .pairValue).advance.missing token.stop
  | _ => (reader.push .pairValue).readNode false false

/-- Read the value of a pair. -/
def readPairValue (reader : EventReader) : Step := do
  let (token, reader) ← reader.peek
  match token.kind with
  | .value =>
    let (next, reader) ← reader.advance.peek
    match next.kind with
    | .flowEntry | .flowSequenceEnd => (reader.expect .pairEnd).missing next.start
    | _ => (reader.push .pairEnd).readNode false false
  | _ => (reader.expect .pairEnd).missing token.start

/-- Read a key of a flow mapping, or its end. -/
def readFlowKey (isFirst : Bool) (reader : EventReader) : Step := do
  let (token, reader) ← reader.readSeparator isFirst .flowMappingEnd .missingMappingEnd
  match token.kind with
  | .flowMappingEnd => return (.mappingEnd, token.start, reader.pop.advance)
  | .key =>
    let (next, reader) ← reader.advance.peek
    match next.kind with
    | .value | .flowEntry | .flowMappingEnd => (reader.expect .flowValue).missing next.start
    | _ => (reader.push .flowValue).readNode false false
  | _ => (reader.push .missingFlowValue).readNode false false

/-- Read a value of a flow mapping. -/
def readFlowValue (reader : EventReader) : Step := do
  let (token, reader) ← reader.peek
  match token.kind with
  | .value =>
    let (next, reader) ← reader.advance.peek
    match next.kind with
    | .flowEntry | .flowMappingEnd => (reader.expect (.flowKey false)).missing next.start
    | _ => (reader.push (.flowKey false)).readNode false false
  | _ => (reader.expect (.flowKey false)).missing token.start

/-! ## Steps -/

/-- Read the next event. -/
def next (reader : EventReader) : Step :=
  match reader.expected with
  | .streamStart => do
    let (token, reader) ← reader.peek
    return (.streamStart, token.start, (reader.expect .firstDocument).advance)
  | .firstDocument => reader.readDocument true
  | .document => reader.readDocument false
  | .documentContent => reader.readContent
  | .documentEnd => reader.readDocumentEnd
  | .blockNode => reader.readNode true false
  | .blockEntry isFirst => reader.readBlockEntry isFirst
  | .indentlessEntry => reader.readIndentlessEntry
  | .blockKey isFirst => reader.readBlockKey isFirst
  | .blockValue => reader.readBlockValue
  | .flowEntry isFirst => reader.readFlowEntry isFirst
  | .pairKey => reader.readPairKey
  | .pairValue => reader.readPairValue
  | .pairEnd => do
    let (token, reader) ← reader.peek
    return (.mappingEnd, token.start, reader.expect (.flowEntry false))
  | .flowKey isFirst => reader.readFlowKey isFirst
  | .flowValue => reader.readFlowValue
  | .missingFlowValue => do
    let (token, reader) ← reader.peek
    (reader.expect (.flowKey false)).missing token.start
  | .nothing => .ok (.streamEnd, reader.lexer.mark, reader)

end EventReader

end SchemaCall.Yaml
