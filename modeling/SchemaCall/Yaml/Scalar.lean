import SchemaCall.Text.Basic
import SchemaCall.Yaml.Source

/-!
# Scalars

The text of a scalar, in each of the ways in which it can be written. Lines of plain and quoted
scalars are folded: blanks around a line break are dropped, one break becomes a space, and of
several breaks the first is dropped. Block scalars keep their lines, or fold those that are not
indented.
-/

namespace SchemaCall.Yaml

/-- The ways of writing a scalar. -/
inductive Style where
  | plain
  | marked
  deriving DecidableEq, Repr

/-! ## Gaps between words -/

/-- What stands between two words of a plain or quoted scalar. -/
structure Gap where
  blanks : List Char
  isBroken : Bool
  first : Option Char
  more : List Char

namespace Gap

/-- No gap. -/
def empty : Gap := ⟨[], false, none, []⟩

/-- The gap after an escaped line break. -/
def escaped : Gap := ⟨[], true, none, []⟩

/-- Is there nothing in the gap? -/
def isEmpty (gap : Gap) : Bool := gap.blanks.isEmpty && !gap.isBroken

/-- Add a blank, which counts only before the first line break. -/
def addBlank (gap : Gap) (c : Char) : Gap :=
  if gap.isBroken then gap else { gap with blanks := c :: gap.blanks }

/-- Add a line break that stands for the given character. -/
def addBreak (gap : Gap) (c : Char) : Gap :=
  if gap.isBroken then { gap with more := c :: gap.more } else ⟨[], true, some c, []⟩

/-- The text that a gap stands for, the last character first. -/
def reversed (gap : Gap) : List Char :=
  if gap.isBroken then
    match gap.first with
    | some '\n' => if gap.more.isEmpty then [' '] else gap.more
    | first => gap.more ++ first.toList
  else gap.blanks

end Gap

/-! ## Quoted scalars -/

/-- The character of an escape of one letter in double quotes. -/
def escapedCharacter? : Char → Option Char
  | '0' => some '\x00'
  | 'a' => some '\x07'
  | 'b' => some '\x08'
  | 't' | '\t' => some '\t'
  | 'n' => some '\n'
  | 'v' => some '\x0b'
  | 'f' => some '\x0c'
  | 'r' => some '\r'
  | 'e' => some '\x1b'
  | ' ' => some ' '
  | '"' => some '"'
  | '/' => some '/'
  | '\\' => some '\\'
  | 'N' => some '\u0085'
  | '_' => some '\u00a0'
  | 'L' => some '\u2028'
  | 'P' => some '\u2029'
  | _ => none

/-- The number of digits after the letter of a numeric escape. -/
def escapeLength? : Char → Option Nat
  | 'x' => some 2
  | 'u' => some 4
  | 'U' => some 8
  | _ => none

/-- The character with the code point that so many digits give. -/
def readCodePoint (count : Nat) (digits : List Char) : Except Cause Char :=
  let digits := digits.take count
  match Text.digitsValue? 16 digits with
  | none => .error .badEscapeDigit
  | some value =>
    if digits.length < count then .error .badEscapeDigit
    else if (0xD800 ≤ value ∧ value ≤ 0xDFFF) ∨ 0x10FFFF < value then .error .badEscapeValue
    else .ok (Char.ofNat value)

/-- Read a quoted scalar from after its opening quote: its text, and the source after its closing
quote. `done` holds the text so far, the last character first. -/
def readQuoted (double : Bool) (fuel : Nat) (done : List Char) (gap : Gap) (source : Source) :
    Except YamlError (String × Source) :=
  match fuel with
  | 0 => source.fail .unclosedQuotes
  | fuel + 1 =>
    match source.rest with
    | [] => source.fail .unclosedQuotes
    | c :: rest =>
      if isBlank c then readQuoted double fuel done (gap.addBlank c) (source.skip 1)
      else
        match source.skipBreak with
        | (some text, next) => readQuoted double fuel done (gap.addBreak text) next
        | (none, _) =>
          -- a character that is no blank closes the gap in front of it
          let done := gap.reversed ++ done
          if source.mark.column = 0 ∧ isDocumentMark source.rest then
            source.fail .documentInQuotes
          else if !double ∧ c = '\'' then
            if rest.head? = some '\'' then
              readQuoted double fuel ('\'' :: done) .empty (source.skip 2)
            else .ok (String.ofList done.reverse, source.skip 1)
          else if double ∧ c = '"' then .ok (String.ofList done.reverse, source.skip 1)
          else if double ∧ c = '\\' then
            match (source.skip 1).skipBreak, rest with
            | (some _, next), _ => readQuoted double fuel done .escaped next
            | (none, _), letter :: digits =>
              match escapedCharacter? letter, escapeLength? letter with
              | some character, _ =>
                readQuoted double fuel (character :: done) .empty (source.skip 2)
              | none, some count =>
                match readCodePoint count digits with
                | .ok character =>
                  readQuoted double fuel (character :: done) .empty (source.skip (2 + count))
                | .error cause => (source.skip 2).fail cause
              | none, none => source.fail .unknownEscape
            | (none, _), [] => source.fail .unknownEscape
          else readQuoted double fuel (c :: done) .empty (source.skip 1)

/-! ## Plain scalars -/

/-- The characters that separate nodes inside brackets and braces. -/
def isFlowIndicator (c : Char) : Bool :=
  c = ',' || c = '[' || c = ']' || c = '{' || c = '}'

/-- A plain scalar. -/
structure Plain where
  text : String
  source : Source
  endsLine : Bool

/-- A plain scalar whose characters are given, the last one first, and the gap after them. -/
def Plain.of (done : List Char) (gap : Gap) (source : Source) : Plain :=
  ⟨String.ofList done.reverse, source, gap.isBroken⟩

/-- Read a plain scalar. It lasts while its lines are indented by at least `indent` columns, or up
to the next separator inside brackets; a colon before a blank, a comment and the mark of a document
end it too. -/
def readPlain (inFlow : Bool) (indent : Nat) (fuel : Nat) (done : List Char) (gap : Gap)
    (source : Source) : Except YamlError Plain :=
  match fuel with
  | 0 => .ok (.of done gap source)
  | fuel + 1 =>
    match source.rest with
    | [] => .ok (.of done gap source)
    | c :: rest =>
      if isBlank c then
        -- a tab cannot indent the next line of a scalar
        if gap.isBroken ∧ source.mark.column < indent ∧ c = '\t' then source.fail .tabIndentation
        else readPlain inFlow indent fuel done (gap.addBlank c) (source.skip 1)
      else
        match source.skipBreak with
        | (some text, next) => readPlain inFlow indent fuel done (gap.addBreak text) next
        | (none, _) =>
          if !gap.isEmpty ∧ ((!inFlow ∧ source.mark.column < indent) ∨ c = '#' ∨
              (source.mark.column = 0 ∧ isDocumentMark source.rest)) then
            .ok (.of done gap source)
          else if inFlow ∧ c = ':' ∧
              rest.head?.any fun next => next = '?' || isFlowIndicator next then
            source.fail .colonInFlow
          else if (c = ':' ∧ endsWord rest) ∨ (inFlow ∧ isFlowIndicator c) then
            .ok (.of done gap source)
          else readPlain inFlow indent fuel (c :: (gap.reversed ++ done)) .empty (source.skip 1)

/-! ## Block scalars -/

/-- What becomes of the line breaks at the end of a block scalar. -/
inductive Chomping where
  | clip
  | strip
  | keep
  deriving DecidableEq, Repr

/-- The indicators after the mark of a block scalar: chomping and indentation, in either order. -/
def readBlockHeader (source : Source) : Except YamlError (Chomping × Option Nat × Source) :=
  let chomping? : Source → Option Chomping × Source := fun source =>
    match source.rest.head? with
    | some '+' => (some .keep, source.skip 1)
    | some '-' => (some .strip, source.skip 1)
    | _ => (none, source)
  let indentation? : Source → Except YamlError (Option Nat × Source) := fun source =>
    match source.rest.head? with
    | some c =>
      if c = '0' then source.fail .zeroIndentation
      else if c.isDigit then .ok (some (c.toNat - '0'.toNat), source.skip 1)
      else .ok (none, source)
    | none => .ok (none, source)
  match chomping? source with
  | (some chomping, source) =>
    (indentation? source).map fun (indent, source) => (chomping, indent, source)
  | (none, source) =>
    match indentation? source with
    | .error error => .error error
    | .ok (none, source) => .ok (.clip, none, source)
    | .ok (some indent, source) =>
      let (chomping, source) := chomping? source
      .ok (chomping.getD .clip, some indent, source)

/-- The empty lines in front of a line of a block scalar. -/
structure EmptyLines where
  breaks : List Char
  reached : Nat
  source : Source

/-- Skip the indentation of a line and the empty lines in front of it. Without a given indentation,
spaces are skipped as far as they go. -/
def skipEmptyLines (indent : Option Nat) (fuel : Nat) (breaks : List Char) (reached : Nat)
    (source : Source) : Except YamlError EmptyLines :=
  let isInside (column : Nat) : Bool := indent.all (column < ·)
  let spaces := (source.rest.takeWhile (· = ' ')).length
  let room := match indent with
    | some indent => indent - source.mark.column
    | none => spaces
  let source := source.skip (min spaces room)
  let reached := max reached source.mark.column
  if isInside source.mark.column ∧ source.rest.head? = some '\t' then source.fail .tabIndentation
  else
    match fuel, source.skipBreak with
    | fuel + 1, (some text, next) => skipEmptyLines indent fuel (text :: breaks) reached next
    | _, _ => .ok ⟨breaks, reached, source⟩

/-- The text of a block scalar: its characters, the last one first, the break after its last line
and the breaks of the empty lines after that. -/
def chomp (chomping : Chomping) (done : List Char) (last : Option Char) (breaks : List Char) :
    String :=
  let kept := match chomping with
    | .strip => done
    | .clip => last.toList ++ done
    | .keep => breaks ++ last.toList ++ done
  String.ofList kept.reverse

/-- Read the lines of a block scalar, up to the first that is indented less. `done` holds the text
so far, the last character first, and `last` the break after its last line. -/
def readBlockLines (literal : Bool) (chomping : Chomping) (indent : Nat) (fuel : Nat)
    (done : List Char) (last : Option Char) (startsBlank : Bool) (lines : EmptyLines) :
    Except YamlError (String × Source) :=
  let source := lines.source
  match fuel with
  | 0 => .ok (chomp chomping done last lines.breaks, source)
  | fuel + 1 =>
    if source.mark.column ≠ indent ∨ source.rest.isEmpty then
      .ok (chomp chomping done last lines.breaks, source)
    else
      let isIndented := source.rest.head?.any isBlank
      let joint : List Char :=
        if !literal ∧ last = some '\n' ∧ !startsBlank ∧ !isIndented then
          if lines.breaks.isEmpty then [' '] else []
        else last.toList
      let (line, source) := source.takeWhile (!isBreak ·)
      let (last, source) := source.skipBreak
      match skipEmptyLines (some indent) source.size [] 0 source with
      | .error error => .error error
      | .ok next =>
        readBlockLines literal chomping indent fuel
          (line.reverse ++ (lines.breaks ++ (joint ++ done))) last isIndented next

/-- Read a block scalar from after its mark; `outer` is the indentation of the node around it. -/
def readBlock (literal : Bool) (outer : Option Nat) (source : Source) :
    Except YamlError (String × Source) := do
  let (chomping, increment, source) ← readBlockHeader source
  let source := source.skipComment
  if !endsLine source.rest then source.fail .missingLineEnd
  else
    let (_, source) := source.skipBreak
    let least := (outer.map (· + 1)).getD 0
    let given := increment.map fun increment => outer.getD 0 + increment
    let lines ← skipEmptyLines given source.size [] 0 source
    -- without an indicator the first line decides, or a longer empty one in front of it
    let indent := given.getD (max 1 (max least lines.reached))
    readBlockLines literal chomping indent (source.size + 1) [] none false lines

end SchemaCall.Yaml
