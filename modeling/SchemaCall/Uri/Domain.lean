import SchemaCall.Text.Basic
import SchemaCall.Text.CodePoints
import SchemaCall.Text.Composition
import SchemaCall.Uri.Mapping

/-!
# Domain names

`toAscii?` brings a domain name into the form that is looked up. Its characters are replaced by the
ones that they are variants of and composed; labels with characters beyond ASCII are then written in
Punycode. A label that claims to be Punycode has to stand for one that could have been written out.
-/

namespace SchemaCall.Uri.Punycode

/-! ## Punycode

A label of a domain name with characters beyond ASCII is written in ASCII: first its ASCII
characters, then a hyphen if there are any, then the others in ascending order, each as the distance
that a counter over code points and places travels to it. Distances are numbers of variable length
in base 36; the threshold that ends a number adapts to the distances so far.
-/

/-- A digit of base 36: letters first. -/
def digitChar (value : Nat) : Char :=
  if value < 26 then Char.ofNat ('a'.toNat + value) else Char.ofNat ('0'.toNat + value - 26)

/-- The value of a digit of base 36. -/
def digitValue? (c : Char) : Option Nat :=
  if 'a' ≤ c ∧ c ≤ 'z' then some (c.toNat - 'a'.toNat)
  else if '0' ≤ c ∧ c ≤ '9' then some (c.toNat - '0'.toNat + 26)
  else none

/-- The threshold of the digit at a weight position; positions are counted in steps of 36. -/
def threshold (position bias : Nat) : Nat :=
  max 1 (min 26 (position - bias))

/-- Divide a distance down by 35, counting 36 for each step. -/
def reduceDistance (distance steps : Nat) : Nat × Nat :=
  if 455 < distance then reduceDistance (distance / 35) (steps + 36) else (distance, steps)
termination_by distance
decreasing_by omega

/-- The bias after a distance, when so many characters have been placed. -/
def adapt (distance placed : Nat) (first : Bool) : Nat :=
  let start := if first then distance / 700 else distance / 2
  let (reduced, steps) := reduceDistance (start + start / placed) 0
  steps + 36 * reduced / (reduced + 38)

/-! ### Writing -/

/-- A distance in digits, from the given position on. -/
def writeDistance (bias position distance : Nat) : List Char :=
  let limit := threshold position bias
  if distance < limit then [digitChar distance]
  else
    digitChar (limit + (distance - limit) % (36 - limit)) ::
      writeDistance bias (position + 36) ((distance - limit) / (36 - limit))
termination_by distance
decreasing_by
  have positive : 1 ≤ threshold position bias := Nat.le_max_left ..
  have := Nat.div_le_self (distance - threshold position bias) (36 - threshold position bias)
  omega

/-- What the writer knows after some characters. -/
structure Progress where
  written : List Char
  distance : Nat
  bias : Nat
  placed : Nat

/-- Pass one character of the label while looking for those with the given code point. -/
def Progress.pass (basics codePoint : Nat) (progress : Progress) (c : Char) : Progress :=
  if c.toNat < codePoint then { progress with distance := progress.distance + 1 }
  else if c.toNat = codePoint then
    { written := (writeDistance progress.bias 36 progress.distance).reverse ++ progress.written
      distance := 0
      bias := adapt progress.distance (progress.placed + 1) (progress.placed = basics)
      placed := progress.placed + 1 }
  else progress

/-- Write the characters of the label with the given code points, in ascending order; `reached` is
the first code point that has not been looked for. -/
def writeCodePoints (label : List Char) (basics : Nat) :
    List Nat → (reached : Nat) → Progress → Progress
  | [], _, progress => progress
  | codePoint :: rest, reached, progress =>
    let travelled :=
      { progress with
        distance := progress.distance + (codePoint - reached) * (progress.placed + 1) }
    -- every place of the label is passed once for each code point
    let passed := label.foldl (Progress.pass basics codePoint) travelled
    writeCodePoints label basics rest (codePoint + 1)
      { passed with distance := passed.distance + 1 }

/-- Put a number into an ascending list that does not hold it yet. -/
def insertAscending (n : Nat) : List Nat → List Nat
  | [] => [n]
  | m :: rest =>
    if n < m then n :: m :: rest else if n = m then m :: rest else m :: insertAscending n rest

/-- A label in ASCII. -/
def encode (label : List Char) : List Char :=
  let basic := label.filter (·.toNat < 0x80)
  let codePoints :=
    ((label.filter (0x80 ≤ ·.toNat)).map Char.toNat).foldr insertAscending []
  let progress := writeCodePoints label basic.length codePoints 0x80 ⟨[], 0, 72, basic.length⟩
  basic ++ (if basic.isEmpty then [] else ['-']) ++ progress.written.reverse

/-! ### Reading -/

/-- Read a distance: its value and the digits after it. -/
def readDistance? (bias : Nat) :
    List Char → (position weight distance : Nat) → Option (Nat × List Char)
  | [], _, _, _ => none
  | c :: rest, position, weight, distance => do
    let digit ← digitValue? c
    let total := distance + digit * weight
    if 0xffffffff < total then none
    else if digit < threshold position bias then return (total, rest)
    else readDistance? bias rest (position + 36) (weight * (36 - threshold position bias)) total

/-- Reading a distance takes at least one digit off. -/
theorem length_readDistance? {bias : Nat} {digits : List Char} {position weight distance : Nat}
    {result : Nat × List Char}
    (h : readDistance? bias digits position weight distance = some result) :
    result.2.length < digits.length := by
  induction digits generalizing position weight distance with
  | nil => simp [readDistance?] at h
  | cons c rest ih =>
    simp only [readDistance?, Option.bind_eq_bind, Option.bind_eq_some_iff] at h
    obtain ⟨digit, _, h⟩ := h
    split at h
    · simp at h
    · split at h
      · simp only [Option.pure_def, Option.some.injEq] at h
        simp [← h]
      · have := ih h
        simp only [List.length_cons]
        omega

/-- Read the digits of the characters beyond ASCII and put each into the label. The counter stands
at the given code point and place, and `first` tells whether nothing has been put in yet. -/
def readPlaces? (label : List Char) (codePoint place bias : Nat) (first : Bool)
    (digits : List Char) : Option (List Char) :=
  match digits with
  | [] => some label
  | c :: rest =>
    match _found : readDistance? bias (c :: rest) 36 1 place with
    | none => none
    | some (counter, remaining) =>
      -- one round of the counter goes over all places, the one after the end included
      let size := label.length + 1
      let found := codePoint + counter / size
      let index := counter % size
      if found < 0xD800 ∨ (0xDFFF < found ∧ found < 0x110000) then
        readPlaces? (label.take index ++ Char.ofNat found :: label.drop index) found (index + 1)
          (adapt (counter - place) size first) false remaining
      else none
termination_by digits.length
decreasing_by exact length_readDistance? (by assumption)

/-- Cut a text at its last hyphen, unless that is its first character. -/
def splitAtLastHyphen (text : List Char) : List Char × List Char :=
  let tail := (text.reverse.takeWhile (· ≠ '-')).reverse
  let basic := text.take (text.length - tail.length - 1)
  if basic.isEmpty then ([], text) else (basic, tail)

/-- The label that a text in ASCII stands for. -/
def decode? (text : List Char) : Option (List Char) :=
  let (basic, digits) := splitAtLastHyphen text
  readPlaces? basic 0x80 0 72 true digits

end SchemaCall.Uri.Punycode

namespace SchemaCall.Uri.Domain

/-! ## Names in scripts of two directions

Some scripts run from right to left. A name with characters of such a script is easily misread, so
each of its labels has to follow a rule: all its letters run in the direction of the first, and it
ends in a letter or a number, marks not counted.
-/

/-- The letters that run from right to left. -/
def rightToLeft : Text.Runs :=
  ⟨[
    1470, 1, 1, 1, 2, 1, 2, 1, 9, 27, 4, 6, 19, 1, 2, 1, 1, 1, 13, 48, 34, 3, 1, 101, 15, 2, 7, 2,
    10, 20, 1, 2, 1, 30, 29, 89, 11, 1, 14, 43, 9, 2, 4, 1, 3, 24, 4, 1, 9, 1, 3, 1, 7, 15, 1, 25,
    5, 1, 1, 11, 5, 32, 16, 42, 5957, 1, 56077, 1, 1, 10, 1, 13, 1, 5, 1, 1, 1, 2, 1, 2, 1, 504,
    18, 127, 33, 13, 115, 5, 1, 135, 2307, 6, 2, 1, 1, 44, 1, 2, 3, 1, 2, 23, 1, 72, 8, 9, 48, 19,
    1, 2, 5, 33, 4, 26, 5, 27, 38, 56, 4, 20, 2, 47, 15, 4, 1, 3, 1, 29, 10, 9, 7, 9, 7, 64, 32,
    37, 6, 12, 9, 54, 10, 22, 2, 27, 5, 26, 7, 4, 12, 7, 80, 73, 55, 51, 13, 51, 7, 42, 28, 38, 8,
    24, 8, 2, 240, 42, 3, 1, 2, 2, 16, 6, 8, 9, 39, 40, 8, 22, 11, 9, 22, 18, 4, 4, 38, 28, 20, 23,
    55305, 197, 2, 9, 48, 68, 7, 1, 4, 10, 4, 2, 785, 68, 76, 61, 194, 4, 1, 27, 1, 2, 1, 1, 2, 1,
    1, 10, 1, 4, 1, 1, 1, 1, 6, 1, 4, 1, 1, 1, 1, 1, 1, 3, 1, 2, 1, 1, 2, 1, 1, 1, 1, 1, 1, 1, 1,
    1, 1, 2, 1, 1, 2, 4, 1, 7, 1, 4, 1, 4, 1, 1, 1, 10, 1, 17, 5, 3, 1, 5, 1, 17]⟩

/-- The digits of Arabic scripts and what counts like them. -/
def arabicNumbers : Text.Runs :=
  ⟨[
    1536, 6, 90, 10, 1, 2, 112, 1, 434, 2, 80, 1, 66637, 10, 294, 31]⟩

/-- All other digits that run like those of ASCII. -/
def europeanNumbers : Text.Runs :=
  ⟨[
    48, 10, 120, 2, 5, 1, 1590, 10, 6518, 1, 3, 6, 6, 10, 1022, 20, 55924, 10, 967, 27, 54482, 50,
    6400, 11, 2789, 10]⟩

/-- The characters without a direction of their own, such as punctuation. -/
def neutrals : Text.Runs :=
  ⟨[
    0, 9, 5, 14, 5, 15, 10, 7, 26, 6, 26, 10, 1, 36, 1, 7, 2, 1, 1, 3, 2, 5, 23, 1, 31, 1, 449, 2,
    7, 14, 2, 14, 5, 9, 1, 17, 116, 2, 8, 1, 5, 2, 1, 1, 110, 1, 403, 1, 2, 3, 118, 2, 1, 2, 1, 1,
    1, 2, 90, 1, 115, 1, 10, 1, 268, 4, 504, 2, 7, 1, 245, 1, 257, 8, 125, 7, 448, 1, 250, 4, 1106,
    10, 102, 1, 666, 2, 318, 1, 20, 10, 6, 11, 3, 1, 305, 1, 3, 2, 152, 34, 1469, 1, 1, 3, 11, 3,
    13, 3, 13, 3, 13, 2, 12, 3, 2, 24, 7, 48, 1, 5, 5, 6, 10, 5, 11, 5, 17, 34, 62, 2, 1, 4, 1, 2,
    10, 1, 1, 3, 5, 6, 1, 1, 1, 1, 1, 1, 4, 1, 11, 2, 4, 5, 5, 4, 2, 16, 41, 3, 4, 422, 69, 26, 1,
    145, 25, 11, 21, 40, 98, 450, 1, 339, 256, 628, 2, 32, 1, 105, 229, 6, 14, 7, 256, 94, 34, 26,
    1, 89, 12, 214, 26, 12, 5, 4, 3, 25, 15, 1, 5, 2, 5, 3, 91, 2, 3, 1, 90, 1, 196, 36, 57, 2, 49,
    16, 28, 3, 50, 15, 12, 4, 167, 4, 99, 2, 31, 1, 6592, 64, 22160, 55, 326, 3, 99, 1, 10, 2, 128,
    34, 102, 1, 159, 4, 12, 2, 58, 4, 754, 2, 20413, 1, 532, 18, 127, 1, 45, 3, 16, 10, 22, 35, 1,
    19, 1, 4, 147, 1, 1, 15, 10, 7, 26, 6, 26, 11, 122, 7, 1, 7, 10, 5, 259, 1, 62, 77, 3, 13, 3,
    1, 1918, 1, 537, 7, 1298, 20, 1530, 13, 2408, 29, 20464, 1, 19645, 4, 5327, 8, 110, 2, 21, 66,
    3, 1, 186, 87, 900, 1, 57, 1, 57, 1, 57, 1, 57, 1, 2875, 1, 3056, 2, 270, 44, 4, 100, 12, 15,
    2, 15, 1, 15, 1, 37, 21, 5, 31, 1, 58, 6, 61, 1, 178, 6, 154, 984, 5, 16, 3, 13, 3, 116, 12,
    89, 7, 12, 4, 1, 15, 12, 4, 56, 8, 10, 6, 40, 8, 30, 2, 2, 78, 340, 12, 14, 2, 5, 3, 5, 3, 7,
    9, 29, 3, 11, 5, 6, 10, 10, 6, 8, 8, 7, 9, 147, 1, 55, 787510, 1, 30, 96]⟩

/-- The nonspacing marks that count as letters from left to right. -/
def directedMarks : List Char :=
  [0xCBF, 0xCC6, 0x1171E, 0x11A07, 0x11A08, 0x11C3F].map Char.ofNat

/-- How a character runs. -/
inductive Direction where
  | left
  | right
  | arabicNumber
  | europeanNumber
  | mark
  | neutral
  deriving DecidableEq, Repr

/-- The direction of a character. -/
def direction (c : Char) : Direction :=
  if rightToLeft.contains c then .right
  else if arabicNumbers.contains c then .arabicNumber
  else if europeanNumbers.contains c then .europeanNumber
  else if Text.isNonspacing c && !directedMarks.contains c then .mark
  else if neutrals.contains c then .neutral
  else .left

/-- Does a label have a character that makes the name one of two directions? All of them come after
the letters of the Latin alphabet. -/
def runsRight (label : List Char) : Bool :=
  label.any fun c =>
    0x590 ≤ c.toNat && (direction c = .right || direction c = .arabicNumber)

/-- Does a label of a name of two directions follow the rule? -/
def isDirected (label : List Char) : Bool :=
  let directions := label.map direction
  let last := directions.reverse.find? (· ≠ .mark)
  match directions with
  | [] => true
  | .right :: _ =>
    !directions.contains .left && (last ≠ some .neutral) &&
      !(directions.contains .arabicNumber && directions.contains .europeanNumber)
  | .left :: _ =>
    !directions.contains .right && !directions.contains .arabicNumber && (last ≠ some .neutral)
  | _ => false

/-! ## Joiners in names

Two invisible characters ask for letters to be joined or kept apart. They may stand in a name only
where they make a difference: after a sign that suppresses a vowel, and the one that keeps letters
apart also between letters of which the first joins to the left and the second to the right.
-/

/-- The letters that join with the one after them. -/
def joinsNext : Text.Runs :=
  ⟨[
    1568, 1, 5, 1, 1, 1, 1, 5, 4, 13, 1, 7, 1, 2, 35, 2, 8, 16, 18, 38, 1, 2, 9, 1, 1, 1, 1, 2, 40,
    3, 2, 1, 18, 3, 5, 4, 1, 9, 1, 1, 1, 1, 1, 2, 31, 11, 3, 15, 2, 4, 1, 1, 2, 3, 2, 6, 74, 33,
    86, 5, 2, 1, 1, 10, 1, 1, 10, 1, 1, 4, 2, 1, 29, 1, 2, 5, 1, 1, 16, 10, 5, 2, 2, 6, 1, 15,
    3902, 1, 24, 89, 14, 34, 1, 1, 36757, 51, 25165, 5, 8, 1, 5, 10, 1, 3, 10, 4, 145, 1, 1, 1, 3,
    3, 1, 2, 1, 1, 2, 1, 28, 2, 337, 34, 1, 1, 415, 2, 1, 2, 104, 3, 1, 17, 12, 3, 28, 4, 2, 12,
    46, 1, 1, 2, 4, 1, 2, 2, 1, 2, 1, 1, 2, 1, 5, 2, 55604, 68]⟩

/-- The letters that join with the one before them. -/
def joinsPrevious : Text.Runs :=
  ⟨[
    1568, 1, 1, 30, 1, 10, 35, 2, 1, 3, 1, 95, 1, 1, 24, 2, 10, 3, 2, 1, 16, 1, 1, 30, 29, 51, 74,
    33, 85, 25, 7, 1, 1, 4, 1, 4, 5, 19, 3, 1, 2, 7, 16, 13, 1, 27, 3902, 1, 24, 89, 14, 34, 1, 1,
    36757, 50, 25166, 6, 1, 1, 1, 2, 3, 9, 1, 10, 2, 1, 6, 5, 144, 18, 23, 6, 338, 35, 414, 3, 1,
    2, 104, 21, 12, 4, 27, 18, 46, 1, 1, 5, 1, 8, 1, 4, 4, 2, 55605, 68]⟩

/-- Does the character stand between two letters without keeping them from joining? -/
def isTransparent (c : Char) : Bool :=
  Text.isNonspacing c || c.toNat == 0x1E94B

/-- The combining class of the signs that suppress a vowel. -/
def vowelSuppressor : Nat := 9

/-- The character that joins letters. -/
def joiner : Char := '\u200d'

/-- The character that keeps letters apart. -/
def nonJoiner : Char := '\u200c'

/-- Do all joiners of a label stand where they may? `before` holds the characters in front, the last
one first. -/
def joinersFit (before : List Char) : List Char → Bool
  | [] => true
  | c :: rest =>
    (if c = joiner ∨ c = nonJoiner then
      before.head?.any (Text.combiningClass · = vowelSuppressor) ||
        (c = nonJoiner && (before.find? (!isTransparent ·)).any joinsNext.contains &&
          (rest.find? (!isTransparent ·)).any joinsPrevious.contains)
    else true) && joinersFit (c :: before) rest

/-! ## Names -/

/-- The ASCII characters that no domain name has. -/
def isForbidden (c : Char) : Bool :=
  c.toNat ≤ 0x20 || c.toNat == 0x7F ||
    ['%', '#', '/', ':', '<', '>', '?', '@', '[', '\\', ']', '^', '|'].contains c

/-- Does the label have ASCII characters alone? -/
def isAscii (label : List Char) : Bool :=
  label.all (·.toNat < 0x80)

/-- The characters after the mark of a label in Punycode, if it has the mark. -/
def punycodePart? : List Char → Option (List Char)
  | 'x' :: 'n' :: '-' :: '-' :: rest => some rest
  | _ => none

/-- May the label stand in a name, as far as its own characters go? -/
def isLabel (label : List Char) : Bool :=
  !label.any isForbidden && !label.head?.any Text.isMark && joinersFit [] label

/-- The label that is meant by one whose characters were replaced and composed. -/
def label? (label : List Char) : Option (List Char) :=
  match punycodePart? label with
  | none => some label
  | some text =>
    if isAscii text then
      (Punycode.decode? text).filter fun decoded =>
        !isAscii decoded && decoded.all isPlain && Text.compose decoded = decoded
    else none

/-- A label in ASCII. -/
def labelToAscii (label : List Char) : List Char :=
  if isAscii label then label else "xn--".toList ++ Punycode.encode label

/-- The labels of a domain name. -/
def labels? (name : List Char) : Option (List (List Char)) := do
  let mapped ← name.mapM mapped?
  let labels ← ((Text.compose mapped.flatten).splitOn '.').mapM label?
  if labels.all isLabel && (!labels.any runsRight || labels.all isDirected) then some labels
  else none

/-- The domain name whose UTF-8 form is given, in ASCII. -/
def toAscii? (bytes : List UInt8) : Option (List Char) := do
  let name ← (Text.Utf8.decode bytes).toOption
  let labels ← labels? name
  return List.intercalate ['.'] (labels.map labelToAscii)

end SchemaCall.Uri.Domain
