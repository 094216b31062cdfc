/-!
# Texts

What the readers of this library share: numbers written in digits, the characters that count as
white space, places in a text, and texts as bytes.
-/

namespace SchemaCall.Text

/-! ## Digits

Numbers written in digits of a base up to sixteen. Letters stand for the digits from ten on, in
either case.
-/

/-- The value of a digit, letters included. -/
def digitValue? (c : Char) : Option Nat :=
  if '0' ≤ c ∧ c ≤ '9' then some (c.toNat - '0'.toNat)
  else if 'a' ≤ c ∧ c ≤ 'f' then some (c.toNat - 'a'.toNat + 10)
  else if 'A' ≤ c ∧ c ≤ 'F' then some (c.toNat - 'A'.toNat + 10)
  else none

/-- The value of digits, if all of them are digits of the base; no digits have the value zero. -/
def digitsValue? (base : Nat) (digits : List Char) : Option Nat :=
  digits.foldlM (fun value c => do
    let digit ← digitValue? c
    if digit < base then some (value * base + digit) else none) 0

/-! ## White space

The characters that Unicode counts as white space. A name made of these alone counts as empty.
-/

/-- Does Unicode count the character as white space? -/
def isBlank (c : Char) : Bool :=
  let n := c.toNat
  (0x9 ≤ n && n ≤ 0xD) || n == 0x20 || n == 0x85 || n == 0xA0 || n == 0x1680 ||
    (0x2000 ≤ n && n ≤ 0x200A) || n == 0x2028 || n == 0x2029 || n == 0x202F || n == 0x205F ||
    n == 0x3000

/-- Is the text made of white space alone? -/
def isBlankText (text : String) : Bool :=
  text.toList.all isBlank

/-! ## Lines and columns

A place in a text is reported as a line, counted from one, and a column, the number of bytes of that
line before the place.
-/

/-- The number of bytes that a list of characters takes in UTF-8. -/
def byteLength (chars : List Char) : Nat :=
  chars.foldl (fun total c => total + c.utf8Size) 0

/-- A line and a column. -/
structure Position where
  line : Nat
  column : Nat
  deriving DecidableEq, Repr

namespace Position

/-- Walk over `offset` bytes of a text, which may end inside a character. -/
def advance : Position → List Char → (offset : Nat) → Position
  | position, [], _ => position
  | position, c :: rest, offset =>
    if offset = 0 then position
    else if c = '\n' then advance ⟨position.line + 1, 0⟩ rest (offset - 1)
    else if offset < c.utf8Size then ⟨position.line, position.column + offset⟩
    else advance ⟨position.line, position.column + c.utf8Size⟩ rest (offset - c.utf8Size)

/-- The place `offset` bytes into a text. -/
def ofOffset (text : List Char) (offset : Nat) : Position :=
  advance ⟨1, 0⟩ text offset

end Position

end SchemaCall.Text

namespace SchemaCall.Text.Utf8

/-! ## UTF-8

Texts as bytes. `Utf8.encode` writes characters and `Utf8.decode` reads bytes; it refuses bytes that
are no UTF-8 and tells where the first bad sequence starts and how long it is. The sequence ends
before the first byte that cannot continue it; one that the input cuts short has no length.
-/

/-- The bytes of a list of characters. -/
def encode (chars : List Char) : List UInt8 :=
  chars.flatMap String.utf8EncodeChar

/-- Why bytes are no UTF-8: where the first bad sequence starts, and its length if it is not merely
cut short. -/
structure Fault where
  start : Nat
  length : Option Nat
  deriving DecidableEq, Repr

/-- The wording of a fault. -/
def Fault.message (fault : Fault) : String :=
  match fault.length with
  | some length =>
    "invalid utf-8 sequence of " ++ toString length ++ " bytes from index " ++ toString fault.start
  | none => "incomplete utf-8 byte sequence from index " ++ toString fault.start

/-- Can the byte stand after the first of a sequence? -/
def isContinuation (byte : UInt8) : Bool :=
  0x80 ≤ byte && byte ≤ 0xBF

/-- The bytes that can follow a first byte: overlong forms, halves of UTF-16 pairs and numbers
beyond the last code point are excluded here. -/
def isSecond (first second : UInt8) : Bool :=
  if first = 0xE0 then 0xA0 ≤ second && second ≤ 0xBF
  else if first = 0xED then 0x80 ≤ second && second ≤ 0x9F
  else if first = 0xF0 then 0x90 ≤ second && second ≤ 0xBF
  else if first = 0xF4 then 0x80 ≤ second && second ≤ 0x8F
  else isContinuation second

/-- The six bits that a later byte of a sequence adds. -/
def payload (byte : UInt8) : Nat := byte.toNat % 64

/-- The sequence that starts with the byte `a`, and the number of bytes after `a` that belong to it:
a character, or the length of a bad sequence. -/
def sequence (a : UInt8) (rest : List UInt8) : Except (Option Nat) Char × Nat :=
  if a < 0x80 then (.ok (Char.ofNat a.toNat), 0)
  else if a < 0xC2 || 0xF4 < a then (.error (some 1), 0)
  else
    match rest with
    | [] => (.error none, 0)
    | b :: rest =>
      if !isSecond a b then (.error (some 1), 0)
      else if a < 0xE0 then (.ok (Char.ofNat (a.toNat % 32 * 64 + payload b)), 1)
      else
        match rest with
        | [] => (.error none, 1)
        | c :: rest =>
          if !isContinuation c then (.error (some 2), 1)
          else if a < 0xF0 then
            (.ok (Char.ofNat ((a.toNat % 16 * 64 + payload b) * 64 + payload c)), 2)
          else
            match rest with
            | [] => (.error none, 2)
            | d :: _ =>
              if !isContinuation d then (.error (some 3), 2)
              else
                (.ok (Char.ofNat
                  (((a.toNat % 8 * 64 + payload b) * 64 + payload c) * 64 + payload d)), 3)

/-- Read bytes, one sequence after the other, with a fault in the place of every bad one. `start` is
the number of bytes before them, and the first `skip` belong to a sequence that was read. -/
def readFrom : (start skip : Nat) → List UInt8 → List (Except Fault Char)
  | _, _, [] => []
  | start, skip + 1, _ :: rest => readFrom (start + 1) skip rest
  | start, 0, a :: rest =>
    let (piece, skip) := sequence a rest
    piece.mapError (Fault.mk start) :: readFrom (start + 1) skip rest

/-- The characters of a list of bytes, which has to be free of bad sequences. -/
def decode (bytes : List UInt8) : Except Fault (List Char) :=
  (readFrom 0 0 bytes).mapM id

/-- The characters of a list of bytes, with the replacement character for every bad sequence. -/
def decodeLossy (bytes : List UInt8) : List Char :=
  (readFrom 0 0 bytes).map fun piece => piece.toOption.getD '\uFFFD'

/-- The characters of a list of bytes, with as many stand-ins as it has bytes for every bad
sequence. So every character that is left is as many bytes from the start as before. -/
def decodeMasked (mask : Char) (bytes : List UInt8) : List Char :=
  (readFrom 0 0 bytes).flatMap fun
    | .ok c => [c]
    | .error fault => .replicate (fault.length.getD (bytes.length - fault.start)) mask

end SchemaCall.Text.Utf8
