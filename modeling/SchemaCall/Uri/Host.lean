import SchemaCall.Text.Basic
import SchemaCall.Uri.Domain

/-!
# Hosts

The host of a URL is a domain name or a numeric address. Schemes that this library does not know may
have any name as host, which is kept in percent-encoded form.
-/

namespace SchemaCall

/-! ## Errors about addresses

Why a text is no absolute URL.
-/

/-- A reason why a text is no absolute URL. -/
inductive UriError where
  | emptyHost
  | badDomain
  | badPort
  | badIPv4
  | badIPv6
  | badHostCharacter
  | noScheme
  deriving DecidableEq, Repr

/-- The wording of a reason. -/
def UriError.message : UriError → String
  | .emptyHost => "empty host"
  | .badDomain => "invalid international domain name"
  | .badPort => "invalid port number"
  | .badIPv4 => "invalid IPv4 address"
  | .badIPv6 => "invalid IPv6 address"
  | .badHostCharacter => "invalid domain character"
  | .noScheme => "relative URL without a base"

end SchemaCall

namespace SchemaCall.Uri

/-! ## Percent encoding

A character that may not stand in a part of a URL is written as the bytes of its UTF-8 form, each as
a percent sign and two upper-case hexadecimal digits. Which ASCII characters that are depends on the
part; everything beyond ASCII is always encoded.
-/

/-- A set of ASCII characters that are encoded in some part of a URL. -/
abbrev EncodeSet := Char → Bool

namespace EncodeSet

/-- Control characters. -/
def controls : EncodeSet := fun c => c.toNat < 0x20 || c.toNat == 0x7F

/-- The set with further characters. -/
def adding (set : EncodeSet) (more : List Char) : EncodeSet := fun c => set c || more.contains c

/-- The set of fragments. -/
def fragment : EncodeSet := controls.adding [' ', '"', '<', '>', '\x60']

/-- The set of path segments. -/
def path : EncodeSet := fragment.adding ['#', '?', '\x7b', '\x7d']

/-- The set of user names and passwords. -/
def userinfo : EncodeSet := path.adding ['/', ':', ';', '=', '@', '[', '\\', ']', '^', '|']

/-- The set of queries. -/
def query : EncodeSet := controls.adding [' ', '"', '#', '<', '>']

/-- The set of queries under the special schemes. -/
def specialQuery : EncodeSet := query.adding ['\'']

end EncodeSet

/-- An upper-case hexadecimal digit. -/
def hexDigit (value : Nat) : Char :=
  if value < 10 then Char.ofNat ('0'.toNat + value) else Char.ofNat ('A'.toNat + value - 10)

/-- A byte in encoded form. -/
def encodeByte (byte : UInt8) : List Char :=
  ['%', hexDigit (byte.toNat / 16), hexDigit (byte.toNat % 16)]

/-- A character in a part with the given set. -/
def encodeChar (set : EncodeSet) (c : Char) : List Char :=
  if set c || 0x7F < c.toNat then (String.utf8EncodeChar c).flatMap encodeByte else [c]

/-- A text in a part with the given set. -/
def percentEncode (set : EncodeSet) (chars : List Char) : List Char :=
  chars.flatMap (encodeChar set)

/-- The bytes of a text whose encoded bytes are decoded; a percent sign without two digits stands
for itself. -/
def percentDecode : List Char → List UInt8
  | [] => []
  | '%' :: a :: b :: rest =>
    match Text.digitValue? a, Text.digitValue? b with
    | some high, some low => UInt8.ofNat (high * 16 + low) :: percentDecode rest
    | _, _ => String.utf8EncodeChar '%' ++ percentDecode (a :: b :: rest)
  | c :: rest => String.utf8EncodeChar c ++ percentDecode rest

/-! ## Numeric addresses

IPv4 addresses have up to four numbers, decimal, octal after `0` or hexadecimal after `0x`, the last
of which fills the remaining bytes. IPv6 addresses have eight groups of up to four hexadecimal
digits; one run of zero groups may be written `::`, and the last two groups as an IPv4 address in
four plain decimal numbers.
-/

/-! ### IPv4 -/

/-- The value of one number of an IPv4 address. -/
def addressNumber? : List Char → Option Nat
  | [] => none
  | '0' :: 'x' :: digits | '0' :: 'X' :: digits => Text.digitsValue? 16 digits
  | '0' :: digit :: digits => Text.digitsValue? 8 (digit :: digits)
  | digits => Text.digitsValue? 10 digits

/-- The numbers of a dotted text, without the empty one after a final dot. -/
def dottedParts (domain : List Char) : List (List Char) :=
  let parts := domain.splitOn '.'
  if parts.getLast? = some [] then parts.dropLast else parts

/-- Does the last number of a dotted text make it an IPv4 address, be it a good one or not? -/
def endsInNumber (domain : List Char) : Bool :=
  match (dottedParts domain).getLast? with
  | none => false
  | some last => (!last.isEmpty && last.all Char.isDigit) || (addressNumber? last).isSome

/-- The 32 bits of an IPv4 address. -/
def readIPv4 (domain : List Char) : Except UriError Nat :=
  let parts := dottedParts domain
  match parts.mapM addressNumber? with
  | none => .error .badIPv4
  | some numbers =>
    match numbers.getLast? with
    | none => .error .badIPv4
    | some last =>
      let leading := numbers.dropLast
      if 4 < numbers.length ∨ leading.any (255 < ·) ∨ 1 <<< (8 * (4 - leading.length)) ≤ last then
        .error .badIPv4
      else
        .ok (leading.zipIdx.foldl
          (fun total (number, index) => total + number <<< (8 * (3 - index))) last)

/-- An IPv4 address as four decimal numbers. -/
def writeIPv4 (address : Nat) : List Char :=
  let byte (index : Nat) := Nat.toDigits 10 ((address >>> (8 * index)) % 256)
  byte 3 ++ '.' :: byte 2 ++ '.' :: byte 1 ++ '.' :: byte 0

/-! ### IPv6 -/

/-- The value of a group: one to four hexadecimal digits. -/
def groupValue? (digits : List Char) : Option Nat :=
  if digits.isEmpty ∨ 4 < digits.length then none else Text.digitsValue? 16 digits

/-- The value of a decimal byte without leading zeros. -/
def byteValue? (digits : List Char) : Option Nat := do
  let value ← Text.digitsValue? 10 digits
  if digits.isEmpty ∨ 255 < value ∨ (digits.head? = some '0' ∧ 1 < digits.length) then none
  else some value

/-- The two groups of an IPv4 address in four decimal numbers. -/
def embeddedGroups? (text : List Char) : Option (List Nat) := do
  match ← (text.splitOn '.').mapM byteValue? with
  | [a, b, c, d] => some [a * 256 + b, c * 256 + d]
  | _ => none

/-- The groups between colons; the last may be an IPv4 address where that is `allowed`. -/
def groupValues? (allowed : Bool) : List (List Char) → Option (List Nat)
  | [] => some []
  | [last] =>
    if last.contains '.' then if allowed then embeddedGroups? last else none
    else (groupValue? last).map ([·])
  | group :: rest => do
    let value ← groupValue? group
    let values ← groupValues? allowed rest
    return value :: values

/-- The groups of one side of `::`; an empty side has none. -/
def sideGroups? (allowed : Bool) (text : List Char) : Option (List Nat) :=
  if text.isEmpty then some [] else groupValues? allowed (text.splitOn ':')

/-- Cut a text at the first `::`. -/
def splitAtGap : List Char → List Char × Option (List Char)
  | [] => ([], none)
  | ':' :: ':' :: rest => ([], some rest)
  | c :: rest =>
    let (before, after) := splitAtGap rest
    (c :: before, after)

/-- The eight groups of an IPv6 address. -/
def readIPv6 (text : List Char) : Except UriError (List Nat) :=
  match splitAtGap text with
  | (all, none) =>
    match groupValues? true (all.splitOn ':') with
    | some groups => if groups.length = 8 then .ok groups else .error .badIPv6
    | none => .error .badIPv6
  | (before, some after) =>
    match sideGroups? false before, sideGroups? true after with
    | some front, some back =>
      if front.length + back.length ≤ 7 then
        .ok (front ++ List.replicate (8 - front.length - back.length) 0 ++ back)
      else .error .badIPv6
    | _, _ => .error .badIPv6

/-- The number of zero groups at the start of a list. -/
def zeroRun (groups : List Nat) : Nat :=
  (groups.takeWhile (· = 0)).length

/-- The first longest run of zero groups, as its place and length. -/
def longestZeroRun (groups : List Nat) : Nat × Nat :=
  (List.range groups.length).foldl
    (fun best start =>
      let length := zeroRun (groups.drop start)
      if best.2 < length then (start, length) else best) (0, 0)

/-- Groups in hexadecimal with colons between them. -/
def writeGroups (groups : List Nat) : List Char :=
  List.intercalate [':'] (groups.map (Nat.toDigits 16))

/-- An IPv6 address; the first longest run of two or more zero groups is written `::`. -/
def writeIPv6 (groups : List Nat) : List Char :=
  let (start, length) := longestZeroRun groups
  if 2 ≤ length then
    writeGroups (groups.take start) ++ [':', ':'] ++ writeGroups (groups.drop (start + length))
  else writeGroups groups

/-! ## Hosts -/

/-- The host of a URL. -/
inductive Host where
  | name (text : String)
  | ipv4 (address : Nat)
  | ipv6 (groups : List Nat)
  deriving DecidableEq, Repr

namespace Host

/-- The text of a host. -/
def write : Host → List Char
  | .name text => text.toList
  | .ipv4 address => writeIPv4 address
  | .ipv6 groups => '[' :: (writeIPv6 groups ++ [']'])

/-- The address between brackets, if the text starts with one. -/
def bracketed? : List Char → Option (Except UriError Host)
  | '[' :: rest =>
    if rest.getLast? = some ']' then some ((readIPv6 rest.dropLast).map .ipv6)
    else some (.error .badIPv6)
  | _ => none

/-- The characters that no host has under an unknown scheme. -/
def isForbidden (c : Char) : Bool :=
  ['\x00', '\t', '\n', '\r', ' ', '#', '/', ':', '<', '>', '?', '@', '[', '\\', ']', '^',
    '|'].contains c

/-- The host that a text names under a known scheme. -/
def read (text : List Char) : Except UriError Host :=
  match bracketed? text with
  | some result => result
  | none =>
    match Domain.toAscii? (percentDecode text) with
    | none => .error .badDomain
    | some [] => .error .emptyHost
    | some domain =>
      if endsInNumber domain then (readIPv4 domain).map .ipv4
      else .ok (.name (String.ofList domain))

/-- The host that a text names under an unknown scheme. -/
def readName (text : List Char) : Except UriError Host :=
  match bracketed? text with
  | some result => result
  | none =>
    if text.any isForbidden then .error .badHostCharacter
    else .ok (.name (String.ofList (percentEncode .controls text)))

end Host

end SchemaCall.Uri
