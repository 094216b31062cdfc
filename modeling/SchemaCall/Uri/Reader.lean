import SchemaCall.Uri.Basic

/-!
# Reading URLs

`Uri.read` reads an absolute URL the way browsers do: control characters and spaces around it do not
count, tabs and line breaks anywhere in it neither, and whatever may not stand in a part is encoded.
What it refuses is a missing scheme, a bad host and a bad port.
-/

namespace SchemaCall.Uri

/-! ## Scheme -/

/-- The characters of a text that count. -/
def significant (text : List Char) : List Char :=
  let isTrimmed (c : Char) : Bool := c.toNat ≤ 0x20
  let trimmed := ((text.dropWhile isTrimmed).reverse.dropWhile isTrimmed).reverse
  trimmed.filter fun c => c ≠ '\t' ∧ c ≠ '\n' ∧ c ≠ '\r'

/-- Can the character stand in a scheme after its first letter? -/
def isSchemeCharacter (c : Char) : Bool :=
  c.isAlphanum || c = '+' || c = '-' || c = '.'

/-- The scheme that a text starts with, in lower case, and the characters after its colon. -/
def readScheme? (chars : List Char) : Option (String × List Char) :=
  match chars.head?, chars.dropWhile isSchemeCharacter with
  | some first, ':' :: rest =>
    if first.isAlpha then
      some (String.ofList ((chars.takeWhile isSchemeCharacter).map Char.toLower), rest)
    else none
  | _, _ => none

/-- The port that a scheme implies. -/
def defaultPort? (scheme : String) : Option Nat :=
  match scheme with
  | "http" | "ws" => some 80
  | "https" | "wss" => some 443
  | "ftp" => some 21
  | _ => none

/-! ## Authority -/

/-- Does the character end an authority? -/
def endsAuthority (kind : SchemeKind) (c : Char) : Bool :=
  Path.isSlash kind c || Path.isEnd c

/-- A user name, a password, and the text after the last `@` of an authority. -/
def readUserinfo (kind : SchemeKind) (chars : List Char) :
    Except UriError (String × Option String × List Char) :=
  let authority := chars.takeWhile fun c => !endsAuthority kind c
  if !authority.contains '@' then .ok ("", none, chars)
  else
    let hostSize := (authority.reverse.takeWhile (· ≠ '@')).length
    -- the last `@` counts: those before it belong to the user name or password
    let userinfo := authority.take (authority.length - hostSize - 1)
    let rest := chars.drop (userinfo.length + 1)
    if userinfo.isEmpty ∧ hostSize = 0 ∧ !rest.isEmpty then .error .emptyHost
    else
      let encoded (part : List Char) := String.ofList (percentEncode .userinfo part)
      let username := encoded (userinfo.takeWhile (· ≠ ':'))
      match userinfo.dropWhile (· ≠ ':') with
      | _ :: c :: password => .ok (username, some (encoded (c :: password)), rest)
      | _ => .ok (username, none, rest)

/-- The characters up to the end of a host, which a colon outside brackets is. -/
def takeHost (kind : SchemeKind) (inBrackets : Bool) : List Char → List Char
  | [] => []
  | c :: rest =>
    if endsAuthority kind c || (c = ':' && !inBrackets) then []
    else c :: takeHost kind (if c = '[' then true else if c = ']' then false else inBrackets) rest

/-- A port, unless it is the one that the scheme implies, and the characters after it. -/
def readPort (scheme : String) (chars : List Char) : Except UriError (Option Nat × List Char) :=
  let digits := chars.takeWhile Char.isDigit
  let rest := chars.dropWhile Char.isDigit
  let port := digits.foldl (fun value c => min 65536 (value * 10 + (c.toNat - '0'.toNat))) 0
  if 65535 < port then .error .badPort
  else if rest.head?.any fun c => !(c = '/' || c = '\\' || Path.isEnd c) then .error .badPort
  else .ok (if digits.isEmpty ∨ defaultPort? scheme = some port then none else some port, rest)

/-- An authority after its two slashes, and the characters after it. -/
def readAuthority (scheme : String) (kind : SchemeKind) (chars : List Char) :
    Except UriError (Authority × List Char) := do
  let (username, password, rest) ← readUserinfo kind chars
  let text := takeHost kind false rest
  let rest := rest.drop text.length
  let startsPort := rest.head? = some ':'
  if text.isEmpty then
    if kind.isSpecial ∨ startsPort ∨ !username.isEmpty ∨ password.isSome then .error .emptyHost
    else .ok (⟨username, password, none, none⟩, rest)
  else
    let host ← if kind.isSpecial then Host.read text else Host.readName text
    if startsPort then
      let (port, rest) ← readPort scheme (rest.drop 1)
      return (⟨username, password, some host, port⟩, rest)
    else return (⟨username, password, some host, none⟩, rest)

/-! ## The rest -/

/-- The fragment after its mark. -/
def readFragment (chars : List Char) : String :=
  String.ofList (percentEncode .fragment chars)

/-- The URL with the given parts, and the query and fragment that follow. -/
def finish (scheme : String) (kind : SchemeKind) (authority : Option Authority)
    (path : Location) (chars : List Char) : Uri :=
  match chars with
  | '?' :: rest =>
    let set := if kind.isSpecial then EncodeSet.specialQuery else EncodeSet.query
    let query := String.ofList (percentEncode set (rest.takeWhile (· ≠ '#')))
    match rest.dropWhile (· ≠ '#') with
    | _ :: fragment => ⟨scheme, authority, path, some query, some (readFragment fragment)⟩
    | [] => ⟨scheme, authority, path, some query, none⟩
  | '#' :: rest => ⟨scheme, authority, path, none, some (readFragment rest)⟩
  | _ => ⟨scheme, authority, path, none, none⟩

/-- The URL with the given authority and the path that follows its first slash. -/
def finishPath (scheme : String) (kind : SchemeKind) (authority : Option Authority)
    (chars : List Char) : Uri :=
  let (segments, keepsHost, rest) := Path.read kind chars
  let authority := if keepsHost then authority else some .empty
  finish scheme kind authority (.segments (segments.map String.ofList)) rest

/-- The characters after a slash at the start, if there is one. -/
def afterSlash (kind : SchemeKind) : List Char → List Char
  | [] => []
  | c :: rest => if Path.isSlash kind c then rest else c :: rest

/-- The URL of a network scheme. However many slashes stand before the authority does not matter. -/
def readNetwork (scheme : String) (chars : List Char) : Except UriError Uri := do
  let (authority, rest) ← readAuthority scheme .network (chars.dropWhile (Path.isSlash .network))
  return finishPath scheme .network (some authority) (afterSlash .network rest)

/-- The URL of a file. Its host may be missing; `localhost` counts as missing. -/
def readFile (scheme : String) (chars : List Char) : Except UriError Uri :=
  match chars with
  | first :: second :: rest =>
    if Path.isSlash .file first ∧ Path.isSlash .file second then
      let text := rest.takeWhile fun c => !endsAuthority .file c
      if text.isEmpty ∨ Path.isDrive text then
        .ok (finishPath scheme .file (some .empty) rest)
      else do
        let host ← Host.read text
        let rest := rest.drop text.length
        if host = .name "localhost" then return finishPath scheme .file (some .empty) rest
        else
          return finishPath scheme .file (some ⟨"", none, some host, none⟩) (afterSlash .file rest)
    else .ok (finishPath scheme .file (some .empty) (afterSlash .file chars))
  | chars => .ok (finishPath scheme .file (some .empty) (afterSlash .file chars))

/-- The URL of any other scheme: with an authority after two slashes, with segments after one, and
with plain text as its path otherwise. -/
def readOther (scheme : String) (chars : List Char) : Except UriError Uri :=
  match chars with
  | '/' :: '/' :: rest => do
    let (authority, rest) ← readAuthority scheme .other rest
    match rest with
    | [] => return finish scheme .other (some authority) (.segments []) []
    | c :: rest =>
      if Path.isEnd c then return finish scheme .other (some authority) (.segments []) (c :: rest)
      else return finishPath scheme .other (some authority) (afterSlash .other (c :: rest))
  | '/' :: rest => .ok (finishPath scheme .other none rest)
  | chars =>
    let text := percentEncode .controls (chars.takeWhile fun c => !Path.isEnd c)
    .ok (finish scheme .other none (.text (String.ofList text))
      (chars.dropWhile fun c => !Path.isEnd c))

/-- The absolute URL that a text stands for. -/
def read (text : String) : Except UriError Uri :=
  match readScheme? (significant text.toList) with
  | none => .error .noScheme
  | some (scheme, rest) =>
    match SchemeKind.of scheme with
    | .network => readNetwork scheme rest
    | .file => readFile scheme rest
    | .other => readOther scheme rest

end SchemaCall.Uri
