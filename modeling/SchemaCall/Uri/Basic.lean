import SchemaCall.Uri.Host

/-!
# URLs

An absolute URL in parts. All parts are in encoded form, so that writing is plain concatenation.
-/

namespace SchemaCall.Uri

/-! ## Paths

The path of a URL is a list of segments. A segment `.` is dropped and a segment `..` takes the one
before it along, unless that looks like the letter of a drive. In a `file` URL the letter of a drive
is a segment of its own, written with a colon, and empty segments at the start are dropped.
-/

/-- The kinds of scheme, which differ in how the rest of a URL is read. -/
inductive SchemeKind where
  | network
  | file
  | other
  deriving DecidableEq, Repr

namespace SchemeKind

/-- The kind of a scheme. -/
def of (scheme : String) : SchemeKind :=
  if ["http", "https", "ws", "wss", "ftp"].contains scheme then .network
  else if scheme = "file" then .file
  else .other

/-- Does a backslash count as a slash? -/
def isSpecial : SchemeKind → Bool
  | .network | .file => true
  | .other => false

end SchemeKind

namespace Path

/-- Does the character end a segment under the kind of scheme? -/
def isSlash (kind : SchemeKind) (c : Char) : Bool :=
  c = '/' || (c = '\\' && kind.isSpecial)

/-- Does the character end a path? -/
def isEnd (c : Char) : Bool := c = '?' || c = '#'

/-- Is this a segment that stands for its own place? -/
def isDot (segment : List Char) : Bool :=
  ["%2e".toList, ['.']].contains (segment.map Char.toLower)

/-- Is this a segment that stands for the place above? -/
def isDoubleDot (segment : List Char) : Bool :=
  ["..".toList, ".%2e".toList, "%2e.".toList, "%2e%2e".toList].contains (segment.map Char.toLower)

/-- Is the text the letter of a drive? -/
def isDrive : List Char → Bool
  | [letter, mark] => letter.isAlpha && (mark = ':' || mark = '|')
  | _ => false

/-- Does a segment look like the letter of a drive, as far as its first backslash? -/
def looksLikeDrive (segment : List Char) : Bool :=
  isDrive (segment.takeWhile (· ≠ '\\'))

/-- Take the last segment away, unless it looks like the letter of a drive. -/
def shorten (segments : List (List Char)) : List (List Char) :=
  match segments.getLast? with
  | some last => if looksLikeDrive last then segments else segments.dropLast
  | none => []

/-- A path that is being read. -/
structure Progress where
  segments : List (List Char)
  keepsHost : Bool

/-- The letter of a drive and what goes on after it in the same segment. -/
def splitDrive? : List Char → Option (List Char × List Char)
  | letter :: ':' :: c :: rest => if letter.isAlpha then some ([letter, ':'], c :: rest) else none
  | _ => none

/-- Add a segment in encoded form; `last` tells whether the path ends with it. -/
def Progress.add (kind : SchemeKind) (progress : Progress) (segment : List Char) (last : Bool) :
    Progress :=
  let segments := progress.segments
  -- a dot at the end of a path names a directory, which ends in a slash
  let close (segments : List (List Char)) := if last then segments ++ [[]] else segments
  match if kind = .file ∧ segments.isEmpty then splitDrive? segment else none with
  | some (drive, rest) => { progress with segments := [drive, rest] }
  | none =>
    if isDoubleDot segment then { progress with segments := close (shorten segments) }
    else if isDot segment then { progress with segments := close segments }
    else if kind = .file ∧ segments.all List.isEmpty ∧ isDrive segment then
      ⟨segments ++ [segment.take 1 ++ [':']], false⟩
    else { progress with segments := segments ++ [segment] }

/-- Read segments up to the end of the path; `segment` holds the current one, in encoded form and
with its last character first. Also gives the characters after the path. -/
def readSegments (kind : SchemeKind) (progress : Progress) (segment : List Char) :
    List Char → Progress × List Char
  | [] => (progress.add kind segment.reverse true, [])
  | c :: rest =>
    if isEnd c then (progress.add kind segment.reverse true, c :: rest)
    else if isSlash kind c then readSegments kind (progress.add kind segment.reverse false) [] rest
    else readSegments kind progress ((encodeChar .path c).reverse ++ segment) rest

/-- Drop empty segments at the start of a path, but not its last one. -/
def dropLeadingEmpty : List (List Char) → List (List Char)
  | [] :: next :: rest => dropLeadingEmpty (next :: rest)
  | segments => segments

/-- Read a path from after its first slash: its segments, whether the host is kept, and the
characters after the path. -/
def read (kind : SchemeKind) (chars : List Char) : List (List Char) × Bool × List Char :=
  let (progress, rest) := readSegments kind ⟨[], true⟩ [] chars
  let segments :=
    if kind = .file then dropLeadingEmpty progress.segments else progress.segments
  (segments, progress.keepsHost, rest)

end Path

end SchemaCall.Uri

namespace SchemaCall

/-! ## URLs -/

namespace Uri

/-- What stands between `//` and the path. -/
structure Authority where
  username : String
  password : Option String
  host : Option Host
  port : Option Nat
  deriving DecidableEq, Repr

/-- The authority that is written but empty. -/
def Authority.empty : Authority := ⟨"", none, none, none⟩

/-- The path of a URL. -/
inductive Location where
  | text (content : String)
  | segments (names : List String)
  deriving DecidableEq, Repr

end Uri

/-- An absolute URL. -/
structure Uri where
  scheme : String
  authority : Option Uri.Authority
  path : Uri.Location
  query : Option String
  fragment : Option String
  deriving DecidableEq, Repr

namespace Uri

/-- The user name and password with their separators. -/
def Authority.writeUserinfo (authority : Authority) : String :=
  match authority.password with
  | some password => authority.username ++ ":" ++ password ++ "@"
  | none => if authority.username.isEmpty then "" else authority.username ++ "@"

/-- The text of an authority. -/
def Authority.write (authority : Authority) : String :=
  "//" ++ authority.writeUserinfo ++
    (authority.host.map fun host => String.ofList host.write).getD "" ++
    (authority.port.map fun port => ":" ++ toString port).getD ""

/-- The text of a path. -/
def Location.write : Location → String
  | .text content => content
  | .segments names => String.join (names.map ("/" ++ ·))

/-- Would a path without authority in front be mistaken for one? -/
def Location.looksLikeAuthority : Location → Bool
  | .segments (first :: _ :: _) => first.isEmpty
  | _ => false

/-- The text of a URL. -/
def write (uri : Uri) : String :=
  uri.scheme ++ ":" ++
    (match uri.authority with
      | some authority => authority.write
      | none => if uri.path.looksLikeAuthority then "/." else "") ++
    uri.path.write ++ (uri.query.map ("?" ++ ·)).getD "" ++ (uri.fragment.map ("#" ++ ·)).getD ""

/-- Can relative addresses be resolved against the URL? They cannot if its path is plain text. -/
def isBase (uri : Uri) : Bool :=
  match uri.path with
  | .text _ => false
  | .segments _ => true

/-- The host of a URL. -/
def host? (uri : Uri) : Option Host :=
  uri.authority.bind (·.host)

/-- Does a part decode to UTF-8? -/
def decodes (part : String) : Bool :=
  (Text.Utf8.decode (percentDecode part.toList)).isOk

/-- The URL without its user name and password, unless they do not decode to UTF-8. -/
def withoutUserinfo (uri : Uri) : Uri :=
  match uri.authority with
  | some authority =>
    if decodes authority.username ∧
        (!authority.username.isEmpty ∨ authority.password.any decodes) then
      { uri with authority := some { authority with username := "", password := none } }
    else uri
  | none => uri

end Uri

end SchemaCall
