/-!
# Files

Models may be kept in files. A `Directory` holds the files that can be reached, each under its path,
as bytes. `Directory.read` resolves a path as a file system does: a leading slash starts at the
root, empty components and `.` do not count, `..` goes up, every file makes the directories on the
way to it, and a path that goes on after a file, or ends in a slash, asks for a directory. Nothing
else exists, above the directory neither.
-/

namespace SchemaCall

/-- Why a file cannot be read. -/
inductive FileError where
  | notFound
  | notDirectory
  | isDirectory
  | nameTooLong
  | nullInName
  deriving DecidableEq, Repr

/-- The wording of an error, with its number in parentheses. -/
def FileError.message : FileError → String
  | .notFound => "No such file or directory (os error 2)"
  | .notDirectory => "Not a directory (os error 20)"
  | .isDirectory => "Is a directory (os error 21)"
  | .nameTooLong => "File name too long (os error 36)"
  | .nullInName => "file name contained an unexpected NUL byte"

/-- The files that can be reached, each under its path. -/
structure Directory where
  files : List (String × List UInt8)

namespace Directory

/-- The component that stands for the root. -/
def root : String := "/"

/-- The components of a path, as far as they count, the root among them. -/
def components (path : String) : List String :=
  (if path.startsWith root then [root] else []) ++
    ((path.toList.splitOn '/').map String.ofList).filter fun component =>
      component ≠ "" ∧ component ≠ "."

/-- Does the path ask for a directory? -/
def wantsDirectory (path : String) : Bool :=
  match (path.toList.splitOn '/').getLast? with
  | some last => last = [] ∨ last = ['.']
  | none => false

/-- The file with the given components. -/
def find? (directory : Directory) (place : List String) : Option (List UInt8) :=
  (directory.files.find? fun file => components file.1 = place).map Prod.snd

/-- Is there a directory with the given components? The root is one, and so are those above. -/
def isDirectory (directory : Directory) (place : List String) : Bool :=
  place = [root] || place.all (· = "..") || directory.files.any fun file =>
    place.isPrefixOf (components file.1) && place ≠ components file.1

/-- The place one component further on; nothing is above the root. -/
def step (place : List String) (next : String) : List String :=
  -- above the directory only more of the same can be said
  if next ≠ ".." ∨ place.all (· = "..") then place ++ [next]
  else if place = [root] then place
  else place.dropLast

/-- Walk from a directory down the components of a path; `wants` tells whether the path asks for a
directory. -/
def walk (directory : Directory) (wants : Bool) (place : List String) :
    List String → Except FileError (List UInt8)
  | [] =>
    match directory.find? place with
    | some content => if wants then .error .notDirectory else .ok content
    | none => if directory.isDirectory place then .error .isDirectory else .error .notFound
  | next :: rest =>
    if directory.isDirectory place then
      if 255 < next.utf8ByteSize then .error .nameTooLong
      else walk directory wants (step place next) rest
    else if (directory.find? place).isSome then .error .notDirectory
    else .error .notFound

/-- The content of the file at a path. -/
def read (directory : Directory) (path : String) : Except FileError (List UInt8) :=
  if path.contains '\x00' then .error .nullInName
  else if path.isEmpty then .error .notFound
  else if 4095 < path.utf8ByteSize then .error .nameTooLong
  else directory.walk (wantsDirectory path) [] (components path)

end Directory

end SchemaCall
