/-!
# Reading files

What reading a file by its path can give: bytes, or a reason why not. The working directory is a
value, so that everything that depends on files can be computed. It holds files and directories by
their names; directories in it are empty, and nothing is known outside it.
-/

namespace CaseRouting

/-- Why a file cannot be read as a text: the path leads to no file, or the bytes of the file are no
text. -/
inductive ReadError where
  | notFound
  | isDirectory
  /-- A file stands where the path needs a directory. -/
  | notADirectory
  | notText
  deriving DecidableEq, Repr

/-- The reason in the words of the system, with its number, as a report of a failed run quotes
it. -/
def ReadError.message : ReadError → String
  | .notFound => "No such file or directory (os error 2)"
  | .isDirectory => "Is a directory (os error 21)"
  | .notADirectory => "Not a directory (os error 20)"
  | .notText => "stream did not contain valid UTF-8"

/-- The bytes at a path, or why there are none. A run is given such a function in place of the files
themselves. -/
abbrev FileReader := String → Except ReadError ByteArray

/-- The text that bytes encode in UTF-8. A single byte that is out of place makes all of them
unreadable. -/
def textOfBytes (bytes : ByteArray) : Except ReadError String :=
  match String.fromUTF8? bytes with
  | some text => .ok text
  | none => .error .notText

/-- The parts of a path between its slashes. A slash in front or behind, or two in a row, give empty
parts. -/
def pathParts (path : String) : List (List Char) := path.toList.splitOn '/'

/-- What has a name in a directory. A directory in the working directory is empty, so that it holds
nothing to follow. -/
inductive Entry where
  | file (bytes : ByteArray)
  | directory

/-- The named entries of a working directory. Of two entries with one name, the first one counts. -/
abbrev Directory := List (String × Entry)

/-- Where a path has led so far, part by part, on the way from the working directory or from the
root. -/
inductive Place where
  /-- The working directory. -/
  | here
  | entry (entry : Entry)
  /-- A directory about which nothing is known. -/
  | outside

namespace Directory

/-- Follows one part of a path. Empty parts and single dots stay in a directory. -/
def follow (directory : Directory) : Place → List Char → Except ReadError Place
  | .entry (.file _), _ => .error .notADirectory
  | place, [] => .ok place
  | place, ['.'] => .ok place
  | .here, ['.', '.'] => .ok .outside
  | .outside, ['.', '.'] => .ok .outside
  | .entry .directory, ['.', '.'] => .ok .here
  | .here, name =>
    match directory.lookup (String.ofList name) with
    | some entry => .ok (.entry entry)
    | none => .error .notFound
  | .entry .directory, _ => .error .notFound
  | .outside, _ => .error .notFound

/-- The bytes at a path, which leads from the root if it begins with a slash. A path that ends at a
directory, whichever it is, cannot be read, and the empty path leads nowhere. -/
def read (directory : Directory) : FileReader := fun path =>
  match path.toList with
  | [] => .error .notFound
  | c :: _ => do
    let start := if c = '/' then Place.outside else Place.here
    match ← (pathParts path).foldlM directory.follow start with
    | .entry (.file bytes) => .ok bytes
    | _ => .error .isDirectory

end Directory

end CaseRouting
