import CaseRouting.Definition.Read
import CaseRouting.Definition.Yaml
import CaseRouting.Files.Basic

/-!
# Definitions from files

The name of a file decides how its text is read: names with the extension `yaml` or `yml` as YAML,
all others as JSON. The extension is what follows the last dot of the last part of the path, when
something precedes that dot.
-/

namespace CaseRouting

/-- The formats of a definition. Each is read by a reader of its own, and neither is tried when the
other fails. -/
inductive DefinitionFormat where
  | json
  | yaml
  deriving DecidableEq, Repr

/-- The last part of a path that names something. Empty parts and single dots behind it are passed
over, as the system passes over them. -/
def fileName (path : String) : List Char :=
  (((pathParts path).filter fun part => part ≠ [] ∧ part ≠ ['.']).getLast?).getD []

/-- What follows the last dot of a name, if something precedes that dot. Thus a name that only
begins with a dot has no extension, nor has the name of the parent directory. -/
def extension? (name : List Char) : Option (List Char) :=
  let reversed := name.reverse
  let extension := (reversed.takeWhile fun c => c ≠ '.').reverse
  let stem := (reversed.dropWhile fun c => c ≠ '.').drop 1
  if name = ['.', '.'] ∨ stem = [] then none else some extension

/-- The format that a path calls for, letter by letter: an extension in capitals is not the
extension. -/
def DefinitionFormat.ofPath (path : String) : DefinitionFormat :=
  match extension? (fileName path) with
  | some ['y', 'a', 'm', 'l'] => .yaml
  | some ['y', 'm', 'l'] => .yaml
  | _ => .json

/-- Why a definition cannot be loaded. An error of the system holds the path, and one of a reader
what the reader reports. -/
inductive LoadError where
  /-- The file cannot be read. -/
  | unreadable (path : String) (reason : ReadError)
  | json (error : Json.Error)
  | yaml

/-- The message of a file that cannot be read, with its path as it was given and the reason in the
words of the system. -/
def unreadableMessage (path : String) (reason : ReadError) : String :=
  "failed to read process definition '" ++ path ++ "': " ++ reason.message

/-- Reads the text of a definition in a format. Nothing of the definition is checked besides its
form. -/
def ProcessDefinition.ofText (format : DefinitionFormat) (text : String) :
    Except LoadError ProcessDefinition :=
  match format with
  | .json =>
    match ProcessDefinition.ofJsonText text with
    | .ok definition => .ok definition
    | .error error => .error (.json error)
  | .yaml =>
    match ProcessDefinition.ofYamlText text with
    | some definition => .ok definition
    | none => .error .yaml

/-- Loads the definition at a path. The file is read as a text before anything else, so that bytes
that are none are reported whatever the format. -/
def ProcessDefinition.load (files : FileReader) (path : String) :
    Except LoadError ProcessDefinition :=
  match files path >>= textOfBytes with
  | .error reason => .error (.unreadable path reason)
  | .ok text => ProcessDefinition.ofText (.ofPath path) text

end CaseRouting
