import CaseRouting.Decimal.Written
import CaseRouting.Json.Value
import CaseRouting.Text.Quoted

/-!
# Why a JSON text is refused

Reading stops at the first fault from the left. The text may end too early, break the grammar, or
be JSON of another shape than the one asked for; only the last kind says what was found and what
was wanted.
-/

namespace CaseRouting.Json

/-- What stands where something else was wanted, as far as a message describes it: a list or an
object is only named. -/
inductive Found where
  | null
  | boolean (b : Bool)
  | number (n : Number)
  | text (s : String)
  | list
  | object

/-- What was wanted, by the shapes that the readers of this library ask for. -/
inductive Wanted where
  | text
  | boolean
  | list
  | dictionary
  /-- A record, by the name it has in messages. -/
  | record (name : String)
  /-- A record whose kind is told by one of its members. -/
  | tagged (name : String)
  /-- The name of a kind of node. -/
  | kindName

/-- How a value of another shape differs from the one asked for. The first difference from the left
is the one that is reported. -/
inductive Mismatch where
  | wrongType (found : Found) (wanted : Wanted)
  | missingField (field : String)
  | duplicateField (field : String)
  /-- A kind of node that does not exist. -/
  | unknownKind (kind : String)
  /-- A number that does not index the kinds of node. -/
  | kindOutOfRange (index : Nat)
  /-- A record written as a list ends before the required field at this index. -/
  | tooShort (index : Nat) (record : String) (fields : Nat)
  /-- A tagged list has this many elements behind the tag, more than its kind has fields. -/
  | tooLong (length : Nat) (fields : Nat)

/-- Why a text is not read. Only the last kind carries anything, for the first two say all that
there is to say of them. -/
inductive Error where
  /-- The text ends too early. -/
  | endOfText
  /-- The text breaks the grammar, or a limit on nesting or number size. -/
  | malformed
  /-- The text is JSON of another shape. -/
  | mismatch (m : Mismatch)

/-- The text of a number in messages, which is also the text that JSON has for it. -/
def Number.written : Number → List Char
  | .integer n => Decimal.integer n
  | .decimal x => Decimal.float x

/-- What was found, in the words of a message; a boolean, a number and a text are quoted in it. -/
def Found.describe : Found → String
  | .null => "null"
  | .boolean true => "boolean `true`"
  | .boolean false => "boolean `false`"
  | .number (.integer n) => "integer `" ++ String.ofList (Decimal.integer n) ++ "`"
  | .number (.decimal x) => "floating point `" ++ String.ofList (Decimal.float x) ++ "`"
  | .text s => "string " ++ Text.quoted s
  | .list => "sequence"
  | .object => "map"

/-- What was wanted, in the words of a message, which follow those of what was found. -/
def Wanted.describe : Wanted → String
  | .text => "a string"
  | .boolean => "a boolean"
  | .list => "a sequence"
  | .dictionary => "a map"
  | .record name => "struct " ++ name
  | .tagged name => "internally tagged enum " ++ name
  | .kindName => "variant identifier"

/-- A count in messages, written in decimal without anything in front. -/
def count (n : Nat) : String := String.ofList (Decimal.natural n)

/-- The message of a mismatch. The place in the text, which a report may have behind it, is not part
of it. -/
def Mismatch.message : Mismatch → String
  | .wrongType found wanted =>
    "invalid type: " ++ found.describe ++ ", expected " ++ wanted.describe
  | .missingField field => "missing field `" ++ field ++ "`"
  | .duplicateField field => "duplicate field `" ++ field ++ "`"
  | .unknownKind kind =>
    "unknown variant `" ++ kind ++
      "`, expected one of `start_event`, `task`, `gateway`, `end_event`"
  | .kindOutOfRange index =>
    "invalid value: integer `" ++ count index ++ "`, expected variant index 0 <= i < 4"
  | .tooShort index record fields =>
    "invalid length " ++ count index ++ ", expected struct " ++ record ++ " with " ++
      count fields ++ " elements"
  | .tooLong length fields =>
    "invalid length " ++ count length ++ ", expected " ++ count fields ++ " elements in sequence"

end CaseRouting.Json
