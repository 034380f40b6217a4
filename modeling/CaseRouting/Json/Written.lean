import CaseRouting.Json.Error

/-!
# JSON values as text

The compact form has no white space. The indented form puts every element and member on a line of
its own, two spaces deeper than what holds it; empty lists and objects stay on one line. Both
escape a text in the same way: the quotation mark, the backslash and the controls below U+0020,
everything else standing for itself.
-/

namespace CaseRouting.Json

/-- A lower-case hexadecimal digit, for a number below sixteen. -/
def hexDigit (n : Nat) : Char := if n < 10 then Char.ofNat (48 + n) else Char.ofNat (87 + n)

/-- How one character stands in a JSON text: as a short escape, as its code point in four digits, or
as itself. -/
def writtenChar (c : Char) : List Char :=
  if c = '"' then ['\\', '"']
  else if c = '\\' then ['\\', '\\']
  else if c = '\x08' then ['\\', 'b']
  else if c = '\x0c' then ['\\', 'f']
  else if c = '\n' then ['\\', 'n']
  else if c = '\r' then ['\\', 'r']
  else if c = '\t' then ['\\', 't']
  else if c.toNat < 32 then
    ['\\', 'u', '0', '0', hexDigit (c.toNat / 16), hexDigit (c.toNat % 16)]
  else [c]

/-- A text between quotation marks, written character by character. -/
def writtenText (s : String) : List Char :=
  '"' :: (s.toList.flatMap writtenChar ++ ['"'])

mutual

/-- The compact form of a value, by recursion along the value and the lists in it. -/
def written : Json → List Char
  | .null => ['n', 'u', 'l', 'l']
  | .boolean true => ['t', 'r', 'u', 'e']
  | .boolean false => ['f', 'a', 'l', 's', 'e']
  | .number n => n.written
  | .text s => writtenText s
  | .list items => '[' :: writtenItems items
  | .object members => '\x7b' :: writtenMembers members

/-- The elements of a list and its closing bracket. The first element has no comma in front, so that
the others are written by another function. -/
def writtenItems : List Json → List Char
  | [] => [']']
  | item :: rest => written item ++ writtenMoreItems rest

/-- The further elements, each behind a comma, and the closing bracket. -/
def writtenMoreItems : List Json → List Char
  | [] => [']']
  | item :: rest => ',' :: (written item ++ writtenMoreItems rest)

/-- The members of an object and its closing brace, each key with its colon in front of the
value. -/
def writtenMembers : List (String × Json) → List Char
  | [] => ['\x7d']
  | (key, value) :: rest => writtenText key ++ ':' :: (written value ++ writtenMoreMembers rest)

/-- The further members, each behind a comma, and the closing brace. -/
def writtenMoreMembers : List (String × Json) → List Char
  | [] => ['\x7d']
  | (key, value) :: rest =>
    ',' :: (writtenText key ++ ':' :: (written value ++ writtenMoreMembers rest))

end

/-- A new line at the given depth of indentation, two spaces for each level. -/
def newLine (depth : Nat) : List Char := '\n' :: List.replicate (2 * depth) ' '

mutual

/-- The indented form of a value that stands at the given depth. It differs from the compact form
only inside lists and objects that are not empty. -/
def indented (depth : Nat) : Json → List Char
  | .null => ['n', 'u', 'l', 'l']
  | .boolean true => ['t', 'r', 'u', 'e']
  | .boolean false => ['f', 'a', 'l', 's', 'e']
  | .number n => n.written
  | .text s => writtenText s
  | .list items => '[' :: indentedItems depth items
  | .object members => '\x7b' :: indentedMembers depth members

/-- The elements of a list, each on its line, and the closing bracket. -/
def indentedItems (depth : Nat) : List Json → List Char
  | [] => [']']
  | item :: rest =>
    newLine (depth + 1) ++ indented (depth + 1) item ++ indentedMoreItems depth rest

/-- The further elements and the closing bracket, which stands on a line of its own, at the depth of
the list. -/
def indentedMoreItems (depth : Nat) : List Json → List Char
  | [] => newLine depth ++ [']']
  | item :: rest =>
    ',' :: (newLine (depth + 1) ++ indented (depth + 1) item ++ indentedMoreItems depth rest)

/-- The members of an object, each on its line, and the closing brace. A space stands between a
colon and the value. -/
def indentedMembers (depth : Nat) : List (String × Json) → List Char
  | [] => ['\x7d']
  | (key, value) :: rest =>
    newLine (depth + 1) ++ writtenText key ++ ':' :: ' ' ::
      (indented (depth + 1) value ++ indentedMoreMembers depth rest)

/-- The further members and the closing brace, which stands on a line of its own, at the depth of
the object. -/
def indentedMoreMembers (depth : Nat) : List (String × Json) → List Char
  | [] => newLine depth ++ ['\x7d']
  | (key, value) :: rest =>
    ',' :: (newLine (depth + 1) ++ writtenText key ++ ':' :: ' ' ::
      (indented (depth + 1) value ++ indentedMoreMembers depth rest))

end

/-- The compact text of a value, all on one line. -/
def compact (value : Json) : String := String.ofList value.written

/-- The indented text of a value, which begins at the left margin and has no line break at its
end. -/
def pretty (value : Json) : String := String.ofList (value.indented 0)

end CaseRouting.Json
