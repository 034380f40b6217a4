import CaseRouting.Json.StringBody
import CaseRouting.Json.Numeral

/-!
# Reading values of a known shape

A reader that wants a value of one shape and meets another reports what it met. For that the value
is read as far as its description needs: a literal, a number or a text to its end, a list or an
object only up to its bracket.
-/

namespace CaseRouting.Json

/-- Refuses the value at the front of the text, which is not of the shape wanted. -/
def refuse {α : Type} (wanted : Wanted) (cs : List Char) : Except Error α :=
  let found (what : Found) : Except Error α := .error (.mismatch (.wrongType what wanted))
  match cs with
  | [] => .error .endOfText
  | 'n' :: rest => do
    let _ ← expectChars ['u', 'l', 'l'] rest
    found .null
  | 't' :: rest => do
    let _ ← expectChars ['r', 'u', 'e'] rest
    found (.boolean true)
  | 'f' :: rest => do
    let _ ← expectChars ['a', 'l', 's', 'e'] rest
    found (.boolean false)
  | '"' :: rest => do
    let (s, _) ← stringBody rest
    found (.text s)
  | '[' :: _ => found .list
  | '\x7b' :: _ => found .object
  | c :: rest =>
    if c = '-' ∨ c.isDigit then do
      let (n, _) ← numeral (c :: rest)
      found (.number n)
    else .error .malformed

/-- Reads a text. What is wanted may be called something else than a text, such as the name of a
kind. -/
def readText (wanted : Wanted) : Reader String := fun cs =>
  match skipSpace cs with
  | '"' :: rest => stringBody rest
  | cs => refuse wanted cs

/-- Reads a value or null. Nothing but null begins with its first letter, so that one character
decides. -/
def readNullable {α : Type} (value : Reader α) : Reader (Option α) := fun cs =>
  match skipSpace cs with
  | 'n' :: rest => do
    let rest ← expectChars ['u', 'l', 'l'] rest
    .ok (none, rest)
  | cs => do
    let (a, rest) ← value cs
    .ok (some a, rest)

/-- Reads a text or null, null being no text; anything else is refused as no text. -/
def readNullableText : Reader (Option String) := readNullable (readText .text)

/-- Reads a boolean, which is one of two literals. A number or a text is not taken for one. -/
def readBoolean : Reader Bool := fun cs =>
  match skipSpace cs with
  | 't' :: rest => do
    let rest ← expectChars ['r', 'u', 'e'] rest
    .ok (true, rest)
  | 'f' :: rest => do
    let rest ← expectChars ['a', 'l', 's', 'e'] rest
    .ok (false, rest)
  | cs => refuse .boolean cs

/-- Reads a list; `depth` is the number of brackets that may still be opened. -/
def readList {α : Type} (item : Nat → Reader α) (depth : Nat) : Reader (List α) := fun cs =>
  match skipSpace cs with
  | '[' :: rest =>
    match depth with
    | 0 => .error .malformed
    | depth + 1 => listBody (item depth) rest
  | cs => refuse .list cs

/-- Reads a list of texts, of which there may be none. -/
def readTexts : Nat → Reader (List String) := readList fun _ => readText .text

/-- The number of brackets that may be open at once. One more is refused as if it broke the
grammar. -/
def maxDepth : Nat := 127

end CaseRouting.Json
