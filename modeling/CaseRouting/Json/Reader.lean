import CaseRouting.Json.Error

/-!
# Readers

A reader takes the rest of a text and returns a value and what is left. It looks at the text from
left to right and stops at the first fault. Lists and objects share one rule for commas: an element
may be followed by a comma and another element or by the closing bracket, and a comma must not be
followed by the bracket.
-/

namespace CaseRouting.Json

/-- Reads a value from the front of a text: the value and the rest of the text behind it, or why
there is none. -/
abbrev Reader (α : Type) := List Char → Except Error (α × List Char)

/-- White space of the grammar: space, tab, line feed and carriage return. -/
def isSpace (c : Char) : Bool := c = ' ' || c = '\t' || c = '\n' || c = '\r'

/-- The text behind the white space at its front, which may stand between any two tokens. -/
def skipSpace (cs : List Char) : List Char := cs.dropWhile isSpace

/-- Reads exactly these characters. A text that ends within them ends too early, and a different
character breaks the grammar. -/
def expectChars : List Char → List Char → Except Error (List Char)
  | [], cs => .ok cs
  | _ :: _, [] => .error .endOfText
  | w :: ws, c :: cs => if c = w then expectChars ws cs else .error .malformed

/-- Whether another element stands in a list, and the text from it on; `first` tells that no
element has been read yet. The closing bracket is not taken. -/
def nextElement (first : Bool) (cs : List Char) : Except Error (Option (List Char)) :=
  match skipSpace cs with
  | [] => .error .endOfText
  | ']' :: _ => .ok none
  | c :: rest =>
    if first then .ok (some (c :: rest))
    else if c = ',' then
      match skipSpace rest with
      | [] => .error .endOfText
      | ']' :: _ => .error .malformed
      | element => .ok (some element)
    else .error .malformed

/-- Takes the closing bracket of a list, behind white space. Any other character there breaks the
grammar. -/
def closeList (cs : List Char) : Except Error (List Char) :=
  match skipSpace cs with
  | [] => .error .endOfText
  | ']' :: rest => .ok rest
  | _ => .error .malformed

/-- Whether another member stands in an object, and the text behind the quotation mark that opens
its key. The closing brace is not taken. -/
def nextKey (first : Bool) (cs : List Char) : Except Error (Option (List Char)) :=
  match skipSpace cs with
  | [] => .error .endOfText
  | '\x7d' :: _ => .ok none
  | c :: rest =>
    if first then
      if c = '"' then .ok (some rest) else .error .malformed
    else if c = ',' then
      match skipSpace rest with
      | [] => .error .endOfText
      | '"' :: key => .ok (some key)
      | _ => .error .malformed
    else .error .malformed

/-- Takes the colon behind a key, behind white space. What follows it is the value of the member. -/
def colon (cs : List Char) : Except Error (List Char) :=
  match skipSpace cs with
  | [] => .error .endOfText
  | ':' :: rest => .ok rest
  | _ => .error .malformed

/-- Takes the closing brace of an object, behind white space. -/
def closeObject (cs : List Char) : Except Error (List Char) :=
  match skipSpace cs with
  | [] => .error .endOfText
  | '\x7d' :: rest => .ok rest
  | _ => .error .malformed

/-- The elements of a list up to its closing bracket. Every element takes at least one character,
so the length of the text bounds their number. -/
def elements {α : Type} (item : Reader α) : Nat → Bool → Reader (List α)
  | 0, _, _ => .error .malformed
  | fuel + 1, first, cs => do
    match ← nextElement first cs with
    | none => .ok ([], cs)
    | some element =>
      let (value, cs) ← item element
      let (values, cs) ← elements item fuel false cs
      .ok (value :: values, cs)

/-- A list behind its opening bracket, the bracket at its end included. -/
def listBody {α : Type} (item : Reader α) : Reader (List α) := fun cs => do
  let (values, cs) ← elements item (cs.length + 1) true cs
  let cs ← closeList cs
  .ok (values, cs)

/-- The whole text is one value with white space around it. Anything else behind the value breaks
the grammar. -/
def readWhole {α : Type} (reader : Reader α) (text : String) : Except Error α := do
  let (value, cs) ← reader text.toList
  match skipSpace cs with
  | [] => .ok value
  | _ => .error .malformed

end CaseRouting.Json
