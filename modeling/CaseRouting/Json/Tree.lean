import CaseRouting.Json.Scalar

/-!
# Reading any value

A value of unknown shape becomes a tree. The members of its objects are put in ascending order of
their keys, and of equal keys the last one wins. The tree is no deeper than the number of brackets
that may be opened, on which the reader recurses.
-/

namespace CaseRouting.Json

/-- The members of an object up to its closing brace, put into those read before, each at the place
that the order of the keys gives it. -/
def treeMembers (value : Reader Json) :
    Nat → Bool → List (String × Json) → Reader (List (String × Json))
  | 0, _, _, _ => .error .malformed
  | fuel + 1, first, members, cs => do
    match ← nextKey first cs with
    | none => .ok (members, cs)
    | some keyChars =>
      let (key, cs) ← stringBody keyChars
      let cs ← colon cs
      let (v, cs) ← value cs
      treeMembers value fuel false (insertMember key v members) cs

/-- Reads a value that is neither list nor object. Its first character tells which it is, as when it
is skipped. -/
def treeScalar (cs : List Char) : Except Error (Json × List Char) :=
  match cs with
  | [] => .error .endOfText
  | 'n' :: rest => do
    let rest ← expectChars ['u', 'l', 'l'] rest
    .ok (.null, rest)
  | 't' :: rest => do
    let rest ← expectChars ['r', 'u', 'e'] rest
    .ok (.boolean true, rest)
  | 'f' :: rest => do
    let rest ← expectChars ['a', 'l', 's', 'e'] rest
    .ok (.boolean false, rest)
  | '"' :: rest => do
    let (s, rest) ← stringBody rest
    .ok (.text s, rest)
  | c :: rest =>
    if c = '-' ∨ c.isDigit then do
      let (n, rest) ← numeral (c :: rest)
      .ok (.number n, rest)
    else .error .malformed

/-- Reads any value in which at most `depth` brackets are open at once. -/
def readTree : Nat → Reader Json
  | 0, cs =>
    match skipSpace cs with
    | '[' :: _ => .error .malformed
    | '\x7b' :: _ => .error .malformed
    | cs => treeScalar cs
  | depth + 1, cs =>
    match skipSpace cs with
    | '[' :: rest => do
      let (items, rest) ← listBody (readTree depth) rest
      .ok (.list items, rest)
    | '\x7b' :: rest => do
      let (members, rest) ← treeMembers (readTree depth) (rest.length + 1) true [] rest
      let rest ← closeObject rest
      .ok (.object members, rest)
    | cs => treeScalar cs

/-- The value that a text holds, with nothing but white space around it and at most the greatest
number of brackets open at once. -/
def ofText (text : String) : Except Error Json := readWhole (readTree maxDepth) text

end CaseRouting.Json
