import CaseRouting.Json.StringBody
import CaseRouting.Json.Numeral

/-!
# Skipping a value

The value of a member that nobody asked for is checked for its form and dropped. Lists and objects
may nest to any depth: the brackets still open are kept in a list instead of on a call stack.
-/

namespace CaseRouting.Json

/-- A bracket that is still open, and in which the skipping goes on when the inner ones are
closed. -/
inductive Bracket where
  | list
  | object
  deriving DecidableEq

/-- The character that closes a bracket. -/
def Bracket.closing : Bracket → Char
  | .list => ']'
  | .object => '\x7d'

/-- Where the skipping of a value stands. Behind a value the innermost bracket decides what may
follow. -/
inductive SkipPoint where
  /-- In front of a value. -/
  | value
  /-- Behind an opening bracket. -/
  | opened
  /-- Behind a value. -/
  | behind
  deriving DecidableEq

/-- Skips a value that is neither list nor object. Its first character tells which it is. -/
def skipScalar (cs : List Char) : Except Error (List Char) :=
  match cs with
  | [] => .error .endOfText
  | c :: rest =>
    if c = 'n' then expectChars ['u', 'l', 'l'] rest
    else if c = 't' then expectChars ['r', 'u', 'e'] rest
    else if c = 'f' then expectChars ['a', 'l', 's', 'e'] rest
    else if c = '"' then skipString rest
    else if c = '-' ∨ c.isDigit then skipNumeral cs
    else .error .malformed

/-- Skips the key and the colon that an object needs in front of a value; a list needs nothing
there. -/
def skipKey : Bracket → List Char → Except Error (List Char)
  | .list, cs => .ok cs
  | .object, cs =>
    match skipSpace cs with
    | [] => .error .endOfText
    | '"' :: rest => do
      let rest ← skipString rest
      colon rest
    | _ => .error .malformed

/-- Skips to the end of the outermost value, from a point within the brackets that are open. It ends
behind a value with no bracket left. A round that takes no character leads from an opening bracket
to the value behind it. -/
def skipFrom : Nat → List Bracket → SkipPoint → List Char → Except Error (List Char)
  | 0, _, _, _ => .error .malformed
  | fuel + 1, brackets, .value, cs =>
    match skipSpace cs with
    | [] => .error .endOfText
    | '[' :: rest => skipFrom fuel (.list :: brackets) .opened rest
    | '\x7b' :: rest => skipFrom fuel (.object :: brackets) .opened rest
    | cs =>
      match skipScalar cs with
      | .error e => .error e
      | .ok rest => skipFrom fuel brackets .behind rest
  | _ + 1, [], _, cs => .ok cs
  | fuel + 1, bracket :: outer, point, cs =>
    match skipSpace cs with
    | [] => .error .endOfText
    | c :: rest =>
      if c = bracket.closing then skipFrom fuel outer .behind rest
      else if point = .behind ∧ c ≠ ',' then .error .malformed
      else
        match skipKey bracket (if point = .behind then rest else c :: rest) with
        | .error e => .error e
        | .ok rest => skipFrom fuel (bracket :: outer) .value rest

/-- Skips one value, with enough fuel for two rounds for each character of the text. -/
def skipValue (cs : List Char) : Except Error (List Char) :=
  skipFrom (2 * cs.length + 2) [] .value cs

end CaseRouting.Json
