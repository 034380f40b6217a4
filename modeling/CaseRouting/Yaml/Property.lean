import CaseRouting.Yaml.QuotedScalar
import CaseRouting.Yaml.Token

/-!
# Anchors, tags and directives

The small tokens that stand in front of a node or of a document. A tag is written completely between
angle brackets, or as a handle and a suffix; octets in it may be escaped by a percent sign and are
checked for the form of UTF-8.
-/

namespace CaseRouting.Yaml

open Text (digitRun digitsValue hexValue?)

/-- A token read from the front of a text, and what is left of the text. -/
abbrev Lexeme := Option (Token × List Char)

/-- The characters at the front that satisfy a test, and the rest, which begins with none. -/
def spanChars (test : Char → Bool) (cs : List Char) : List Char × List Char :=
  (cs.takeWhile test, cs.dropWhile test)

/-- A character that may follow the name of an anchor at once, besides white space. -/
def endsAnchor (c : Char) : Bool :=
  c = '?' || c = ':' || c = ',' || c = ']' || c = '\x7d' || c = '%' || c = '@' || c = '\x60'

/-- The name of an anchor or alias, behind its mark. It must not be empty, and what follows must be
able to. -/
def anchorName? (cs : List Char) : Option (List Char × List Char) :=
  match spanChars isNameChar cs with
  | ([], _) => none
  | (name, rest) =>
    if atSpace rest || rest.head?.any endsAnchor then some (name, rest) else none

/-- A character of a tag that stands for itself; commas and brackets only between angle
brackets. -/
def isTagChar (verbatim : Bool) (c : Char) : Bool :=
  isNameChar c || c = ';' || c = '/' || c = '?' || c = ':' || c = '@' || c = '&' || c = '=' ||
    c = '+' || c = '$' || c = '.' || c = '!' || c = '~' || c = '*' || c = '\'' || c = '(' ||
    c = ')' || (verbatim && (c = ',' || c = '[' || c = ']'))

/-- The number of octets of a character whose first octet this is. -/
def sequenceLength? (octet : Nat) : Option Nat :=
  if octet < 0x80 then some 1
  else if 0xC0 ≤ octet ∧ octet < 0xE0 then some 2
  else if 0xE0 ≤ octet ∧ octet < 0xF0 then some 3
  else if 0xF0 ≤ octet ∧ octet < 0xF8 then some 4
  else none

/-- An escaped octet: a percent sign and two hexadecimal digits, in either case. -/
def octet? : List Char → Option (Nat × List Char)
  | '%' :: a :: b :: rest => do
    let high ← hexValue? a
    let low ← hexValue? b
    some (high * 16 + low, rest)
  | _ => none

/-- The further octets of a character, each of which must have the form that UTF-8 gives it. -/
def trailingOctets? : Nat → List Char → Option (List Char × List Char)
  | 0, cs => some ([], cs)
  | count + 1, cs => do
    let (octet, rest) ← octet? cs
    if 0x80 ≤ octet ∧ octet < 0xC0 then
      let (octets, rest) ← trailingOctets? count rest
      some (Char.ofNat octet :: octets, rest)
    else none

/-- The octets of one escaped character, each kept as a character. Their form is checked, but not
which character they make. -/
def escapedOctets? (cs : List Char) : Option (List Char × List Char) := do
  let (octet, rest) ← octet? cs
  let count ← sequenceLength? octet
  let (octets, rest) ← trailingOctets? (count - 1) rest
  some (Char.ofNat octet :: octets, rest)

/-- The characters of a tag, up to the first one that no tag has; escapes come out as their
octets. -/
def tagChars? (verbatim : Bool) : Nat → List Char → Option (List Char × List Char)
  | 0, cs => some ([], cs)
  | _ + 1, [] => some ([], [])
  | fuel + 1, c :: rest =>
    if c = '%' then do
      let (octets, rest) ← escapedOctets? (c :: rest)
      let (more, rest) ← tagChars? verbatim fuel rest
      some (octets ++ more, rest)
    else if isTagChar verbatim c then do
      let (more, rest) ← tagChars? verbatim fuel rest
      some (c :: more, rest)
    else some ([], c :: rest)

/-- The characters of a tag, at least one, as every suffix but that of the simple handle needs. -/
def someTagChars? (verbatim : Bool) (cs : List Char) : Option (List Char × List Char) :=
  match tagChars? verbatim cs.length cs with
  | some ([], _) => none
  | other => other

/-- The part of a tag that counts: what follows an escaped zero octet is dropped. -/
def beforeZero (cs : List Char) : List Char := cs.takeWhile fun c => c ≠ '\x00'

/-- The handle at the front of a tag: an exclamation mark, name characters and perhaps another
exclamation mark. Without the last one the name may yet turn out to be a suffix. -/
def tagHandle? : List Char → Option (List Char × List Char)
  | '!' :: rest =>
    let (name, rest) := spanChars isNameChar rest
    match rest with
    | '!' :: rest => some ('!' :: name ++ ['!'], rest)
    | _ => some ('!' :: name, rest)
  | _ => none

/-- Whether a handle ends with an exclamation mark of its own, and so is more than the beginning of
a suffix. -/
def isClosedHandle (handle : List Char) : Bool :=
  1 < handle.length && handle.getLast? = some '!'

/-- A tag from its exclamation mark on: complete between angle brackets, with a handle that is
closed, or with the simple one. White space must follow, or a comma between brackets. -/
def tagToken? (inFlow : Bool) (cs : List Char) : Lexeme := do
  let (token, rest) ← match cs with
    | '!' :: '<' :: body => do
      let (suffix, rest) ← someTagChars? true body
      match rest with
      | '>' :: rest => some (Token.tag [] (beforeZero suffix), rest)
      | _ => none
    | _ => do
      let (handle, rest) ← tagHandle? cs
      if isClosedHandle handle then
        let (suffix, rest) ← someTagChars? false rest
        some (Token.tag handle (beforeZero suffix), rest)
      else
        let (more, rest) ← tagChars? false rest.length rest
        let suffix := beforeZero (handle.drop 1 ++ more)
        if suffix = [] then some (Token.tag [] ['!'], rest)
        else some (Token.tag ['!'] suffix, rest)
  if atSpace rest || (inFlow && rest.head? = some ',') then some (token, rest) else none

/-- A number of a version, of at most nine digits, so that it fits any integer. -/
def versionNumber? (cs : List Char) : Option (Nat × List Char) :=
  match digitRun cs with
  | ([], _) => none
  | (digits, rest) =>
    if 9 < digits.length then none
    else some (digitsValue digits, rest)

/-- The version of a directive, behind its name: two numbers with a point between them. -/
def versionDirective? (cs : List Char) : Lexeme := do
  let (major, rest) ← versionNumber? (cs.dropWhile isBlank)
  match rest with
  | '.' :: rest => do
    let (minor, rest) ← versionNumber? rest
    some (.versionDirective major minor, rest)
  | _ => none

/-- The handle and the expansion of a directive, behind its name, with blanks in front of each. -/
def tagDirective? (cs : List Char) : Lexeme := do
  let (handle, rest) ← tagHandle? (cs.dropWhile isBlank)
  if handle ≠ ['!'] ∧ ¬ isClosedHandle handle then none
  else if ¬ rest.head?.any isBlank then none
  else do
    let (expansion, rest) ← someTagChars? true (rest.dropWhile isBlank)
    if atSpace rest then some (.tagDirective handle (beforeZero expansion), rest) else none

/-- A directive behind its percent sign, without the rest of its line. Any but the two that are
known is refused. -/
def directive? (cs : List Char) : Lexeme :=
  let (name, rest) := spanChars isNameChar cs
  if ¬ atSpace rest then none
  else if name = ['Y', 'A', 'M', 'L'] then versionDirective? rest
  else if name = ['T', 'A', 'G'] then tagDirective? rest
  else none

end CaseRouting.Yaml
