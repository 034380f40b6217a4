/-!
# Characters and positions in a YAML text

The classes of characters that the indentation-based syntax distinguishes, and a position in a text:
the characters to come, how many octets came before, and the line and the column. A carriage return
followed by a line feed is one line break; line breaks count as a line feed except the line and
paragraph separators, which stand for themselves.
-/

namespace CaseRouting.Yaml

/-- A character that ends a line, of which there are more than in most formats. -/
def isBreak (c : Char) : Bool :=
  c = '\r' || c = '\n' || c = '\x85' || c = '\u2028' || c = '\u2029'

/-- A space or a tab, which may stand between two tokens of a line. -/
def isBlank (c : Char) : Bool := c = ' ' || c = '\t'

/-- A character of names: an ASCII letter or digit, the underscore or the hyphen. Anchors, handles
and directives have such names. -/
def isNameChar (c : Char) : Bool := c.isAlphanum || c = '_' || c = '-'

/-- A character that a text may hold at all. Most control characters are refused before any token is
looked for. -/
def isAllowed (c : Char) : Bool :=
  let n := c.toNat
  n = 0x9 || n = 0xA || n = 0xD || (0x20 ≤ n && n ≤ 0x7E) || n = 0x85 ||
    (0xA0 ≤ n && n ≤ 0xFFFD) || 0x10000 ≤ n

/-- The byte order mark, which may stand at the beginning of a line and counts as nothing there. -/
def byteOrderMark : Char := '\ufeff'

/-- White space or the end of the text comes next, as it must behind many of the indicators. -/
def atSpace : List Char → Bool
  | [] => true
  | c :: _ => isBlank c || isBreak c

/-- A line break or the end of the text comes next, so that nothing else stands on the line. -/
def atLineEnd : List Char → Bool
  | [] => true
  | c :: _ => isBreak c

/-- What a line break at the front of a text stands for: itself for the two separators, and a line
feed for all others. -/
def breakText : List Char → List Char
  | '\u2028' :: _ => ['\u2028']
  | '\u2029' :: _ => ['\u2029']
  | c :: _ => if isBreak c then ['\n'] else []
  | [] => []

/-- The number of octets of a text in UTF-8, in which the distance of a possible key is counted. -/
def octetCount (cs : List Char) : Nat := cs.foldl (fun n c => n + c.utf8Size) 0

/-- A position in a text. It holds the text to come itself, so that looking ahead needs nothing
else. -/
structure Cursor where
  /-- The characters to come. -/
  rest : List Char
  /-- The number of octets before, in UTF-8. -/
  index : Nat
  line : Nat
  column : Nat
  /-- The number of characters of the whole text, which no scan from here can exceed. -/
  bound : Nat

namespace Cursor

/-- The beginning of a text, with the whole of it to come. -/
def ofText (cs : List Char) : Cursor := ⟨cs, 0, 0, 0, cs.length⟩

/-- Behind so many characters, none of which ends the line; the column grows by their number and not
by their octets. -/
def advance (cursor : Cursor) (count : Nat) : Cursor :=
  { cursor with
    rest := cursor.rest.drop count
    index := cursor.index + octetCount (cursor.rest.take count)
    column := cursor.column + count }

/-- Behind the characters at the front that satisfy a test, which no line break does, so that the
line stays the same. -/
def skipWhile (cursor : Cursor) (test : Char → Bool) : Cursor :=
  cursor.advance (cursor.rest.takeWhile test).length

/-- At the beginning of the next line, behind a line break of so many characters. -/
def behindBreak (cursor : Cursor) (count : Nat) : Cursor :=
  { cursor with
    rest := cursor.rest.drop count
    index := cursor.index + octetCount (cursor.rest.take count)
    line := cursor.line + 1
    column := 0 }

/-- Behind the line break at the front, if there is one; a carriage return and the line feed behind
it are one break. -/
def nextLine (cursor : Cursor) : Cursor :=
  match cursor.rest with
  | '\r' :: '\n' :: _ => cursor.behindBreak 2
  | c :: _ => if isBreak c then cursor.behindBreak 1 else cursor
  | [] => cursor

/-- Behind blanks and a comment, on the next line if there is one; none if anything else stands on
the line. -/
def endOfLine? (cursor : Cursor) : Option Cursor :=
  let cursor := cursor.skipWhile isBlank
  let cursor := match cursor.rest with
    | '#' :: _ => cursor.skipWhile fun c => !isBreak c
    | _ => cursor
  if atLineEnd cursor.rest then some cursor.nextLine else none

/-- Whether a marker of a document, three equal characters at the beginning of a line, comes
next. -/
def atMarker (cursor : Cursor) (c : Char) : Bool :=
  cursor.column = 0 &&
    match cursor.rest with
    | a :: b :: d :: rest => a = c && b = c && d = c && atSpace rest
    | _ => false

/-- Whether the marker of the beginning or the end of a document comes next, which ends every scalar
without brackets. -/
def atDocumentMarker (cursor : Cursor) : Bool := cursor.atMarker '-' || cursor.atMarker '.'

end Cursor

end CaseRouting.Yaml
