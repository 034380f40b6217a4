import CaseRouting.Text.Digits
import CaseRouting.Yaml.Folding

/-!
# Quoted scalars

Between single quotation marks a quotation mark is written twice and nothing else is special.
Between double quotation marks a backslash begins an escape, and a backslash at the end of a line
joins it with the next one. The marker of a document must not stand inside.
-/

namespace CaseRouting.Yaml

open Text (radixNumber?)

/-- The character of an escape of so many hexadecimal digits. Surrogates, and numbers beyond the
last code point, are refused. -/
def codePoint? (digits : Nat) (cs : List Char) : Option Char := do
  let code := cs.take digits
  if code.length < digits then none
  else
    let value ← radixNumber? 16 0 code
    if (0xD800 ≤ value ∧ value ≤ 0xDFFF) ∨ 0x10FFFF < value then none
    else some (Char.ofNat value)

/-- The character of an escape of one character, if there is such an escape; these are more than in
JSON. -/
def escapedChar? : Char → Option Char
  | '0' => some '\x00'
  | 'a' => some '\x07'
  | 'b' => some '\x08'
  | 't' => some '\t'
  | '\t' => some '\t'
  | 'n' => some '\n'
  | 'v' => some '\x0b'
  | 'f' => some '\x0c'
  | 'r' => some '\r'
  | 'e' => some '\x1b'
  | ' ' => some ' '
  | '"' => some '"'
  | '/' => some '/'
  | '\\' => some '\\'
  | 'N' => some '\x85'
  | '_' => some '\xa0'
  | 'L' => some '\u2028'
  | 'P' => some '\u2029'
  | _ => none

/-- An escape behind its backslash: its character, and the number of characters it takes. -/
def escape? : List Char → Option (Char × Nat)
  | [] => none
  | 'x' :: rest => (codePoint? 2 rest).map fun d => (d, 3)
  | 'u' :: rest => (codePoint? 4 rest).map fun d => (d, 5)
  | 'U' :: rest => (codePoint? 8 rest).map fun d => (d, 9)
  | c :: _ => (escapedChar? c).map fun d => (d, 1)

/-- Reads on in a word between double quotation marks, up to white space, the closing mark or the
backslash of an escaped line break. The text has its last character first. -/
def doubleWord? : Nat → List Char → Cursor → Option (List Char × Cursor)
  | 0, text, cursor => some (text, cursor)
  | fuel + 1, text, cursor =>
    match cursor.rest with
    | [] => some (text, cursor)
    | c :: rest =>
      if isBlank c || isBreak c || c = '"' then some (text, cursor)
      else if c = '\\' then
        if rest.head?.any isBreak then some (text, cursor)
        else do
          let (d, width) ← escape? rest
          doubleWord? fuel (d :: text) (cursor.advance (width + 1))
      else doubleWord? fuel (c :: text) (cursor.advance 1)

/-- Reads on in a word between single quotation marks, up to white space or the closing mark. The
text has its last character first. -/
def singleWord : Nat → List Char → Cursor → List Char × Cursor
  | 0, text, cursor => (text, cursor)
  | fuel + 1, text, cursor =>
    match cursor.rest with
    | '\'' :: '\'' :: _ => singleWord fuel ('\'' :: text) (cursor.advance 2)
    | c :: _ =>
      if isBlank c || isBreak c || c = '\'' then (text, cursor)
      else singleWord fuel (c :: text) (cursor.advance 1)
    | [] => (text, cursor)

/-- Reads on in a quoted scalar to the position behind its closing mark. The text has its last
character first. -/
def readQuoted? (double : Bool) : Nat → List Char → Cursor → Option (List Char × Cursor)
  | 0, _, _ => none
  | fuel + 1, text, cursor =>
    if cursor.atDocumentMarker then none
    else do
      let (text, cursor) ←
        if double then doubleWord? (fuel + 1) text cursor
        else some (singleWord (fuel + 1) text cursor)
      let mark := if double then '"' else '\''
      match cursor.rest with
      | [] => none
      | c :: _ =>
        if c = mark then some (text, cursor.advance 1)
        else
          let escaped := double && c = '\\'
          let cursor := if escaped then (cursor.advance 1).nextLine else cursor
          if escaped && cursor.rest.head? = some mark then some (text, cursor.advance 1)
          else
            let (gap, cursor) ←
              Gap.read 0 fuel (if escaped then .escapedBreak else .none) cursor
            readQuoted? double fuel (gap.reversed ++ text) cursor

end CaseRouting.Yaml
