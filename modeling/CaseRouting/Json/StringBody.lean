import CaseRouting.Json.Reader
import CaseRouting.Text.Digits

/-!
# Reading a text between quotation marks

The readers here start behind the opening quotation mark. Characters below U+0020 must be escaped.
An escape with hexadecimal digits names a code unit of UTF-16: a unit of the upper surrogate range
must be followed at once by the escape of a lower one, and a lower one never stands alone. A text
that is skipped is not held to the rule of surrogates.
-/

namespace CaseRouting.Json

open Text (hexValue?)

/-- Whether fewer than four bytes of UTF-8 are left. A code unit that begins here is cut short by
the end of the text, which is looked at before the digits are. -/
def endsWithinUnit : List Char → Bool
  | [] => true
  | [c] => c.utf8Size < 4
  | [c, d] => c.utf8Size + d.utf8Size < 4
  | [c, d, e] => c.utf8Size + d.utf8Size + e.utf8Size < 4
  | _ => false

/-- The code unit written with four hexadecimal digits, in either case, and the text behind them. -/
def codeUnit (cs : List Char) : Except Error (Nat × List Char) :=
  if endsWithinUnit cs then .error .endOfText
  else match cs with
    | a :: b :: c :: d :: rest =>
      match hexValue? a, hexValue? b, hexValue? c, hexValue? d with
      | some a, some b, some c, some d => .ok (((a * 16 + b) * 16 + c) * 16 + d, rest)
      | _, _, _, _ => .error .malformed
    | _ => .error .malformed

/-- The character of a two-character escape, if there is such an escape. The slash may be escaped
but need not be. -/
def shortEscape? : Char → Option Char
  | '"' => some '"'
  | '\\' => some '\\'
  | '/' => some '/'
  | 'b' => some '\x08'
  | 'f' => some '\x0c'
  | 'n' => some '\n'
  | 'r' => some '\r'
  | 't' => some '\t'
  | _ => none

/-- The character of an escape in hexadecimal digits, behind its `u`. -/
def unicodeEscape : Reader Char := fun cs => do
  let (unit, cs) ← codeUnit cs
  if 0xDC00 ≤ unit ∧ unit ≤ 0xDFFF then .error .malformed
  else if 0xD800 ≤ unit ∧ unit ≤ 0xDBFF then
    let cs ← expectChars ['\\', 'u'] cs
    let (lower, cs) ← codeUnit cs
    if 0xDC00 ≤ lower ∧ lower ≤ 0xDFFF then
      .ok (Char.ofNat (0x10000 + (unit - 0xD800) * 0x400 + (lower - 0xDC00)), cs)
    else .error .malformed
  else .ok (Char.ofNat unit, cs)

/-- The character of an escape, behind its backslash: a short escape, or one in hexadecimal
digits. -/
def escape : Reader Char
  | [] => .error .endOfText
  | 'u' :: rest => unicodeEscape rest
  | c :: rest =>
    match shortEscape? c with
    | some d => .ok (d, rest)
    | none => .error .malformed

/-- The characters up to the closing quotation mark, which is taken. -/
def stringChars : Nat → Reader (List Char)
  | 0, _ => .error .endOfText
  | _ + 1, [] => .error .endOfText
  | fuel + 1, c :: rest =>
    if c = '"' then .ok ([], rest)
    else if c = '\\' then do
      let (d, rest) ← escape rest
      let (ds, rest) ← stringChars fuel rest
      .ok (d :: ds, rest)
    else if c.toNat < 32 then .error .malformed
    else do
      let (ds, rest) ← stringChars fuel rest
      .ok (c :: ds, rest)

/-- A text behind its opening quotation mark. Its length bounds the number of its characters, so
that the fuel never runs out first. -/
def stringBody : Reader String := fun cs => do
  let (ds, rest) ← stringChars (cs.length + 1) cs
  .ok (String.ofList ds, rest)

/-- Skips an escape behind its backslash; any code unit will do. -/
def skipEscape : List Char → Except Error (List Char)
  | [] => .error .endOfText
  | 'u' :: rest => do
    let (_, rest) ← codeUnit rest
    .ok rest
  | c :: rest => if (shortEscape? c).isSome then .ok rest else .error .malformed

/-- Skips the characters up to the closing quotation mark, which is taken. -/
def skipStringChars : Nat → List Char → Except Error (List Char)
  | 0, _ => .error .endOfText
  | _ + 1, [] => .error .endOfText
  | fuel + 1, c :: rest =>
    if c = '"' then .ok rest
    else if c = '\\' then
      match skipEscape rest with
      | .error e => .error e
      | .ok rest => skipStringChars fuel rest
    else if c.toNat < 32 then .error .malformed
    else skipStringChars fuel rest

/-- Skips a text behind its opening quotation mark. It is held to the same rules as a text that is
read, but for surrogates. -/
def skipString (cs : List Char) : Except Error (List Char) := skipStringChars (cs.length + 1) cs

end CaseRouting.Json
