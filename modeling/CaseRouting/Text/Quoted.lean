import CaseRouting.Text.CodePoints

/-!
# Quoted texts in messages

A message shows a text between quotation marks so that a reader sees exactly what it holds:
quotation marks, backslashes and the common controls get a short escape, and every other character
that would not show is written as its code point in braces.
-/

namespace CaseRouting.Text

/-- The lower-case hexadecimal digits of a number, without leading zeros. -/
def hexDigits (n : Nat) : List Char := Nat.toDigits 16 n

/-- How one character stands between quotation marks: with a short escape, as itself, or as its code
point in braces. -/
def quotedChar (c : Char) : List Char :=
  if c = '"' then ['\\', '"']
  else if c = '\\' then ['\\', '\\']
  else if c = '\n' then ['\\', 'n']
  else if c = '\r' then ['\\', 'r']
  else if c = '\t' then ['\\', 't']
  else if c = '\x00' then ['\\', '0']
  else if isPlain c then [c]
  else ['\\', 'u', '\x7b'] ++ hexDigits c.toNat ++ ['\x7d']

/-- A text as a message quotes it, between quotation marks and with nothing in it that would not
show. -/
def quoted (text : String) : String :=
  String.ofList (['"'] ++ text.toList.flatMap quotedChar ++ ['"'])

/-- A list of texts as a message quotes it: in brackets, separated by a comma and a space. -/
def quotedList (texts : List String) : String :=
  "[" ++ String.intercalate ", " (texts.map quoted) ++ "]"

end CaseRouting.Text
