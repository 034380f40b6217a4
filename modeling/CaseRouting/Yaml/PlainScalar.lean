import CaseRouting.Yaml.Folding

/-!
# Plain scalars

A plain scalar has no quotation marks. It ends in front of a colon followed by white space, in front
of a comment, at the indentation of what holds it, or, between brackets, in front of a comma or a
bracket. Between brackets a colon must not be followed by one of these characters.
-/

namespace CaseRouting.Yaml

/-- Commas and brackets, which end a plain scalar between brackets and are part of it anywhere
else. -/
def isFlowIndicator (c : Char) : Bool :=
  c = ',' || c = '[' || c = ']' || c = '\x7b' || c = '\x7d'

/-- Reads on in a word, if the colons in it are well placed. The word is returned with its last
character first, behind what has been read of it. -/
def plainWord? (inFlow : Bool) (word : List Char) : List Char → Option (List Char)
  | [] => some word
  | c :: rest =>
    if isBlank c || isBreak c then some word
    else if inFlow && c = ':' && rest.head?.any fun d => d = '?' || isFlowIndicator d then none
    else if (c = ':' && atSpace rest) || (inFlow && isFlowIndicator c) then some word
    else plainWord? inFlow (c :: word) rest

/-- A plain scalar and the position behind it, where also the gap behind the scalar has been
read. -/
structure PlainScalar where
  /-- The text, its last character first. -/
  reversed : List Char
  /-- The scalar is followed by a line break. -/
  endsLine : Bool
  behind : Cursor

/-- Reads on in a plain scalar whose further lines start at the column `margin`, behind the gap that
follows the text read so far; the text has its last character first. -/
def readPlain? (inFlow : Bool) (margin : Nat) :
    Nat → List Char → Gap → Cursor → Option PlainScalar
  | 0, text, gap, cursor => some ⟨text, gap.hasBreaks, cursor⟩
  | fuel + 1, text, gap, cursor =>
    if cursor.atDocumentMarker || cursor.rest.head? = some '#' then
      some ⟨text, gap.hasBreaks, cursor⟩
    else do
      let word ← plainWord? inFlow [] cursor.rest
      if word = [] then some ⟨text, gap.hasBreaks, cursor⟩
      else
        let text := word ++ (gap.reversed ++ text)
        let cursor := cursor.advance word.length
        let (gap, behind) ← Gap.read margin fuel .none cursor
        if behind.index = cursor.index || (!inFlow && behind.column < margin) then
          some ⟨text, gap.hasBreaks, behind⟩
        else readPlain? inFlow margin fuel text gap behind

end CaseRouting.Yaml
