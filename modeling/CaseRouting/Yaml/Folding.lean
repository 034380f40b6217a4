import CaseRouting.Yaml.Cursor

/-!
# Folding lines

Between two words of a scalar that goes over several lines stands a gap of blanks and line breaks.
A gap within a line is kept. In a gap with line breaks the blanks are dropped, one line break
becomes a space, and of several the first one is dropped; a first break that is not a line feed is
kept with all others.
-/

namespace CaseRouting.Yaml

/-- A gap between two words, as far as it has been read. It has blanks or line breaks, but never
both. -/
structure Gap where
  /-- The blanks of a gap within a line, the last one first. -/
  blanks : List Char
  /-- The first line break, which may be one that was escaped and stands for nothing, and the
  further ones, the last one first. -/
  breaks : Option (List Char × List Char)

namespace Gap

/-- No gap, from which reading one begins: it stands for no character. -/
def none : Gap := ⟨[], .none⟩

/-- A gap that begins with an escaped line break, which stands for nothing, so that the words
join. -/
def escapedBreak : Gap := ⟨[], some ([], [])⟩

/-- Whether the gap has line breaks, in which case its blanks count for nothing. -/
def hasBreaks (gap : Gap) : Bool := gap.breaks.isSome

/-- What the gap stands for between two words, its last character first. -/
def reversed (gap : Gap) : List Char :=
  match gap.breaks with
  | .none => gap.blanks
  | some (first, further) =>
    if first = ['\n'] then if further = [] then [' '] else further else further ++ first

/-- Reads on to the end of the gap. In front of the column `margin` of a further line a tab is
refused. -/
def read (margin : Nat) : Nat → Gap → Cursor → Option (Gap × Cursor)
  | 0, gap, cursor => some (gap, cursor)
  | fuel + 1, gap, cursor =>
    match cursor.rest with
    | [] => some (gap, cursor)
    | c :: _ =>
      if isBlank c then
        match gap.breaks with
        | some _ =>
          if c = '\t' ∧ cursor.column < margin then Option.none
          else read margin fuel gap (cursor.advance 1)
        | .none => read margin fuel { gap with blanks := c :: gap.blanks } (cursor.advance 1)
      else if isBreak c then
        let found := breakText cursor.rest
        let gap : Gap := match gap.breaks with
          | some (first, further) => ⟨[], some (first, found ++ further)⟩
          | .none => ⟨[], some (found, [])⟩
        read margin fuel gap cursor.nextLine
      else some (gap, cursor)

end Gap

end CaseRouting.Yaml
