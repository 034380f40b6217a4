import CaseRouting.Text.Unprintable
import CaseRouting.Text.Extending

/-!
# Classes of characters

Membership in the tables of code points, and the class of white space. A class is decided by
looking for the range that holds the code point.
-/

namespace CaseRouting.Text

/-- Whether one of the closed ranges holds the code point. The ranges need not be in order for
this. -/
def inRanges (ranges : List (Nat × Nat)) (point : Nat) : Bool :=
  ranges.any fun range => range.1 ≤ point && point ≤ range.2

/-- A character that shows itself in a message: it has a glyph and does not combine with the
character in front of it. -/
def isPlain (c : Char) : Bool :=
  !inRanges extendingRanges c.toNat && !inRanges unprintableRanges c.toNat

/-- Ranges of code points with the property `White_Space`, more than the four that the grammar of
JSON knows. -/
def blankRanges : List (Nat × Nat) :=
  [(0x9, 0xD), (0x20, 0x20), (0x85, 0x85), (0xA0, 0xA0), (0x1680, 0x1680), (0x2000, 0x200A),
   (0x2028, 0x2029), (0x202F, 0x202F), (0x205F, 0x205F), (0x3000, 0x3000)]

/-- Whether a text holds white space only; the empty text does. -/
def isBlank (text : String) : Bool :=
  text.toList.all fun c => inRanges blankRanges c.toNat

end CaseRouting.Text
