import CaseRouting.Yaml.Cursor

/-!
# Block scalars

A block scalar consists of the indented lines behind a bar or an angle bracket. The indentation is
that of the first line that is not empty, unless a digit gives it relative to what holds the scalar.
Behind a bar line breaks are kept; behind an angle bracket lines are joined by spaces, except at
lines that begin with a blank. A hyphen drops the line breaks at the end, a plus sign keeps all of
them, and otherwise one is kept.
-/

namespace CaseRouting.Yaml

/-- What happens to the line breaks at the end of a block scalar: none of them is kept, or one, or
all. -/
inductive Chomping where
  | strip
  | clip
  | keep
  deriving DecidableEq

/-- The chomping that a character stands for; that of a single line break has no character. -/
def Chomping.ofChar? : Char → Option Chomping
  | '-' => some .strip
  | '+' => some .keep
  | _ => none

/-- The head of a block scalar, behind its bar or angle bracket, with as many of its two parts as
are given. -/
structure BlockHead where
  chomping : Chomping
  /-- The indentation relative to what holds the scalar. -/
  increment : Option Nat
  /-- The number of characters of the head. -/
  width : Nat

/-- The indentation that a digit gives; zero is refused, for the lines must lie further right than
what holds them. -/
def increment? (c : Char) : Option Nat := if c = '0' then none else some (c.toNat - 48)

/-- The head of a block scalar: chomping and indentation in either order, or either alone, or
nothing. -/
def BlockHead.read? : List Char → Option BlockHead
  | c :: d :: _ =>
    match Chomping.ofChar? c with
    | some chomping =>
      if d.isDigit then (increment? d).map fun n => ⟨chomping, some n, 2⟩
      else some ⟨chomping, none, 1⟩
    | none =>
      if c.isDigit then
        (increment? c).map fun n =>
          match Chomping.ofChar? d with
          | some chomping => ⟨chomping, some n, 2⟩
          | none => ⟨.clip, some n, 1⟩
      else some ⟨.clip, none, 0⟩
  | [c] =>
    match Chomping.ofChar? c with
    | some chomping => some ⟨chomping, none, 1⟩
    | none =>
      if c.isDigit then (increment? c).map fun n => ⟨.clip, some n, 1⟩
      else some ⟨.clip, none, 0⟩
  | [] => some ⟨.clip, none, 0⟩

/-- Empty lines in front of a line of a block scalar. They matter for their line breaks, and for the
indentation that they may set. -/
structure EmptyLines where
  /-- The deepest indentation among them and the line that follows. -/
  indentation : Nat
  /-- Their line breaks, the last one first. -/
  breaks : List Char
  behind : Cursor

/-- Reads empty lines and the indentation of the line that follows, at most up to the indentation
of the scalar if that is known already; a tab within the indentation is refused. -/
def EmptyLines.read? (indentation : Option Nat) :
    Nat → Nat → List Char → Cursor → Option EmptyLines
  | 0, deepest, breaks, cursor => some ⟨deepest, breaks, cursor⟩
  | fuel + 1, deepest, breaks, cursor =>
    let spaces := (cursor.rest.takeWhile fun c => c = ' ').length
    let wanted := match indentation with
      | some n => min spaces (n - cursor.column)
      | none => spaces
    let cursor := cursor.advance wanted
    let deepest := max deepest cursor.column
    let within := indentation.all fun n => cursor.column < n
    match cursor.rest with
    | [] => some ⟨deepest, breaks, cursor⟩
    | c :: _ =>
      if within && c = '\t' then none
      else if isBreak c then
        EmptyLines.read? indentation fuel deepest (breakText cursor.rest ++ breaks) cursor.nextLine
      else some ⟨deepest, breaks, cursor⟩

/-- The text of a block scalar as far as it has been read. The line breaks at its end are kept
apart, for what comes of them depends on what follows. -/
structure BlockText where
  /-- The text, its last character first. -/
  reversed : List Char
  /-- The line break behind the last line. -/
  lastBreak : List Char
  /-- The line breaks of empty lines behind it, the last one first. -/
  furtherBreaks : List Char
  /-- The last line begins with a blank. -/
  beginsBlank : Bool

/-- Appends a line to the text. Between two lines that begin with no blank a single line break is
folded into a space, unless the scalar is literal. -/
def BlockText.addLine (block : BlockText) (literal : Bool) (line lineBreak : List Char) :
    BlockText :=
  let blank := line.head?.any isBlank
  let joint :=
    if !literal && block.lastBreak = ['\n'] && !block.beginsBlank && !blank then
      if block.furtherBreaks = [] then [' '] else block.furtherBreaks
    else block.furtherBreaks ++ block.lastBreak
  ⟨line.reverse ++ (joint ++ block.reversed), lineBreak, [], blank⟩

/-- The text with the line breaks at its end that the chomping leaves, in the order of the text. -/
def BlockText.chomped (block : BlockText) : Chomping → List Char
  | .strip => block.reversed.reverse
  | .clip => (block.lastBreak ++ block.reversed).reverse
  | .keep => (block.furtherBreaks ++ block.lastBreak ++ block.reversed).reverse

/-- Reads the lines of a block scalar that start at the column of its indentation, each with the
empty lines behind it. It ends at a line that starts further left. -/
def readLines? (literal : Bool) (indentation : Nat) :
    Nat → BlockText → Cursor → Option (BlockText × Cursor)
  | 0, block, cursor => some (block, cursor)
  | fuel + 1, block, cursor =>
    if cursor.column = indentation ∧ cursor.rest ≠ [] then do
      let line := cursor.rest.takeWhile fun c => !isBreak c
      let cursor := cursor.advance line.length
      let block := block.addLine literal line (breakText cursor.rest)
      let empty ←
        EmptyLines.read? (some indentation) (fuel + 1) 0 [] cursor.nextLine
      readLines? literal indentation fuel { block with furtherBreaks := empty.breaks } empty.behind
    else some (block, cursor)

/-- Reads a block scalar from its bar or angle bracket on; `parent` is the indentation of what holds
it, or less than zero at the top. -/
def readBlock? (literal : Bool) (parent : Int) (cursor : Cursor) :
    Option (List Char × Cursor) := do
  let cursor := cursor.advance 1
  let head ← BlockHead.read? cursor.rest
  let cursor ← (cursor.advance head.width).endOfLine?
  let given := head.increment.map fun n => (max parent 0).toNat + n
  let empty ← EmptyLines.read? given (cursor.bound + 1) 0 [] cursor
  let indentation := match given with
    | some n => n
    | none => max (max empty.indentation (parent + 1).toNat) 1
  let (block, behind) ←
    readLines? literal indentation (cursor.bound + 1) ⟨[], [], empty.breaks, false⟩
      empty.behind
  some (block.chomped head.chomping, behind)

end CaseRouting.Yaml
