import CaseRouting.Yaml.BlockScalar
import CaseRouting.Yaml.PlainScalar
import CaseRouting.Yaml.Property

/-!
# From a text to its tokens

The lexer keeps track of the indentation. A line that starts further right than the block it is in
may open a new block, and one that starts further left closes blocks. Whether a node is the key of a
mapping is known only when the colon behind it comes, so the place of every node that could be a key
is remembered, one for each level of brackets; at the colon the token for the key, and if need be
the token that opens its block, is put in front of that node. Such a key must fit on one line and
must not be longer than 1024 octets.
-/

namespace CaseRouting.Yaml

/-- The place of a node that may turn out to be a key: where it stands among the tokens and where in
the text. -/
structure PossibleKey where
  /-- Without a colon the text would be wrong, because the node stands at the indentation of its
  block. -/
  required : Bool
  /-- The number of tokens in front of the node. -/
  tokenNumber : Nat
  index : Nat
  line : Nat
  column : Nat

/-- The state of the lexer. The tokens that have been taken stay within reach, for a key is found
out only behind them. -/
structure Lexer where
  cursor : Cursor
  /-- The column of the innermost block; less than zero when there is none. -/
  indentation : Int
  /-- The columns of the blocks around it. -/
  outer : List Int
  /-- The possible key outside all brackets and, in front of it, those of the open brackets. -/
  keys : List (Option PossibleKey)
  /-- Whether a key may begin here. -/
  keyAllowed : Bool
  /-- The tokens so far, the last one first. -/
  tokens : List Token
  /-- The number of tokens so far. -/
  count : Nat

namespace Lexer

/-- The state in front of a text: no block is open, a key may begin and there are no tokens. -/
def start (cs : List Char) : Lexer := ⟨.ofText cs, -1, [], [none], true, [], 0⟩

/-- Whether brackets are open, between which indentation has no meaning. -/
def inFlow (lexer : Lexer) : Bool :=
  match lexer.keys with
  | _ :: _ :: _ => true
  | _ => false

/-- Appends a token behind all that have been taken. -/
def emit (lexer : Lexer) (token : Token) : Lexer :=
  { lexer with tokens := token :: lexer.tokens, count := lexer.count + 1 }

/-- Puts a token behind the given number of tokens, and so in front of the node that has come after
them. -/
def insertAt (lexer : Lexer) (number : Nat) (token : Token) : Lexer :=
  let behind := lexer.count - number
  { lexer with
    tokens := lexer.tokens.take behind ++ token :: lexer.tokens.drop behind
    count := lexer.count + 1 }

/-- Goes on behind so many characters of the same line, without taking a token. -/
def advance (lexer : Lexer) (width : Nat) : Lexer :=
  { lexer with cursor := lexer.cursor.advance width }

/-- Goes on at a text that is left over on the same line, as the readers of small tokens leave
it. -/
def goOnAt (lexer : Lexer) (rest : List Char) : Lexer :=
  lexer.advance (lexer.cursor.rest.length - rest.length)

/-- Opens a block at a column that lies further right, in front of the token with a number. Between
brackets there are no blocks to open. -/
def openBlock (lexer : Lexer) (column number : Nat) (token : Token) : Lexer :=
  if !lexer.inFlow && lexer.indentation < (column : Int) then
    { lexer.insertAt number token with
      indentation := column
      outer := lexer.indentation :: lexer.outer }
  else lexer

/-- Closes the given blocks that lie further right than a column, the innermost first, each with a
token for its end. -/
def closeFrom (column : Int) : List Int → Lexer → Lexer
  | [], lexer => lexer
  | parent :: outer, lexer =>
    if column < lexer.indentation then
      closeFrom column outer ({ lexer with indentation := parent, outer := outer }.emit .blockEnd)
    else lexer

/-- Closes the blocks that lie further right than a column, unless brackets are open. -/
def closeBlocks (lexer : Lexer) (column : Int) : Lexer :=
  if lexer.inFlow then lexer else closeFrom column lexer.outer lexer

/-- Forgets the innermost possible key, which must not be required: a node that has to be a key must
get its colon. -/
def dropKey? (lexer : Lexer) : Option Lexer :=
  match lexer.keys with
  | some key :: keys => if key.required then none else some { lexer with keys := none :: keys }
  | _ => some lexer

/-- Remembers the place as that of a possible key, if a key may begin here. It takes the place of
the one before on the same level. -/
def noteKey? (lexer : Lexer) : Option Lexer :=
  if lexer.keyAllowed then do
    let required := !lexer.inFlow && lexer.indentation = (lexer.cursor.column : Int)
    let key : PossibleKey :=
      ⟨required, lexer.count, lexer.cursor.index, lexer.cursor.line, lexer.cursor.column⟩
    let lexer ← lexer.dropKey?
    some { lexer with keys := some key :: lexer.keys.tail }
  else some lexer

/-- Whether a possible key can no longer be one at a position: the line has ended, or the colon is
too far away. -/
def PossibleKey.isStale (key : PossibleKey) (cursor : Cursor) : Bool :=
  key.line < cursor.line || key.index + 1024 < cursor.index

/-- Forgets the possible keys that can no longer be one, on all levels; none of them may be
required. -/
def dropStaleKeys? (lexer : Lexer) : Option Lexer :=
  let stale (key : Option PossibleKey) : Bool := key.any fun k => PossibleKey.isStale k lexer.cursor
  if lexer.keys.any fun key => stale key && key.any fun k => k.required then none
  else some { lexer with keys := lexer.keys.map fun key => if stale key then none else key }

/-- Skips white space, comments and line breaks. A line break outside brackets allows a key; a tab
is white space only where no key may begin. -/
def skipSpace : Nat → Lexer → Lexer
  | 0, lexer => lexer
  | fuel + 1, lexer =>
    let cursor := lexer.cursor
    let cursor := if cursor.column = 0 && cursor.rest.head? = some byteOrderMark
      then cursor.advance 1 else cursor
    let cursor := cursor.skipWhile fun c =>
      c = ' ' || (c = '\t' && (lexer.inFlow || !lexer.keyAllowed))
    let cursor := match cursor.rest with
      | '#' :: _ => cursor.skipWhile fun c => !isBreak c
      | _ => cursor
    if cursor.rest.head?.any isBreak then
      skipSpace fuel { lexer with
        cursor := cursor.nextLine
        keyAllowed := lexer.keyAllowed || !lexer.inFlow }
    else { lexer with cursor := cursor }

/-- Appends the token of a single character and goes on behind it. -/
def takeIndicator (lexer : Lexer) (token : Token) : Lexer := (lexer.advance 1).emit token

/-- The end of the text, which closes all blocks. Brackets that are still open are left to the
grammar. -/
def takeEnd? (lexer : Lexer) : Option Lexer := do
  let lexer ← (lexer.closeBlocks (-1)).dropKey?
  some (lexer.emit .streamEnd)

/-- A directive, which ends its line. It stands at the margin and so closes all blocks. -/
def takeDirective? (lexer : Lexer) : Option Lexer := do
  let lexer ← (lexer.closeBlocks (-1)).dropKey?
  let lexer := { lexer with keyAllowed := false }
  let (token, rest) ← directive? (lexer.cursor.rest.drop 1)
  let cursor ← (lexer.goOnAt rest).cursor.endOfLine?
  some ({ lexer with cursor := cursor }.emit token)

/-- The marker of a document, which closes all blocks as the end of the text does. -/
def takeMarker? (lexer : Lexer) (token : Token) : Option Lexer := do
  let lexer ← (lexer.closeBlocks (-1)).dropKey?
  some ({ lexer with keyAllowed := false }.advance 3 |>.emit token)

/-- An opening bracket. What it opens may be a key, and inside a key may begin. -/
def takeOpening? (lexer : Lexer) (token : Token) : Option Lexer := do
  let lexer ← lexer.noteKey?
  some ({ lexer with keys := none :: lexer.keys, keyAllowed := true }.takeIndicator token)

/-- A closing bracket, with which the place that was remembered inside is forgotten. -/
def takeClosing? (lexer : Lexer) (token : Token) : Option Lexer := do
  let lexer ← lexer.dropKey?
  let keys := if lexer.inFlow then lexer.keys.tail else lexer.keys
  some ({ lexer with keys := keys, keyAllowed := false }.takeIndicator token)

/-- A comma between brackets, behind which a key may begin. -/
def takeFlowEntry? (lexer : Lexer) : Option Lexer := do
  let lexer ← lexer.dropKey?
  some ({ lexer with keyAllowed := true }.takeIndicator .flowEntry)

/-- The hyphen of an item, which opens a block of items if it stands further right than the block
around it. -/
def takeBlockEntry? (lexer : Lexer) : Option Lexer :=
  if !lexer.inFlow && !lexer.keyAllowed then none
  else do
    let lexer ← (lexer.openBlock lexer.cursor.column lexer.count .blockSequenceStart).dropKey?
    some ({ lexer with keyAllowed := true }.takeIndicator .blockEntry)

/-- The question mark of a key, which opens a block of keys as a hyphen opens one of items. -/
def takeKey? (lexer : Lexer) : Option Lexer :=
  if !lexer.inFlow && !lexer.keyAllowed then none
  else do
    let lexer ← (lexer.openBlock lexer.cursor.column lexer.count .blockMappingStart).dropKey?
    some ({ lexer with keyAllowed := !lexer.inFlow }.takeIndicator .key)

/-- The colon of a value: behind a node that thereby becomes a key, or by itself. -/
def takeValue? (lexer : Lexer) : Option Lexer :=
  match lexer.keys with
  | some key :: keys =>
    let lexer := (lexer.insertAt key.tokenNumber .key).openBlock key.column key.tokenNumber
      .blockMappingStart
    some ({ lexer with keys := none :: keys, keyAllowed := false }.takeIndicator .value)
  | _ =>
    if !lexer.inFlow && !lexer.keyAllowed then none
    else
      let lexer := lexer.openBlock lexer.cursor.column lexer.count .blockMappingStart
      some ({ lexer with keyAllowed := !lexer.inFlow }.takeIndicator .value)

/-- An anchor or an alias, which may itself be a key or stand in front of one. -/
def takeAnchor? (lexer : Lexer) (token : List Char → Token) : Option Lexer := do
  let lexer ← lexer.noteKey?
  let (name, rest) ← anchorName? (lexer.cursor.rest.drop 1)
  some (({ lexer with keyAllowed := false }.goOnAt rest).emit (token name))

/-- A tag, in front of the node that it belongs to; with that node it may be a key. -/
def takeTag? (lexer : Lexer) : Option Lexer := do
  let lexer ← lexer.noteKey?
  let (token, rest) ← tagToken? lexer.inFlow lexer.cursor.rest
  some (({ lexer with keyAllowed := false }.goOnAt rest).emit token)

/-- A block scalar, which takes whole lines and therefore is no key. -/
def takeBlockScalar? (lexer : Lexer) (literal : Bool) : Option Lexer := do
  let lexer ← lexer.dropKey?
  let (text, cursor) ← readBlock? literal lexer.indentation lexer.cursor
  some ({ lexer with cursor := cursor, keyAllowed := true }.emit
    (.scalar (if literal then .literal else .folded) text))

/-- A quoted scalar, which may be a key if it stays on its line. -/
def takeQuoted? (lexer : Lexer) (double : Bool) : Option Lexer := do
  let lexer ← lexer.noteKey?
  let cursor := lexer.cursor.advance 1
  let (text, cursor) ← readQuoted? double (cursor.bound + 1) [] cursor
  some ({ lexer with cursor := cursor, keyAllowed := false }.emit (.scalar .quoted text.reverse))

/-- A plain scalar, whose further lines must lie further right than the block it is in. -/
def takePlain? (lexer : Lexer) : Option Lexer := do
  let lexer ← lexer.noteKey?
  let margin := (lexer.indentation + 1).toNat
  let scalar ← readPlain? lexer.inFlow margin (lexer.cursor.bound + 1) [] .none lexer.cursor
  some ({ lexer with cursor := scalar.behind, keyAllowed := scalar.endsLine }.emit
    (.scalar .plain scalar.reversed.reverse))

/-- A character that begins no plain scalar, unless it is one of the few that do when a character
follows at once. -/
def isIndicator (c : Char) : Bool :=
  isFlowIndicator c || c = '-' || c = '?' || c = ':' || c = '#' || c = '&' || c = '*' || c = '!' ||
    c = '|' || c = '>' || c = '\'' || c = '"' || c = '%' || c = '@' || c = '\x60'

/-- Whether a plain scalar begins with a character, given the text behind it. -/
def beginsPlain (inFlow : Bool) (c : Char) (rest : List Char) : Bool :=
  !(isBlank c || isBreak c || isIndicator c) || (c = '-' && !rest.head?.any isBlank) ||
    (!inFlow && (c = '?' || c = ':') && !atSpace rest)

/-- Takes one token, or several where blocks end; nothing is skipped in front of it. -/
def takeToken? (lexer : Lexer) : Option Lexer :=
  match lexer.cursor.rest with
  | [] => lexer.takeEnd?
  | c :: rest =>
    if c = '%' && lexer.cursor.column = 0 then lexer.takeDirective?
    else if lexer.cursor.atMarker '-' then lexer.takeMarker? .documentStart
    else if lexer.cursor.atMarker '.' then lexer.takeMarker? .documentEnd
    else if c = '[' then lexer.takeOpening? .flowSequenceStart
    else if c = '\x7b' then lexer.takeOpening? .flowMappingStart
    else if c = ']' then lexer.takeClosing? .flowSequenceEnd
    else if c = '\x7d' then lexer.takeClosing? .flowMappingEnd
    else if c = ',' then lexer.takeFlowEntry?
    else if c = '-' && atSpace rest then lexer.takeBlockEntry?
    else if c = '?' && (lexer.inFlow || atSpace rest) then lexer.takeKey?
    else if c = ':' && (lexer.inFlow || atSpace rest) then lexer.takeValue?
    else if c = '*' then lexer.takeAnchor? .alias
    else if c = '&' then lexer.takeAnchor? .anchor
    else if c = '!' then lexer.takeTag?
    else if c = '|' && !lexer.inFlow then lexer.takeBlockScalar? true
    else if c = '>' && !lexer.inFlow then lexer.takeBlockScalar? false
    else if c = '\'' then lexer.takeQuoted? false
    else if c = '"' then lexer.takeQuoted? true
    else if beginsPlain lexer.inFlow c rest then lexer.takePlain?
    else none

/-- Skips what stands in front of the next token, closes the blocks that end there and takes the
token. -/
def step? (lexer : Lexer) : Option Lexer := do
  let lexer ← (skipSpace (lexer.cursor.bound + 1) lexer).dropStaleKeys?
  (lexer.closeBlocks lexer.cursor.column).takeToken?

/-- Takes tokens until the end of the text has been taken. Each step takes a character at least or
the end, so that the fuel lasts. -/
def run? : Nat → Lexer → Option (List Token)
  | 0, _ => none
  | fuel + 1, lexer => do
    let lexer ← lexer.step?
    match lexer.tokens with
    | .streamEnd :: _ => some lexer.tokens.reverse
    | _ => run? fuel lexer

end Lexer

/-- The tokens of a text, none of whose characters may be forbidden. -/
def tokens? (cs : List Char) : Option (List Token) :=
  if cs.all isAllowed then Lexer.run? (cs.length + 1) (.start cs) else none

end CaseRouting.Yaml
