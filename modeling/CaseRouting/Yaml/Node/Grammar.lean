import CaseRouting.Yaml.Token.Lexer
import CaseRouting.Yaml.Node

/-!
# From tokens to a document

The grammar of nodes. Where a node may be left out, the tokens that can follow it tell that it has
been. A text holds exactly one document. The readers of collections take the reader of their nodes
as an argument. Every node that has not been left out takes a token, so the number of tokens bounds
the nesting of nodes and the lengths of collections.
-/

namespace CaseRouting.Yaml

/-- The tokens to come, and what has been defined before them by directives and anchors. -/
structure GrammarState where
  /-- The tokens to come. -/
  tokens : List Token
  /-- What the handles of tags expand to. -/
  handles : List (List Char × List Char)
  /-- The names of anchors with their marks, each name once. -/
  anchors : List (List Char × Nat)

/-- A part of the grammar, which takes tokens from the front and may fail; a failure is never
undone. -/
abbrev Grammar (α : Type) := StateT GrammarState Option α

namespace Grammar

/-- The next token, which stays where it is. Behind the last token comes the end of the text again
and again. -/
def next : Grammar Token := do
  return (← get).tokens.headD .streamEnd

/-- Drops the next token. With no token left nothing happens. -/
def skip : Grammar Unit := modify fun state => { state with tokens := state.tokens.tail }

/-- Drops the next token if it is the given one, and tells whether it was; any other token stays. -/
def accept (token : Token) : Grammar Bool := do
  if (← next) = token then
    skip
    return true
  else return false

/-- Drops the next token, which must be the given one, or else the text is no document. -/
def expect (token : Token) : Grammar Unit := do
  if ← accept token then return () else failure

/-- Gives the anchor's name to the node that begins here. The mark of a node is the number of names
before it, so a name that is given again leaves the next mark the same. -/
def defineAnchor (name : List Char) : Grammar Nat := do
  let anchors := (← get).anchors
  let mark := anchors.length
  let others := anchors.filter fun anchor => anchor.1 ≠ name
  modify fun state => { state with anchors := (name, mark) :: others }
  return mark

/-- The mark that a name stands for. An alias may not name an anchor that comes only behind it. -/
def findAnchor (name : List Char) : Grammar Nat := do
  match (← get).anchors.lookup name with
  | some mark => return mark
  | none => failure

/-- The tag that a handle and a suffix stand for. Without a handle the suffix is the whole tag. -/
def expandTag (handle suffix : List Char) : Grammar (List Char) := do
  if handle = [] then return suffix
  else
    match (← get).handles.lookup handle with
    | some expansion => return expansion ++ suffix
    | none => failure

/-- The name of an anchor, if one comes next, which is then dropped. -/
def anchorHere : Grammar (Option (List Char)) := do
  match ← next with
  | .anchor name =>
    skip
    return some name
  | _ => return none

/-- A tag, if one comes next, as its handle and its suffix; the handle is expanded later. -/
def tagHere : Grammar (Option (List Char × List Char)) := do
  match ← next with
  | .tag handle suffix =>
    skip
    return some (handle, suffix)
  | _ => return none

/-- The anchor and the tag in front of a node, in either order, each at most once. -/
def properties : Grammar Properties := do
  let anchor ← anchorHere
  let tag ← tagHere
  let anchor ← match anchor with
    | some name => pure (some name)
    | none => if tag.isSome then anchorHere else pure none
  let tag ← match tag with
    | some (handle, suffix) => some <$> expandTag handle suffix
    | none => pure none
  let mark ← match anchor with
    | some name => some <$> defineAnchor name
    | none => pure none
  return ⟨mark, tag⟩

/-- Where a node stands, which decides whether it may be a block and where the items of one may
stand. -/
inductive Place where
  /-- Between brackets. -/
  | flow
  /-- In a block. -/
  | block
  /-- In a block mapping, where the items of a sequence need not be indented. -/
  | member
  deriving DecidableEq, Repr

/-- A node, unless one of the given tokens shows that it has been left out; that token stays. -/
def nodeBefore (ends : List Token) (node : Grammar Node) : Grammar Node := do
  if (← next) ∈ ends then return .omitted else node

/-- A value with its colon in front; without a colon there is none, and behind one it may still be
left out. -/
def valueBefore (ends : List Token) (node : Grammar Node) : Grammar Node := do
  if ← accept .value then nodeBefore ends node else return .omitted

/-- The items of an indented sequence, up to the end of its block, which is dropped. -/
def blockItems (node : Place → Grammar Node) : Nat → Grammar (List Node)
  | 0 => failure
  | fuel + 1 => do
    if ← accept .blockEntry then
      let item ← nodeBefore [.blockEntry, .blockEnd] (node .block)
      let items ← blockItems node fuel
      return item :: items
    else
      expect .blockEnd
      return []

/-- The items of a sequence that is not indented, which ends where no item follows; no token marks
its end. -/
def unindentedItems (node : Place → Grammar Node) : Nat → Grammar (List Node)
  | 0 => failure
  | fuel + 1 => do
    if ← accept .blockEntry then
      let item ← nodeBefore [.blockEntry, .key, .value, .blockEnd] (node .block)
      let items ← unindentedItems node fuel
      return item :: items
    else return []

/-- The entries of an indented mapping, up to the end of its block. Both the key and the value of an
entry may be left out. -/
def blockEntries (node : Place → Grammar Node) : Nat → Grammar (List (Node × Node))
  | 0 => failure
  | fuel + 1 => do
    if ← accept .key then
      let ends : List Token := [.key, .value, .blockEnd]
      let key ← nodeBefore ends (node .member)
      let value ← valueBefore ends (node .member)
      let entries ← blockEntries node fuel
      return (key, value) :: entries
    else
      expect .blockEnd
      return []

/-- Whether another part follows between brackets; a comma stands in front of all parts but the
first and may stand behind the last. -/
def anotherBefore (close : Token) (first : Bool) : Grammar Bool := do
  if ← accept close then return false
  else
    if first then return true
    else
      expect .flowEntry
      return !(← accept close)

/-- A mapping of one entry that stands in a sequence without brackets of its own, behind the token
of its key. If the key has been left out, the token behind it is dropped. -/
def loneEntry (node : Place → Grammar Node) : Grammar Node := do
  let key ← if (← next) ∈ [Token.value, .flowEntry, .flowSequenceEnd] then
      skip
      pure Node.omitted
    else node .flow
  let value ← valueBefore [.flowEntry, .flowSequenceEnd] (node .flow)
  return .mapping .absent [(key, value)]

/-- The items of a sequence between brackets. An item that begins as a key is a mapping of its
own. -/
def flowItems (node : Place → Grammar Node) : Nat → Bool → Grammar (List Node)
  | 0, _ => failure
  | fuel + 1, first => do
    if ← anotherBefore .flowSequenceEnd first then
      let item ← if ← accept .key then loneEntry node else node .flow
      let items ← flowItems node fuel false
      return item :: items
    else return []

/-- An entry of a mapping between brackets, of which key and value, or only the value, may have been
left out. -/
def flowEntry (node : Place → Grammar Node) : Grammar (Node × Node) := do
  if ← accept .key then
    let key ← nodeBefore [.value, .flowEntry, .flowMappingEnd] (node .flow)
    let value ← valueBefore [.flowEntry, .flowMappingEnd] (node .flow)
    return (key, value)
  else
    let key ← node .flow
    return (key, .omitted)

/-- The entries of a mapping between brackets, up to the closing one, which is dropped. -/
def flowEntries (node : Place → Grammar Node) : Nat → Bool → Grammar (List (Node × Node))
  | 0, _ => failure
  | fuel + 1, first => do
    if ← anotherBefore .flowMappingEnd first then
      let entry ← flowEntry node
      let entries ← flowEntries node fuel false
      return entry :: entries
    else return []

/-- The node behind an anchor and a tag. Behind at least one of them it may be left out. -/
def content (node : Place → Grammar Node) (fuel : Nat) (place : Place)
    (properties : Properties) : Grammar Node := do
  match ← next with
  | .scalar style text =>
    skip
    return .scalar properties style text
  | .flowSequenceStart =>
    skip
    return .sequence properties (← flowItems node fuel true)
  | .flowMappingStart =>
    skip
    return .mapping properties (← flowEntries node fuel true)
  | token =>
    if token = .blockEntry ∧ place = .member then
      return .sequence properties (← unindentedItems node (fuel + 1))
    else if token = .blockSequenceStart ∧ place ≠ .flow then
      skip
      return .sequence properties (← blockItems node fuel)
    else if token = .blockMappingStart ∧ place ≠ .flow then
      skip
      return .mapping properties (← blockEntries node fuel)
    else if properties = .absent then failure
    else return .scalar properties .plain []

/-- A node, of at most so many tokens: an alias by itself, or properties with the content behind
them. -/
def node : Nat → Place → Grammar Node
  | 0, _ => failure
  | fuel + 1, place => do
    match ← next with
    | .alias name =>
      skip
      return .alias (← findAnchor name)
    | _ => content (node fuel) fuel place (← properties)

/-- The handles that need no directive: one for tags of the document's own, and one for those of the
core schema. -/
def builtinHandles : List (List Char × List Char) :=
  [(['!'], ['!']), (['!', '!'], "tag:yaml.org,2002:".toList)]

/-- The directives in front of a document: at most one version, which must be 1.1 or 1.2, and the
expansion of each handle at most once. -/
def directives : Nat → Bool → List (List Char × List Char) →
    Grammar (List (List Char × List Char))
  | 0, _, _ => failure
  | fuel + 1, versioned, handles => do
    match ← next with
    | .versionDirective major minor =>
      skip
      if versioned ∨ major ≠ 1 ∨ (minor ≠ 1 ∧ minor ≠ 2) then failure
      else directives fuel true handles
    | .tagDirective handle expansion =>
      skip
      if (handles.lookup handle).isSome then failure
      else directives fuel versioned (handles ++ [(handle, expansion)])
    | _ => return handles

/-- Whether a token cannot belong to the content of a document, as directives, markers and the end
of the text cannot. -/
def isOutside : Token → Bool
  | .versionDirective _ _ => true
  | .tagDirective _ _ => true
  | .documentStart => true
  | .documentEnd => true
  | .streamEnd => true
  | _ => false

/-- The root of the document. Without directives its marker may be left out; behind the marker the
content may be. -/
def root : Grammar Node := do
  let fuel := (← get).tokens.length + 1
  let token ← next
  if token = .streamEnd then failure
  else if isOutside token ∧ token ≠ .documentEnd then
    let handles ← directives fuel false []
    modify fun state => { state with handles := handles ++ builtinHandles }
    expect .documentStart
    if isOutside (← next) then return .omitted else node fuel .block
  else node fuel .block

/-- Drops the markers behind a document, of which there may be several. -/
def skipDocumentEnds : Grammar Unit :=
  modify fun state => { state with tokens := state.tokens.dropWhile fun t => t = .documentEnd }

/-- The only document. Anything behind it but markers of its end makes the text be refused. -/
def document : Grammar Node := do
  let node ← root
  skipDocumentEnds
  expect .streamEnd
  return node

end Grammar

/-- The root of the document that a text holds, if the text has tokens and they follow the
grammar. -/
def Node.ofText? (text : List Char) : Option Node := do
  let tokens ← tokens? text
  let (root, _) ← Grammar.document.run ⟨tokens, Grammar.builtinHandles, []⟩
  return root

end CaseRouting.Yaml
