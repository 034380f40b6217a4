import CaseRouting.Json.Error
import CaseRouting.Yaml.ScalarValue

/-!
# Decoding documents

A document is decoded from its root. An alias is followed to the node it stands for; so that a small
document cannot unfold into an enormous one, only a limited number of aliases may be followed.
Where the type is known it decides how a scalar is read, and tags matter little; where any value may
stand the form of the scalar and its tag decide.
-/

namespace CaseRouting.Yaml

/-- A part of decoding, which knows what aliases stand for and counts down how many may still be
followed. -/
abbrev Decoder (α : Type) := ReaderT AliasTable (StateT Nat Option) α

namespace Decoder

/-- Decodes a document from its root. One hundred aliases may be followed for each unit of its
size. -/
def run? {α : Type} (decode : Node → Decoder α) (root : Node) : Option α := do
  let (a, _) ← (decode root).run root.aliasTable |>.run (100 * root.size)
  return a

/-- A result that may be missing, as a part of decoding that fails without a reason. -/
def ofOption {α : Type} : Option α → Decoder α
  | some a => return a
  | none => failure

/-- The node that an alias stands for, or the node itself. The table holds no alias, so that one
step is enough; each step uses up one of those that are left. -/
def follow : Node → Decoder Node
  | .alias mark => do
    match ← get with
    | 0 => failure
    | left + 1 =>
      set left
      ofOption ((← read).lookup mark)
  | node => return node

/-- A text: any scalar as it is written, whatever its style and its tag. -/
def text (node : Node) : Decoder String := do
  match ← follow node with
  | .scalar _ _ cs => return String.ofList cs
  | _ => failure

/-- Whether a scalar stands for nothing where a value may be absent. The tag of null must be right,
and any other tag makes the scalar a value. -/
def isAbsent? (properties : Properties) (style : Style) (cs : List Char) : Option Bool :=
  if style ≠ .plain then some false
  else
    match properties.tag with
    | none => some (cs = [] || isNullWord cs)
    | some tag =>
      if tag = nullTag then if isNullWord cs then some true else none
      else some false

/-- A text or nothing. Only a plain scalar can stand for nothing, so that a quoted word for null is
a text. -/
def nullableText (node : Node) : Decoder (Option String) := do
  match ← follow node with
  | .scalar properties style cs =>
    if ← ofOption (isAbsent? properties style cs) then return none
    else return some (String.ofList cs)
  | _ => failure

/-- A boolean: a plain scalar, or a literal one with the tag of booleans, that is a word for true or
false. -/
def boolean (node : Node) : Decoder Bool := do
  match ← follow node with
  | .scalar properties style cs =>
    if style = .plain ∨ (style = .literal ∧ properties.tag = some booleanTag) then
      ofOption (boolean? cs)
    else failure
  | _ => failure

/-- The items of a sequence; a node that has been left out has none. -/
def items (node : Node) : Decoder (List Node) := do
  match ← follow node with
  | .sequence _ items => return items
  | .scalar _ .plain [] => return []
  | _ => failure

/-- The keys and values of a mapping; a node that has been left out has none. -/
def entries (node : Node) : Decoder (List (Node × Node)) := do
  match ← follow node with
  | .mapping _ entries => return entries
  | .scalar _ .plain [] => return []
  | _ => failure

/-- A list, each item of which is decoded in the order of the document. -/
def list {α : Type} (item : Node → Decoder α) (node : Node) : Decoder (List α) := do
  (← items node).mapM item

/-- The value of a field, which must not have been read before. A repeated field is refused before
its value is looked at. -/
def once {α δ : Type} (before : Option α) (value : Decoder α) (put : α → δ) : Decoder δ :=
  if before.isSome then failure else put <$> value

/-- A record: a mapping whose members go into a draft one by one, until the draft is finished. -/
def record {α δ : Type} (member : String → Node → δ → Decoder δ) (blank : δ)
    (finish : δ → Except Json.Mismatch α) (node : Node) : Decoder α := do
  let draft ← (← entries node).foldlM
    (fun draft entry => do
      let key ← text entry.1
      member key entry.2 draft) blank
  ofOption (finish draft).toOption

/-- Any value, in which at most so many collections stand around one another. What is in a mapping
must be sound, but is not kept. -/
def anyValue : Nat → Node → Decoder Json
  | 0, node => do
    match ← follow node with
    | .scalar properties style cs => ofOption (scalarValue? properties style cs)
    | _ => failure
  | depth + 1, node => do
    match ← follow node with
    | .scalar properties style cs => ofOption (scalarValue? properties style cs)
    | .sequence properties items =>
      if properties.isVariant then failure
      else return .list (← items.mapM (anyValue depth))
    | .mapping properties entries =>
      if properties.isVariant then failure
      else
        let _ ← entries.mapM fun entry => do
          let _ ← anyValue depth entry.1
          anyValue depth entry.2
        return .object []
    | .alias _ => failure

end Decoder

/-- The largest number of collections around one another, of which a process, its list of nodes and
a node take three. -/
def maxNesting : Nat := 128

end CaseRouting.Yaml
