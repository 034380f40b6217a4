import CaseRouting.Definition.Basic
import CaseRouting.Json.Error

/-!
# The kind of a node from its members

The members of a node that are not fields of the node itself tell its kind: `type` names it, and a
task may have two more fields. Which of them matter is known only with the type, so they are
collected first as values of any shape and looked at afterwards, in the order in which they stand.
-/

namespace CaseRouting

open Json (Mismatch Found Wanted)

/-- The kind of a node without the details of a task, as it is known while the rest of the node is
still to be looked at. -/
inductive KindTag where
  | startEvent
  | task
  | gateway
  | endEvent
  deriving DecidableEq, Repr

namespace KindTag

/-- The kind with the given name; there are four, and any other name is an error that quotes it. -/
def ofName (name : String) : Except Mismatch KindTag :=
  if name = "start_event" then .ok .startEvent
  else if name = "task" then .ok .task
  else if name = "gateway" then .ok .gateway
  else if name = "end_event" then .ok .endEvent
  else .error (.unknownKind name)

/-- The kind with the given index, counted from zero in the order of declaration. The names are what
a designer writes, and the indices come along with them. -/
def ofIndex : Nat → Except Mismatch KindTag
  | 0 => .ok .startEvent
  | 1 => .ok .task
  | 2 => .ok .gateway
  | 3 => .ok .endEvent
  | n => .error (.kindOutOfRange n)

end KindTag

/-- What a value is, when something else was wanted. -/
def Json.found : Json → Found
  | .null => .null
  | .boolean b => .boolean b
  | .number n => .number n
  | .text s => .text s
  | .list _ => .list
  | .object _ => .object

/-- Refuses a collected value of the wrong shape, with what it is and what was wanted in its
place. -/
def refuseValue {α : Type} (wanted : Wanted) (value : Json) : Except Mismatch α :=
  .error (.wrongType value.found wanted)

/-- A kind told by its name or by its index. A collected value may be either, in contrast to the tag
of a kind that stands by itself. -/
def KindTag.ofValue : Json → Except Mismatch KindTag
  | .text name => KindTag.ofName name
  | .number (.integer (.ofNat index)) => KindTag.ofIndex index
  | value => refuseValue .kindName value

/-- A collected text, where the value may be nothing else. -/
def textOfValue : Json → Except Mismatch String
  | .text s => .ok s
  | value => refuseValue .text value

/-- A collected text or null, which stands for no text. Any other value is refused as if a text had
been wanted. -/
def nullableOfValue : Json → Except Mismatch (Option String)
  | .null => .ok none
  | value => do
    let s ← textOfValue value
    .ok (some s)

/-- A collected list of texts. The first element that is no text is the one that is refused. -/
def textsOfValue : Json → Except Mismatch (List String)
  | .list items => items.mapM textOfValue
  | value => refuseValue .list value

/-- The name of the member that tells the kind. It comes once in a node, anywhere between the other
members. -/
def kindField : String := "type"

/-- Splits collected members into the kind and all others, which stay in their order. The kind found
so far is handed along, for a second one is an error at the place where it stands. -/
def splitKind : Option KindTag → List (String × Json) →
    Except Mismatch (KindTag × List (String × Json))
  | none, [] => .error (.missingField kindField)
  | some tag, [] => .ok (tag, [])
  | tag, (key, value) :: rest => do
    if key = kindField then
      if tag.isSome then .error (.duplicateField kindField)
      else
        let found ← KindTag.ofValue value
        splitKind (some found) rest
    else
      let (found, others) ← splitKind tag rest
      .ok (found, (key, value) :: others)

/-- The fields of a task that have been read. A field that was null counts as read, so that it may
not come again. -/
structure TaskDraft where
  taskType : Option (Option String)
  actions : Option (List String)

/-- The details of a task. What has not been read is absent: there is no type, and there are no
actions. -/
def TaskDraft.details (draft : TaskDraft) : TaskDetails :=
  ⟨draft.taskType.join, draft.actions.getD []⟩

/-- The details of a task from its members. A field that comes twice is an error, and members that
no task knows are passed over. -/
def taskDetails : TaskDraft → List (String × Json) → Except Mismatch TaskDetails
  | draft, [] => .ok draft.details
  | draft, (key, value) :: rest => do
    if key = "task_type" then
      if draft.taskType.isSome then .error (.duplicateField key)
      else
        let taskType ← nullableOfValue value
        taskDetails { draft with taskType := some taskType } rest
    else if key = "actions" then
      if draft.actions.isSome then .error (.duplicateField key)
      else
        let actions ← textsOfValue value
        taskDetails { draft with actions := some actions } rest
    else taskDetails draft rest

/-- A kind from its tag and the other members, which only a task looks at. Another node may have
members of any name and shape. -/
def NodeKind.ofMembers (tag : KindTag) (members : List (String × Json)) :
    Except Mismatch NodeKind :=
  match tag with
  | .startEvent => .ok .startEvent
  | .gateway => .ok .gateway
  | .endEvent => .ok .endEvent
  | .task => do
    let details ← taskDetails ⟨none, none⟩ members
    .ok (.task details)

/-- A kind from all collected members of a node: first the tag is found among them, and then the
others are looked at by it. -/
def NodeKind.ofCollected (members : List (String × Json)) : Except Mismatch NodeKind := do
  let (tag, others) ← splitKind none members
  NodeKind.ofMembers tag others

/-- The details of a task from the list of its fields. Fields at the end may be missing, and an
element too many is an error only after the two fields have been read. -/
def listedDetails : List Json → Except Mismatch TaskDetails
  | [] => .ok ⟨none, []⟩
  | [taskType] => do
    let taskType ← nullableOfValue taskType
    .ok ⟨taskType, []⟩
  | taskType :: actions :: surplus => do
    let taskType ← nullableOfValue taskType
    let actions ← textsOfValue actions
    if surplus.isEmpty then .ok ⟨taskType, actions⟩
    else .error (.tooLong (surplus.length + 2) 2)

/-- A kind from its tag and the list of its fields. A kind without fields has an empty list behind
its tag. -/
def NodeKind.ofListed (tag : KindTag) (items : List Json) : Except Mismatch NodeKind :=
  let plain (kind : NodeKind) : Except Mismatch NodeKind :=
    if items.isEmpty then .ok kind else .error (.tooLong items.length 0)
  match tag with
  | .startEvent => plain .startEvent
  | .gateway => plain .gateway
  | .endEvent => plain .endEvent
  | .task => do
    let details ← listedDetails items
    .ok (.task details)

end CaseRouting
