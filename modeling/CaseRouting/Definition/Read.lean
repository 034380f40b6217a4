import CaseRouting.Definition.Kind
import CaseRouting.Json.Record
import CaseRouting.Json.Tree

/-!
# Definitions from JSON

The records of a definition and the reader of its nodes. The members of a node other than its own
fields are collected in the order of the text and tell the kind when the node ends. A kind may also
stand by itself, as an object or as a list with the tag in front; its tag is then read as soon as
it comes and must be a name.
-/

namespace CaseRouting

open Json

/-- The fields of a flow definition that have been read. A condition that was null has been read and
stands for none. -/
structure FlowDraft where
  id : Option String
  source : Option String
  target : Option String
  isDefault : Option Bool
  condition : Option (Option String)

namespace FlowDraft

/-- Nothing has been read: every field is still open, whether it is required or not. -/
def blank : FlowDraft := ⟨none, none, none, none, none⟩

/-- The id of a flow, a text that must be there. In a list it is the first element. -/
def idField : RecordField FlowDraft :=
  .of "id" FlowDraft.id (fun id draft => { draft with id := some id })
    (fun _ => readText .text) false

/-- The node a flow starts at, by its id. It must be there, but that such a node exists is not
looked at. -/
def sourceField : RecordField FlowDraft :=
  .of "source" FlowDraft.source (fun source draft => { draft with source := some source })
    (fun _ => readText .text) false

/-- The node a flow leads to, by its id. It must be there, as the node the flow starts at must. -/
def targetField : RecordField FlowDraft :=
  .of "target" FlowDraft.target (fun target draft => { draft with target := some target })
    (fun _ => readText .text) false

/-- Whether a flow is the default of its source. A definition may leave this out, in a list by
ending before it; a graph must hold it. -/
def isDefaultField (mayEndBefore : Bool) : RecordField FlowDraft :=
  .of "is_default" FlowDraft.isDefault
    (fun isDefault draft => { draft with isDefault := some isDefault })
    (fun _ => readBoolean) mayEndBefore

/-- The condition of a flow, which may be null. As a member it may be left out, and in a list only
where the list may end before it. -/
def conditionField (mayEndBefore : Bool) : RecordField FlowDraft :=
  .of "condition" FlowDraft.condition
    (fun condition draft => { draft with condition := some condition })
    (fun _ => readNullableText) mayEndBefore

/-- All fields of a flow, in the order of a list; the last two have a default in a definition and
none in a graph. -/
def fields (haveDefaults : Bool) : List (RecordField FlowDraft) :=
  [idField, sourceField, targetField, isDefaultField haveDefaults, conditionField haveDefaults]

end FlowDraft

/-- Flow definitions: only the ends are required, besides the id. A flow that does not say so is no
default. -/
def FlowDefinition.record : Record FlowDraft FlowDefinition where
  name := "FlowDef"
  fields := FlowDraft.fields true
  blank := .blank
  finish draft := do
    let id ← required "id" draft.id
    let source ← required "source" draft.source
    let target ← required "target" draft.target
    .ok ⟨id, source, target, draft.isDefault.getD false, draft.condition.join⟩

/-- Collects a member of any shape behind the members collected before. It is read to its end, and
whether anything looks at it later is open. -/
def collectMember (depth : Nat) (key : String) (collected : List (String × Json)) :
    Reader (List (String × Json)) := fun cs => do
  let cs ← colon cs
  let (value, cs) ← readTree depth cs
  .ok (collected ++ [(key, value)], cs)

/-- The members of a node definition that have been read: its own fields, and the members that may
tell its kind. -/
structure NodeDefinitionDraft where
  id : Option String
  name : Option (Option String)
  /-- The other members, in the order of the text. -/
  collected : List (String × Json)

namespace NodeDefinitionDraft

/-- The id of a node, a text that must be there and may not come twice. -/
def idField : RecordField NodeDefinitionDraft :=
  .of "id" NodeDefinitionDraft.id (fun id draft => { draft with id := some id })
    (fun _ => readText .text) false

/-- The name of a node, a text or null, which both count as read. It may be left out. -/
def nameField : RecordField NodeDefinitionDraft :=
  .of "name" NodeDefinitionDraft.name (fun name draft => { draft with name := some name })
    (fun _ => readNullableText) false

/-- Collects a member of a node definition that is none of its fields. The same key may be collected
several times, and it is a later matter whether it may. -/
def collect (depth : Nat) (key : String) (draft : NodeDefinitionDraft) :
    Reader NodeDefinitionDraft := fun cs => do
  let (collected, cs) ← collectMember depth key draft.collected cs
  .ok ({ draft with collected := collected }, cs)

/-- Reads a member of a node definition behind its key: one of the two fields, or else a member to
be collected. -/
def member (depth : Nat) : String → NodeDefinitionDraft → Reader NodeDefinitionDraft :=
  fieldMember [idField, nameField] (collect depth) depth

/-- The node definition, once all members have been read. The id is asked for before the kind is, so
that a node without either lacks its id. -/
def finish (draft : NodeDefinitionDraft) : Except Mismatch NodeDefinition := do
  let id ← required "id" draft.id
  let kind ← NodeKind.ofCollected draft.collected
  .ok ⟨id, draft.name.join, kind⟩

end NodeDefinitionDraft

/-- Reads an object with collected members. It cannot be written as a list, for there is no order in
which unknown members would come. -/
def readCollecting {δ α : Type} (name : String) (member : Nat → String → δ → Reader δ) (blank : δ)
    (finish : δ → Except Mismatch α) (depth : Nat) : Reader α := fun cs =>
  match skipSpace cs with
  | '\x7b' :: rest =>
    match depth with
    | 0 => .error .malformed
    | depth + 1 => objectBody (member depth) blank finish rest
  | cs => refuse (.record name) cs

/-- Reads a node definition, with the members that tell its kind beside its id and its name. -/
def NodeDefinition.read : Nat → Reader NodeDefinition :=
  readCollecting "NodeDef" NodeDefinitionDraft.member ⟨none, none, []⟩ NodeDefinitionDraft.finish

/-- The fields of a process definition that have been read, with the lists of nodes and flows as a
whole. -/
structure ProcessDraft where
  processId : Option String
  name : Option (Option String)
  nodes : Option (List NodeDefinition)
  flows : Option (List FlowDefinition)

namespace ProcessDraft

/-- The id of a process, the first element of a definition that is written as a list. -/
def processIdField : RecordField ProcessDraft :=
  .of "process_id" ProcessDraft.processId
    (fun processId draft => { draft with processId := some processId })
    (fun _ => readText .text) false

/-- The name of a process, a text or null. A list may end before it, but then the nodes are
missing. -/
def nameField : RecordField ProcessDraft :=
  .of "name" ProcessDraft.name (fun name draft => { draft with name := some name })
    (fun _ => readNullableText) true

/-- The nodes of a process, which must be there even if there are none. -/
def nodesField : RecordField ProcessDraft :=
  .of "nodes" ProcessDraft.nodes (fun nodes draft => { draft with nodes := some nodes })
    (readList NodeDefinition.read) false

/-- The flows of a process, which may be left out if there are none. -/
def flowsField : RecordField ProcessDraft :=
  .of "flows" ProcessDraft.flows (fun flows draft => { draft with flows := some flows })
    (readList FlowDefinition.record.read) true

end ProcessDraft

/-- Process definitions: the id and the nodes are required. A definition is read whole before
anything is checked across its nodes and flows. -/
def ProcessDefinition.record : Record ProcessDraft ProcessDefinition where
  name := "ProcessDef"
  fields := [ProcessDraft.processIdField, ProcessDraft.nameField, ProcessDraft.nodesField,
    ProcessDraft.flowsField]
  blank := ⟨none, none, none, none⟩
  finish draft := do
    let processId ← required "process_id" draft.processId
    let nodes ← required "nodes" draft.nodes
    .ok ⟨processId, draft.name.join, nodes, draft.flows.getD []⟩

/-- The definition that a JSON text holds. Nothing but white space may stand around it. -/
def ProcessDefinition.ofJsonText (text : String) : Except Error ProcessDefinition :=
  readWhole (ProcessDefinition.record.read maxDepth) text

/-- The members of a kind that stands by itself, as they are read: the tag as soon as it comes, and
the others as they are. -/
structure KindDraft where
  tag : Option KindTag
  /-- The other members, in the order of the text. -/
  collected : List (String × Json)

/-- Reads the name of a kind. An index is refused here, where the kind is read directly and not from
a collected value. -/
def KindTag.read : Reader KindTag := fun cs => do
  let (name, cs) ← readText .kindName cs
  let tag ← finished (KindTag.ofName name)
  .ok (tag, cs)

/-- Reads a member of a kind behind its key. A second tag is refused at its key, before its value is
read. -/
def KindDraft.member (depth : Nat) (key : String) (draft : KindDraft) : Reader KindDraft :=
  fun cs =>
    if key = kindField then
      if draft.tag.isSome then .error (.mismatch (.duplicateField kindField))
      else do
        let cs ← colon cs
        let (tag, cs) ← KindTag.read cs
        .ok ({ draft with tag := some tag }, cs)
    else do
      let (collected, cs) ← collectMember depth key draft.collected cs
      .ok ({ draft with collected := collected }, cs)

/-- Reads a kind that stands by itself; `name` is what messages call it. The task's own fields are
looked at when the closing bracket has been read. -/
def NodeKind.read (name : String) (depth : Nat) : Reader NodeKind := fun cs =>
  match skipSpace cs with
  | '[' :: rest =>
    match depth with
    | 0 => .error .malformed
    | depth + 1 => do
      match ← nextElement true rest with
      | none => .error (.mismatch (.missingField kindField))
      | some element =>
        let (tag, rest) ← KindTag.read element
        let (items, rest) ← elements (readTree depth) (rest.length + 1) false rest
        let rest ← closeList rest
        let kind ← finished (NodeKind.ofListed tag items)
        .ok (kind, rest)
  | '\x7b' :: rest =>
    match depth with
    | 0 => .error .malformed
    | depth + 1 => do
      let (tagged, rest) ← objectBody (KindDraft.member depth) ⟨none, []⟩
        (fun draft => do
          let tag ← required kindField draft.tag
          .ok (tag, draft.collected)) rest
      let kind ← finished (NodeKind.ofMembers tagged.1 tagged.2)
      .ok (kind, rest)
  | cs => refuse (.tagged name) cs

end CaseRouting
