import CaseRouting.Definition.Read
import CaseRouting.Graph.Basic

/-!
# Nodes and flows of a graph from JSON

These readers take what a graph writes. In contrast to a definition, the flow ids of a node and the
default mark of a flow are required; an absent name or condition may be null or left out.
-/

namespace CaseRouting

open Json

/-- Sequence flows: everything but the condition is required, and a list must be complete. -/
def SequenceFlow.record : Record FlowDraft SequenceFlow where
  name := "SequenceFlow"
  fields := FlowDraft.fields false
  blank := .blank
  finish draft := do
    let id ← required "id" draft.id
    let source ← required "source" draft.source
    let target ← required "target" draft.target
    let isDefault ← required "is_default" draft.isDefault
    .ok ⟨id, source, target, isDefault, draft.condition.join⟩

/-- The type of a task, a text or null. It may be left out, for a graph leaves an absent type
out. -/
def TaskDraft.taskTypeField : RecordField TaskDraft :=
  .of "task_type" TaskDraft.taskType
    (fun taskType draft => { draft with taskType := some taskType })
    (fun _ => readNullableText) true

/-- The actions of a task. They may be left out, although a graph writes even an empty list. -/
def TaskDraft.actionsField : RecordField TaskDraft :=
  .of "actions" TaskDraft.actions (fun actions draft => { draft with actions := some actions })
    readTexts true

/-- The details of a task: nothing is required, so that they can be read where they stand alone. -/
def TaskDetails.record : Record TaskDraft TaskDetails where
  name := "TaskExtension"
  fields := [TaskDraft.taskTypeField, TaskDraft.actionsField]
  blank := ⟨none, none⟩
  finish draft := .ok draft.details

/-- The members of a node that have been read. In contrast to a node of a definition it has the ids
of its flows. -/
structure NodeDraft where
  id : Option String
  name : Option (Option String)
  incoming : Option (List String)
  outgoing : Option (List String)
  /-- The other members, in the order of the text. -/
  collected : List (String × Json)

namespace NodeDraft

/-- The id of a node, a text that must be there and may not come twice. -/
def idField : RecordField NodeDraft :=
  .of "id" NodeDraft.id (fun id draft => { draft with id := some id })
    (fun _ => readText .text) false

/-- The name of a node, a text or null; a node that leaves it out has none. -/
def nameField : RecordField NodeDraft :=
  .of "name" NodeDraft.name (fun name draft => { draft with name := some name })
    (fun _ => readNullableText) false

/-- The ids of the flows that enter a node. They must be there, if only as an empty list. -/
def incomingField : RecordField NodeDraft :=
  .of "incoming" NodeDraft.incoming
    (fun incoming draft => { draft with incoming := some incoming }) readTexts false

/-- The ids of the flows that leave a node, required as those of the flows that enter it. -/
def outgoingField : RecordField NodeDraft :=
  .of "outgoing" NodeDraft.outgoing
    (fun outgoing draft => { draft with outgoing := some outgoing }) readTexts false

/-- Collects a member of a node that is none of its fields. Those of them that belong to its kind
are found out when the node ends. -/
def collect (depth : Nat) (key : String) (draft : NodeDraft) : Reader NodeDraft := fun cs => do
  let (collected, cs) ← collectMember depth key draft.collected cs
  .ok ({ draft with collected := collected }, cs)

/-- Reads a member of a node behind its key: one of its four fields, or else a member to be
collected. -/
def member (depth : Nat) : String → NodeDraft → Reader NodeDraft :=
  fieldMember [idField, nameField, incomingField, outgoingField] (collect depth) depth

/-- The node, once all members have been read. Its fields are asked for in the order of their
declaration, and its kind at the end. -/
def finish (draft : NodeDraft) : Except Mismatch Node := do
  let id ← required "id" draft.id
  let incoming ← required "incoming" draft.incoming
  let outgoing ← required "outgoing" draft.outgoing
  let kind ← NodeKind.ofCollected draft.collected
  .ok ⟨id, draft.name.join, incoming, outgoing, kind⟩

end NodeDraft

/-- Reads a node, in the form in which an answer holds it, with the members that tell its kind among
its fields. -/
def Node.read : Nat → Reader Node :=
  readCollecting "Node" NodeDraft.member ⟨none, none, none, none, []⟩ NodeDraft.finish

/-- Reads a node, or null when there is none, as the answer of a navigation may have it. -/
def Node.readOptional (depth : Nat) : Reader (Option Node) := readNullable (Node.read depth)

end CaseRouting
