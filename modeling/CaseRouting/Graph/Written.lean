import CaseRouting.Definition.Written
import CaseRouting.Graph.Basic

/-!
# Nodes and flows of a graph as JSON

Unlike a definition, a graph leaves out nothing but an absent type of task: absent names and
conditions are null, and empty lists and false flags are written.
-/

namespace CaseRouting

/-- The details of a task as members. Only an absent type is left out; the actions are written even
if there are none. -/
def TaskDetails.members (details : TaskDetails) : List (String × Json) :=
  optionalMember "task_type" details.taskType ++ [("actions", Json.texts details.actions)]

/-- The details of a task, as an object of their own. -/
def TaskDetails.toJson (details : TaskDetails) : Json := .object details.members

/-- The members that tell the kind of a node: the name of the kind, and behind it the details of a
task. -/
def NodeKind.members (kind : NodeKind) : List (String × Json) :=
  ("type", .text kind.name) ::
    match kind with
    | .task details => details.members
    | _ => []

/-- A kind by itself, as an object with the members that a node of a graph would have for it. -/
def NodeKind.toJson (kind : NodeKind) : Json := .object kind.members

/-- A node. Its id and its flows come first, and the members that tell its kind stand behind them in
the same object. -/
def Node.toJson (node : Node) : Json :=
  .object ([("id", .text node.id), ("name", Json.optionalText node.name),
    ("incoming", Json.texts node.incoming), ("outgoing", Json.texts node.outgoing)] ++
    node.kind.members)

/-- A node, or null when there is none, which is how the answer of a navigation is printed. -/
def Node.optionalJson : Option Node → Json
  | none => .null
  | some node => node.toJson

/-- A flow, with all its fields; that it is no default is written, and so is that it has no
condition. -/
def SequenceFlow.toJson (flow : SequenceFlow) : Json :=
  .object [("id", .text flow.id), ("source", .text flow.source), ("target", .text flow.target),
    ("is_default", .boolean flow.isDefault), ("condition", Json.optionalText flow.condition)]

end CaseRouting
