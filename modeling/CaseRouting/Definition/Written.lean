import CaseRouting.Definition.Basic
import CaseRouting.Json.Written

/-!
# Definitions as JSON

A definition is written as an object with its fields in the order of their declaration. What is
absent, empty or false is left out, except the list of flows.
-/

namespace CaseRouting

/-- A member for a text, left out when there is none, so that an absent text is never written as
null. -/
def optionalMember (key : String) : Option String → List (String × Json)
  | none => []
  | some s => [(key, .text s)]

namespace NodeKind

/-- The members that tell the kind of a node in a definition: its type, and for a task those details
that it has. -/
def definitionMembers (kind : NodeKind) : List (String × Json) :=
  ("type", .text kind.name) ::
    match kind with
    | .task details =>
      optionalMember "task_type" details.taskType ++
        if details.actions.isEmpty then [] else [("actions", Json.texts details.actions)]
    | _ => []

/-- A kind by itself, as a definition writes it: an object with the members that a node would have
for it. -/
def toDefinitionJson (kind : NodeKind) : Json := .object kind.definitionMembers

end NodeKind

/-- A node of a definition. The members of its kind stand among its own, behind the id and the
name. -/
def NodeDefinition.toJson (node : NodeDefinition) : Json :=
  .object (("id", .text node.id) :: optionalMember "name" node.name ++ node.kind.definitionMembers)

/-- A flow of a definition. A flow that is no default does not say so, and one without a condition
has no such member. -/
def FlowDefinition.toJson (flow : FlowDefinition) : Json :=
  .object ([("id", .text flow.id), ("source", .text flow.source), ("target", .text flow.target)] ++
    (if flow.isDefault then [("is_default", .boolean true)] else []) ++
    optionalMember "condition" flow.condition)

/-- A definition. The two lists are written even if they are empty, in the order that they have. -/
def ProcessDefinition.toJson (definition : ProcessDefinition) : Json :=
  .object (("process_id", .text definition.processId) ::
    optionalMember "name" definition.name ++
    [("nodes", .list (definition.nodes.map NodeDefinition.toJson)),
     ("flows", .list (definition.flows.map FlowDefinition.toJson))])

/-- The compact JSON text of a definition, on a single line and without blanks outside its texts. -/
def ProcessDefinition.toText (definition : ProcessDefinition) : String := definition.toJson.compact

end CaseRouting
