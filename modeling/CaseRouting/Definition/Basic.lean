/-!
# Process definitions

A process definition lists the nodes of a process and the sequence flows between them, as a process
designer writes them. Nothing is checked here: ids may repeat and flows may name nodes that do not
exist. The small functions build definitions step by step.
-/

namespace CaseRouting

/-- What a task says about itself; routing never looks at it, but it is kept through reading,
building and writing. -/
structure TaskDetails where
  /-- The platform's name for the type of task. -/
  taskType : Option String
  /-- The actions permitted while the task is active. -/
  actions : List String
  deriving DecidableEq, Repr

/-- The kinds of node. Only a task holds anything besides its kind, and only gateways are passed
over by a navigation. -/
inductive NodeKind where
  /-- Where a process begins. -/
  | startEvent
  /-- A step that somebody performs. -/
  | task (details : TaskDetails)
  /-- An exclusive decision. -/
  | gateway
  /-- Where a process ends. -/
  | endEvent
  deriving DecidableEq, Repr

/-- The name of a kind, by which definitions and answers call it in every format. -/
def NodeKind.name : NodeKind → String
  | .startEvent => "start_event"
  | .task _ => "task"
  | .gateway => "gateway"
  | .endEvent => "end_event"

/-- A node of a definition. It says nothing about its flows, which stand in a list of their own. -/
structure NodeDefinition where
  id : String
  /-- The name shown to people. -/
  name : Option String
  kind : NodeKind
  deriving DecidableEq, Repr

/-- A sequence flow of a definition, directed from its source to its target, both of which it names
by their ids. -/
structure FlowDefinition where
  id : String
  source : String
  target : String
  /-- The flow taken when a gateway cannot decide otherwise. -/
  isDefault : Bool
  /-- A label for gateway filters. -/
  condition : Option String
  deriving DecidableEq, Repr

/-- A process as its designer writes it, which may be no graph at all. The order of the two lists is
kept by whatever is made of them. -/
structure ProcessDefinition where
  processId : String
  name : Option String
  nodes : List NodeDefinition
  flows : List FlowDefinition
  deriving DecidableEq, Repr

namespace NodeDefinition

/-- A start event without a name; the functions below may give it one afterwards, as they may every
node. -/
def startEvent (id : String) : NodeDefinition := ⟨id, none, .startEvent⟩

/-- An end event without a name. -/
def endEvent (id : String) : NodeDefinition := ⟨id, none, .endEvent⟩

/-- A gateway without a name. -/
def gateway (id : String) : NodeDefinition := ⟨id, none, .gateway⟩

/-- A task of the given type, without a name and without actions. The type is always given here,
although a definition may leave it out. -/
def task (id taskType : String) : NodeDefinition := ⟨id, none, .task ⟨some taskType, []⟩⟩

/-- Gives the node a name; the last name counts. -/
def named (node : NodeDefinition) (name : String) : NodeDefinition :=
  { node with name := some name }

/-- Adds permitted actions to a task behind those that it has; other nodes have none and stay as
they are. -/
def withActions (node : NodeDefinition) (actions : List String) : NodeDefinition :=
  match node.kind with
  | .task details =>
    { node with kind := .task { details with actions := details.actions ++ actions } }
  | _ => node

end NodeDefinition

namespace FlowDefinition

/-- A flow that is no default and has no condition, from one node to another. -/
def between (id source target : String) : FlowDefinition := ⟨id, source, target, false, none⟩

/-- Marks the flow as the default of its source. Whether the source has another one is not looked at
here. -/
def asDefault (flow : FlowDefinition) : FlowDefinition := { flow with isDefault := true }

/-- Gives the flow a condition; the last one counts. -/
def withCondition (flow : FlowDefinition) (condition : String) : FlowDefinition :=
  { flow with condition := some condition }

end FlowDefinition

end CaseRouting
