import CaseRouting.Definition.Basic
import CaseRouting.Text.Quoted

/-!
# Process graphs

A graph keeps the nodes and the sequence flows of a process in two tables, in which they are looked
up by their ids. The order of the definition is kept apart from the tables, as two lists of ids, and
a node holds the ids of the flows that enter and leave it. Some look-ups report an id that has no
entry. Others take it for granted that an id has one, and the program breaks off where it has none;
this is an outcome of its own. Graphs are assembled and checked in other modules.
-/

namespace CaseRouting

/-- A point of the process, with the flows at it. The two lists say the same as the ends of the
flows, but from the side of the node. -/
structure Node where
  id : String
  name : Option String
  /-- Ids of the flows that enter the node, in definition order. -/
  incoming : List String
  /-- Ids of the flows that leave the node, in definition order. -/
  outgoing : List String
  kind : NodeKind
  deriving DecidableEq, Repr

/-- A directed edge between two nodes, which it names by their ids. It is what filters are offered
and give back. -/
structure SequenceFlow where
  id : String
  source : String
  target : String
  /-- The flow taken when its source cannot decide otherwise. -/
  isDefault : Bool
  /-- A label that gateway filters may interpret. -/
  condition : Option String
  deriving DecidableEq, Repr

/-- The nodes and flows of a process. An entry of a table stands under the id that it has itself, as
it does from the moment it is entered. Nothing in this type makes the four collections agree. -/
structure ProcessGraph where
  processId : String
  name : Option String
  /-- The table of the nodes, in which they are looked up. -/
  nodeTable : List Node
  /-- The ids of the nodes, in definition order. -/
  nodeOrder : List String
  /-- The table of the flows, in which they are looked up. -/
  flowTable : List SequenceFlow
  /-- The ids of the flows, in definition order. -/
  flowOrder : List String
  deriving DecidableEq, Repr

/-- Why a definition is no graph, or a look-up in a graph fails. Each error names the ids that are
at fault. -/
inductive GraphError where
  | nodeNotFound (id : String)
  | flowNotFound (id : String)
  | duplicateNode (nodeId : String)
  | duplicateFlow (flowId : String)
  /-- A flow starts or ends at a node that does not exist. -/
  | danglingFlow (flowId nodeId : String)
  /-- All default flows of a node that has several. -/
  | multipleDefaults (nodeId : String) (flowIds : List String)
  deriving DecidableEq, Repr

/-- The message of an error, as the report of a refused definition quotes it. -/
def GraphError.message : GraphError → String
  | .nodeNotFound id => "node not found: " ++ id
  | .flowNotFound id => "sequence flow not found: " ++ id
  | .duplicateNode nodeId => "duplicate node id: " ++ nodeId
  | .duplicateFlow flowId => "duplicate sequence flow id: " ++ flowId
  | .danglingFlow flowId nodeId =>
    "sequence flow '" ++ flowId ++ "' references unknown node '" ++ nodeId ++ "'"
  | .multipleDefaults nodeId flowIds =>
    "node '" ++ nodeId ++ "' has more than one default flow: " ++ Text.quotedList flowIds

/-- A key for which a table has no entry although the program indexes the table with it. The program
breaks off there with a panic, which is neither an answer nor one of its errors. -/
structure MissingKey where
  key : String
  deriving DecidableEq, Repr

/-- What the program finds by indexing its tables, unless it breaks off at a missing key. Where no
key can be missing there is a theorem that says so. -/
abbrev Indexed (α : Type) : Type := Except MissingKey α

namespace Node

/-- Whether the node is a start event. A process may have several of them, or none. -/
def isStartEvent (node : Node) : Bool := node.kind matches .startEvent

/-- Whether the node is a task. -/
def isTask (node : Node) : Bool := node.kind matches .task _

/-- Whether the node is a gateway, and so is passed over by a navigation that comes to it. -/
def isGateway (node : Node) : Bool := node.kind matches .gateway

/-- Whether the node is an end event. Flows that leave it are not forbidden. -/
def isEndEvent (node : Node) : Bool := node.kind matches .endEvent

/-- The details of a task, which every task has, be it with nothing in them; none for other
kinds. -/
def taskDetails? (node : Node) : Option TaskDetails :=
  match node.kind with
  | .task details => some details
  | _ => none

end Node

namespace ProcessGraph

/-- The node with the given id, as the look-up tells it that may find none. -/
def node? (graph : ProcessGraph) (id : String) : Option Node :=
  graph.nodeTable.find? fun node => node.id = id

/-- The flow with the given id, as the look-up tells it that may find none. -/
def flow? (graph : ProcessGraph) (id : String) : Option SequenceFlow :=
  graph.flowTable.find? fun flow => flow.id = id

/-- The node with the given id, or the error that there is none, which names the id. -/
def node (graph : ProcessGraph) (id : String) : Except GraphError Node :=
  match graph.node? id with
  | some node => .ok node
  | none => .error (.nodeNotFound id)

/-- The flow with the given id, or the error that there is none, which names the id. -/
def flow (graph : ProcessGraph) (id : String) : Except GraphError SequenceFlow :=
  match graph.flow? id with
  | some flow => .ok flow
  | none => .error (.flowNotFound id)

/-- The node that a flow leads to, or the error that there is none. The flow need not be one of the
graph. -/
def targetNode (graph : ProcessGraph) (flow : SequenceFlow) : Except GraphError Node :=
  graph.node flow.target

/-- Looking a node up with an error for a missing one succeeds as the search does. -/
theorem node_eq_ok_iff {graph : ProcessGraph} {id : String} {node : Node} :
    graph.node id = .ok node ↔ graph.node? id = some node := by
  unfold ProcessGraph.node
  cases graph.node? id <;> simp

/-- Looking a node up fails exactly when there is none, and names the id. -/
theorem node_eq_error_iff {graph : ProcessGraph} {id : String} {error : GraphError} :
    graph.node id = .error error ↔ graph.node? id = none ∧ error = .nodeNotFound id := by
  unfold ProcessGraph.node
  cases graph.node? id <;> simp [eq_comm]

/-- Looking a flow up with an error for a missing one succeeds as the search does. -/
theorem flow_eq_ok_iff {graph : ProcessGraph} {id : String} {flow : SequenceFlow} :
    graph.flow id = .ok flow ↔ graph.flow? id = some flow := by
  unfold ProcessGraph.flow
  cases graph.flow? id <;> simp

/-- Looking a flow up fails exactly when there is none, and names the id. -/
theorem flow_eq_error_iff {graph : ProcessGraph} {id : String} {error : GraphError} :
    graph.flow id = .error error ↔ graph.flow? id = none ∧ error = .flowNotFound id := by
  unfold ProcessGraph.flow
  cases graph.flow? id <;> simp [eq_comm]

/-- The target of a flow is the node that is found by the id which the flow names, and by nothing
else of the flow. -/
theorem targetNode_eq_ok_iff {graph : ProcessGraph} {flow : SequenceFlow} {node : Node} :
    graph.targetNode flow = .ok node ↔ graph.node? flow.target = some node :=
  node_eq_ok_iff

/-- The node at which the table of nodes is indexed with an id. In contrast to a look-up, a miss is
not for the caller to deal with. -/
def indexNode (graph : ProcessGraph) (id : String) : Indexed Node :=
  match graph.node? id with
  | some node => .ok node
  | none => .error ⟨id⟩

/-- The flow at which the table of flows is indexed with an id, where a miss breaks the program off
as well. -/
def indexFlow (graph : ProcessGraph) (id : String) : Indexed SequenceFlow :=
  match graph.flow? id with
  | some flow => .ok flow
  | none => .error ⟨id⟩

/-- The nodes at which the table is indexed with the ids of the nodes, in definition order. The
program breaks off at the first miss. -/
def nodes? (graph : ProcessGraph) : Indexed (List Node) := graph.nodeOrder.mapM graph.indexNode

/-- The flows at which the table is indexed with the ids of the flows, in definition order. The
program breaks off at the first miss. -/
def flows? (graph : ProcessGraph) : Indexed (List SequenceFlow) :=
  graph.flowOrder.mapM graph.indexFlow

/-- The nodes, in definition order; an empty list stands where the program would break off at a
missing key, which it does in no graph of a definition. -/
def nodes (graph : ProcessGraph) : List Node :=
  match graph.nodes? with
  | .ok nodes => nodes
  | .error _ => []

/-- The flows, in definition order; an empty list stands where the program would break off at a
missing key, which it does in no graph of a definition. -/
def flows (graph : ProcessGraph) : List SequenceFlow :=
  match graph.flows? with
  | .ok flows => flows
  | .error _ => []

/-- The flows with the given ids, as far as they exist. Here an id that is missing is passed over in
silence. -/
def resolveFlows (graph : ProcessGraph) (ids : List String) : List SequenceFlow :=
  ids.filterMap graph.flow?

/-- The flows that leave a node, in definition order; none for an unknown id. -/
def outgoingFlows (graph : ProcessGraph) (id : String) : List SequenceFlow :=
  match graph.node? id with
  | some node => graph.resolveFlows node.outgoing
  | none => []

/-- The flows that enter a node, in definition order; none for an unknown id. -/
def incomingFlows (graph : ProcessGraph) (id : String) : List SequenceFlow :=
  match graph.node? id with
  | some node => graph.resolveFlows node.incoming
  | none => []

/-- The first flow leaving a node that is marked as default. That there is no other is a matter of
building the graph. -/
def defaultFlow? (graph : ProcessGraph) (id : String) : Option SequenceFlow :=
  (graph.outgoingFlows id).find? fun flow => flow.isDefault

/-- The ids of the nodes with a property, in definition order and each once. -/
def idsWhere (graph : ProcessGraph) (property : Node → Bool) : List String :=
  (graph.nodes.filter property).map Node.id

/-- The ids of the start events, from which a case may begin. -/
def startEventIds (graph : ProcessGraph) : List String := graph.idsWhere Node.isStartEvent

/-- The ids of the tasks, at which a case may rest. -/
def taskIds (graph : ProcessGraph) : List String := graph.idsWhere Node.isTask

/-- The ids of the gateways, for which filters may be registered. -/
def gatewayIds (graph : ProcessGraph) : List String := graph.idsWhere Node.isGateway

/-- The ids of the end events, at which a case is over. -/
def endEventIds (graph : ProcessGraph) : List String := graph.idsWhere Node.isEndEvent

/-- Whether the id is that of a node with the property; an id that no node has is answered with
no. -/
def nodeHas (graph : ProcessGraph) (property : Node → Bool) (id : String) : Bool :=
  (graph.node? id).any property

/-- Whether the id is that of a start event of the graph. -/
def isStartEvent (graph : ProcessGraph) (id : String) : Bool := graph.nodeHas Node.isStartEvent id

/-- Whether the id is that of a task of the graph. -/
def isTask (graph : ProcessGraph) (id : String) : Bool := graph.nodeHas Node.isTask id

/-- Whether the id is that of a gateway of the graph. -/
def isGateway (graph : ProcessGraph) (id : String) : Bool := graph.nodeHas Node.isGateway id

/-- Whether the id is that of an end event of the graph. -/
def isEndEvent (graph : ProcessGraph) (id : String) : Bool := graph.nodeHas Node.isEndEvent id

/-- The details of the task with the given id; none for other kinds and unknown ids. -/
def taskDetails? (graph : ProcessGraph) (id : String) : Option TaskDetails :=
  (graph.node? id).bind Node.taskDetails?

end ProcessGraph

end CaseRouting
