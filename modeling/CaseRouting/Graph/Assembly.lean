import CaseRouting.Graph.Basic

/-!
# Assembling a graph

A graph is assembled from a definition in two passes. The nodes are taken in order, each with an id
of its own; then the flows are taken in order, each with an id of its own and with nodes at both
ends, and are entered into these nodes. In a third pass no node may have more than one default flow;
it indexes the tables with the ids that the graph holds. The first violation in this order is
reported.
-/

namespace CaseRouting

/-- A node before any flow has been entered: its lists of flows are empty. -/
def NodeDefinition.toNode (node : NodeDefinition) : Node := ⟨node.id, node.name, [], [], node.kind⟩

/-- A flow of the definition as a flow of the graph, which has the same five parts. -/
def FlowDefinition.toFlow (flow : FlowDefinition) : SequenceFlow :=
  ⟨flow.id, flow.source, flow.target, flow.isDefault, flow.condition⟩

namespace ProcessGraph

/-- A graph that has no nodes and no flows yet, but the id and the name of its process. -/
def empty (processId : String) (name : Option String) : ProcessGraph :=
  ⟨processId, name, [], [], [], []⟩

/-- Takes a node into a graph that has no flows yet: its id goes to the end of the order, and the
node into the table. -/
def addNode (graph : ProcessGraph) (node : NodeDefinition) : Except GraphError ProcessGraph :=
  if (graph.node? node.id).isSome then .error (.duplicateNode node.id)
  else .ok { graph with
    nodeTable := graph.nodeTable ++ [node.toNode]
    nodeOrder := graph.nodeOrder ++ [node.id] }

/-- Enters a flow into a node that is its source or its target. A flow from a node to itself is
entered twice, and other nodes stay as they are. -/
def enterFlow (flow : FlowDefinition) (node : Node) : Node :=
  { node with
    outgoing := if node.id = flow.source then node.outgoing ++ [flow.id] else node.outgoing
    incoming := if node.id = flow.target then node.incoming ++ [flow.id] else node.incoming }

/-- Takes a flow into a graph that has all nodes: it is entered into the nodes at both ends, its id
goes to the end of the order, and the flow into the table. -/
def addFlow (graph : ProcessGraph) (flow : FlowDefinition) : Except GraphError ProcessGraph :=
  if (graph.flow? flow.id).isSome then .error (.duplicateFlow flow.id)
  else if (graph.node? flow.source).isNone then .error (.danglingFlow flow.id flow.source)
  else if (graph.node? flow.target).isNone then .error (.danglingFlow flow.id flow.target)
  else .ok { graph with
    nodeTable := graph.nodeTable.map (enterFlow flow)
    flowTable := graph.flowTable ++ [flow.toFlow]
    flowOrder := graph.flowOrder ++ [flow.id] }

/-- The nodes and the flows of a definition taken into a graph, in which the default flows are still
to be checked. It stops at the first element that is refused. -/
def assemble (definition : ProcessDefinition) : Except GraphError ProcessGraph := do
  let withNodes ← definition.nodes.foldlM addNode (empty definition.processId definition.name)
  definition.flows.foldlM addFlow withNodes

/-- The given ids at which the table of flows has a default flow. The table is indexed, so that an
unknown id breaks the program off. -/
def markedIds (graph : ProcessGraph) : List String → Indexed (List String)
  | [] => .ok []
  | id :: rest => do
    let flow ← graph.indexFlow id
    let marked ← graph.markedIds rest
    .ok (if flow.isDefault then id :: marked else marked)

/-- The ids of the default flows that leave the node at which the table is indexed with an id, in
the order of the node. -/
def defaultIds (graph : ProcessGraph) (nodeId : String) : Indexed (List String) := do
  let node ← graph.indexNode nodeId
  graph.markedIds node.outgoing

/-- Refuses the first node, of those with the given ids, that has several default flows. It is an
answer to refuse a node, but none to break off. -/
def checkDefaults (graph : ProcessGraph) : List String → Indexed (Except GraphError Unit)
  | [] => .ok (.ok ())
  | nodeId :: rest => do
    let defaults ← graph.defaultIds nodeId
    if 1 < defaults.length then .ok (.error (.multipleDefaults nodeId defaults))
    else graph.checkDefaults rest

/-- The graph of a definition, or the error for which it is refused, unless the check of default
flows breaks off at a key that a table does not have. -/
def tryBuild (definition : ProcessDefinition) : Indexed (Except GraphError ProcessGraph) :=
  match assemble definition with
  | .error error => .ok (.error error)
  | .ok graph => do
    let checked ← graph.checkDefaults graph.nodeOrder
    .ok (checked.map fun _ => graph)

end ProcessGraph

end CaseRouting
