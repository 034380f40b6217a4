import CaseRouting.Graph.Build
import CaseRouting.Proofs.OrderedCheck
import CaseRouting.Proofs.Outcomes

/-!
# The graph that a definition describes

The image of a definition lists its nodes and flows in their order, each node with the ids of the
flows that name it as their target or as their source. Building a graph follows three checks in
order: that nodes have ids of their own, that flows have ids of their own and known ends, and that
no node has several default flows. A definition that passes them becomes its image, and any other
is refused with the first failure.
-/

namespace CaseRouting

open OrderedCheck

namespace ProcessGraph

variable {graph : ProcessGraph}

/-- Where the order of the nodes holds the distinct ids of their table, indexing the table with the
order finds the nodes of the table. -/
theorem nodes?_eq_table (horder : graph.nodeOrder = graph.nodeTable.map Node.id)
    (hids : graph.nodeOrder.Nodup) : graph.nodes? = .ok graph.nodeTable := by
  rw [horder] at hids
  rw [nodes?, horder]
  exact mapM_map_eq_ok fun node hnode => indexNode_eq_ok_iff.mpr (find?_key hids hnode)

/-- Where the order of the flows holds the distinct ids of their table, indexing the table with the
order finds the flows of the table. -/
theorem flows?_eq_table (horder : graph.flowOrder = graph.flowTable.map SequenceFlow.id)
    (hids : graph.flowOrder.Nodup) : graph.flows? = .ok graph.flowTable := by
  rw [horder] at hids
  rw [flows?, horder]
  exact mapM_map_eq_ok fun flow hflow => indexFlow_eq_ok_iff.mpr (find?_key hids hflow)

/-- The nodes of a linked graph are those of its table, so that its orders need not be looked at any
more. -/
theorem Linked.nodes_eq (h : graph.Linked) : graph.nodes = graph.nodeTable := by
  rw [nodes, nodes?_eq_table h.nodeOrder_eq h.nodeOrder_nodup]

/-- The flows of a linked graph are those of its table, as its nodes are. -/
theorem Linked.flows_eq (h : graph.Linked) : graph.flows = graph.flowTable := by
  rw [flows, flows?_eq_table h.flowOrder_eq h.flowOrder_nodup]

/-- Ids that are resolved to flows without a miss are marked if these flows are. Looking up with
silence on a miss and indexing give the same then. -/
theorem markedIds_eq {ids : List String}
    (h : ∀ id ∈ ids, ∃ flow, graph.indexFlow id = .ok flow) :
    graph.markedIds ids =
      .ok (((graph.resolveFlows ids).filter fun flow => flow.isDefault).map SequenceFlow.id) := by
  induction ids with
  | nil => rfl
  | cons id ids ih =>
    obtain ⟨⟨flow, hflow⟩, hids⟩ := List.forall_mem_cons.mp h
    have hfound := indexFlow_eq_ok_iff.mp hflow
    have hid : flow.id = id := by simpa using List.find?_some hfound
    have hresolved : graph.resolveFlows (id :: ids) = flow :: graph.resolveFlows ids :=
      List.filterMap_cons_some hfound
    rw [markedIds, hflow, ih hids, hresolved, List.filter_cons]
    by_cases hmarked : flow.isDefault = true
    · rw [if_pos hmarked, List.map_cons, hid]
      exact congrArg Except.ok (if_pos hmarked)
    · rw [if_neg hmarked]
      exact congrArg Except.ok (if_neg hmarked)

end ProcessGraph

namespace ProcessDefinition

/-- The ids of the nodes, in definition order. -/
def nodeIds (definition : ProcessDefinition) : List String :=
  definition.nodes.map NodeDefinition.id

/-- The ids of the flows, in definition order. -/
def flowIds (definition : ProcessDefinition) : List String :=
  definition.flows.map FlowDefinition.id

/-- The flows that leave a node, in definition order. They are told by their source, and the node
need not exist. -/
def flowsFrom (definition : ProcessDefinition) (id : String) : List FlowDefinition :=
  definition.flows.filter fun flow => flow.source = id

/-- The flows that enter a node, in definition order. They are told by their target, and the node
need not exist. -/
def flowsInto (definition : ProcessDefinition) (id : String) : List FlowDefinition :=
  definition.flows.filter fun flow => flow.target = id

/-- The flows that leave a node and are marked as default, in definition order; there may be several
in a definition. -/
def defaultsFrom (definition : ProcessDefinition) (id : String) : List FlowDefinition :=
  (definition.flowsFrom id).filter fun flow => flow.isDefault

/-- A node with all flows of the definition entered, as it stands in the graph in the end. -/
def imageNode (definition : ProcessDefinition) (node : NodeDefinition) : Node :=
  ⟨node.id, node.name, (definition.flowsInto node.id).map FlowDefinition.id,
    (definition.flowsFrom node.id).map FlowDefinition.id, node.kind⟩

/-- The graph that the definition describes: its tables and its orders list the nodes and the flows
as the definition does. It is there for every definition, also for one that is refused. -/
def image (definition : ProcessDefinition) : ProcessGraph :=
  ⟨definition.processId, definition.name, definition.nodes.map definition.imageNode,
    definition.nodeIds, definition.flows.map FlowDefinition.toFlow, definition.flowIds⟩

/-- What is wrong with a node behind other nodes: nothing, unless one of these has its id. -/
def nodeFailure (before : List NodeDefinition) (node : NodeDefinition) : Option GraphError :=
  if node.id ∈ before.map NodeDefinition.id then some (.duplicateNode node.id) else none

/-- What is wrong with a flow behind other flows, among nodes with the given ids. A repeated id
comes before an unknown source, and this before an unknown target. -/
def flowFailure (nodeIds : List String) (before : List FlowDefinition) (flow : FlowDefinition) :
    Option GraphError :=
  if flow.id ∈ before.map FlowDefinition.id then some (.duplicateFlow flow.id)
  else if flow.source ∉ nodeIds then some (.danglingFlow flow.id flow.source)
  else if flow.target ∉ nodeIds then some (.danglingFlow flow.id flow.target)
  else none

/-- What is wrong with the default flows of a node: there are several, and all of them are named. -/
def defaultFailure (definition : ProcessDefinition) (node : NodeDefinition) : Option GraphError :=
  if 1 < (definition.defaultsFrom node.id).length then
    some (.multipleDefaults node.id ((definition.defaultsFrom node.id).map FlowDefinition.id))
  else none

/-- The first failure of the nodes, else of the flows, else of the default flows, told from the
definition alone and without any graph. -/
def failure? (definition : ProcessDefinition) : Option GraphError :=
  match firstFailure nodeFailure [] definition.nodes with
  | some failure => some failure
  | none =>
    match firstFailure (flowFailure definition.nodeIds) [] definition.flows with
    | some failure => some failure
    | none => firstFailure (fun _ => definition.defaultFailure) [] definition.nodes

/-- A node is found in the image as it is found in the definition, for entering flows leaves its id
as it is. -/
theorem node?_image (definition : ProcessDefinition) (id : String) :
    definition.image.node? id =
      (definition.nodes.find? fun node => node.id = id).map definition.imageNode :=
  List.find?_map

/-- A flow is found in the image as it is found in the definition, with the same id. -/
theorem flow?_image (definition : ProcessDefinition) (id : String) :
    definition.image.flow? id =
      (definition.flows.find? fun flow => flow.id = id).map FlowDefinition.toFlow :=
  List.find?_map

/-- The image has no node with an id that the definition does not have, and has one for every id
that it does. -/
theorem node?_image_eq_none_iff {definition : ProcessDefinition} {id : String} :
    definition.image.node? id = none ↔ id ∉ definition.nodeIds := by
  rw [node?_image, Option.map_eq_none_iff]
  exact find?_key_eq_none_iff

/-- The image has no flow with an id that the definition does not have, and has one for every id
that it does. -/
theorem flow?_image_eq_none_iff {definition : ProcessDefinition} {id : String} :
    definition.image.flow? id = none ↔ id ∉ definition.flowIds := by
  rw [flow?_image, Option.map_eq_none_iff]
  exact find?_key_eq_none_iff

/-- With distinct ids, every node is found in the image, and with all its flows entered. -/
theorem node?_image_of_mem {definition : ProcessDefinition} (hids : definition.nodeIds.Nodup)
    {node : NodeDefinition} (hnode : node ∈ definition.nodes) :
    definition.image.node? node.id = some (definition.imageNode node) := by
  rw [node?_image, find?_key hids hnode, Option.map_some]

/-- With distinct ids, every flow is found in the image, as the flow of the definition that it
is. -/
theorem flow?_image_of_mem {definition : ProcessDefinition} (hids : definition.flowIds.Nodup)
    {flow : FlowDefinition} (hflow : flow ∈ definition.flows) :
    definition.image.flow? flow.id = some flow.toFlow := by
  rw [flow?_image, find?_key hids hflow, Option.map_some]

/-- With distinct ids, the ids of some flows of the definition resolve to these flows, in the order
given and with none left out. -/
theorem resolveFlows_image {definition : ProcessDefinition} (hids : definition.flowIds.Nodup)
    {flows : List FlowDefinition} (hflows : ∀ flow ∈ flows, flow ∈ definition.flows) :
    definition.image.resolveFlows (flows.map FlowDefinition.id) =
      flows.map FlowDefinition.toFlow := by
  unfold ProcessGraph.resolveFlows
  rw [List.filterMap_map, ← List.filterMap_eq_map]
  exact List.filterMap_congr fun flow hflow => flow?_image_of_mem hids (hflows flow hflow)

/-- With distinct ids, indexing the table of the image with the ids of the nodes finds the nodes. -/
theorem nodes?_image {definition : ProcessDefinition} (hids : definition.nodeIds.Nodup) :
    definition.image.nodes? = .ok (definition.nodes.map definition.imageNode) := by
  refine ProcessGraph.nodes?_eq_table ?_ hids
  rw [image, List.map_map]
  rfl

/-- With distinct ids, indexing the table of the image with the ids of the flows finds the flows. -/
theorem flows?_image {definition : ProcessDefinition} (hids : definition.flowIds.Nodup) :
    definition.image.flows? = .ok (definition.flows.map FlowDefinition.toFlow) := by
  refine ProcessGraph.flows?_eq_table ?_ hids
  rw [image, List.map_map]
  rfl

/-- With distinct ids, the nodes of the image are those of the definition, in their order. -/
theorem nodes_image {definition : ProcessDefinition} (hids : definition.nodeIds.Nodup) :
    definition.image.nodes = definition.nodes.map definition.imageNode := by
  rw [ProcessGraph.nodes, nodes?_image hids]

/-- With distinct ids, the flows of the image are those of the definition, in their order. -/
theorem flows_image {definition : ProcessDefinition} (hids : definition.flowIds.Nodup) :
    definition.image.flows = definition.flows.map FlowDefinition.toFlow := by
  rw [ProcessGraph.flows, flows?_image hids]

/-- With distinct ids, the default flows of a node of the image are those of the definition. -/
theorem defaultIds_image {definition : ProcessDefinition} (hnodes : definition.nodeIds.Nodup)
    (hflows : definition.flowIds.Nodup) {node : NodeDefinition} (hnode : node ∈ definition.nodes) :
    definition.image.defaultIds node.id =
      .ok ((definition.defaultsFrom node.id).map FlowDefinition.id) := by
  have hfrom : ∀ flow ∈ definition.flowsFrom node.id, flow ∈ definition.flows :=
    fun flow hflow => List.mem_of_mem_filter hflow
  have hindexed : definition.image.indexNode node.id = .ok (definition.imageNode node) :=
    ProcessGraph.indexNode_eq_ok_iff.mpr (node?_image_of_mem hnodes hnode)
  have hfound : ∀ id ∈ (definition.flowsFrom node.id).map FlowDefinition.id,
      ∃ flow, definition.image.indexFlow id = .ok flow := by
    intro id hid
    obtain ⟨flow, hflow, rfl⟩ := List.mem_map.mp hid
    exact ⟨_, ProcessGraph.indexFlow_eq_ok_iff.mpr (flow?_image_of_mem hflows (hfrom flow hflow))⟩
  have hmarked := ProcessGraph.markedIds_eq hfound
  rw [resolveFlows_image hflows hfrom, List.filter_map, List.map_map] at hmarked
  rw [ProcessGraph.defaultIds, hindexed]
  exact hmarked

end ProcessDefinition

namespace ProcessGraph

open ProcessDefinition

/-- Taking one more node leads to the image with this node, unless its id is taken. The nodes come
first, so that the images have no flows yet. -/
theorem addNode_image (definition : ProcessDefinition) (before : List NodeDefinition)
    (node : NodeDefinition) :
    addNode { definition with nodes := before, flows := [] }.image node =
      outcome (nodeFailure before node)
        { definition with nodes := before ++ [node], flows := [] }.image := by
  have hnode : ({ definition with nodes := before, flows := [] }.image.node? node.id).isSome =
      true ↔ node.id ∈ before.map NodeDefinition.id := by
    rw [Option.isSome_iff_ne_none, ne_eq, node?_image_eq_none_iff, not_not]
    rfl
  unfold addNode nodeFailure
  simp only [hnode]
  split
  · rfl
  · simp [image, imageNode, nodeIds, flowIds, NodeDefinition.toNode, flowsFrom, flowsInto]

/-- Entering one more flow into a node of the image gives its node in the image with this flow, be
the node its source, its target, both or neither. -/
theorem enterFlow_imageNode (definition : ProcessDefinition) (before : List FlowDefinition)
    (flow : FlowDefinition) (node : NodeDefinition) :
    enterFlow flow ({ definition with flows := before }.imageNode node) =
      { definition with flows := before ++ [flow] }.imageNode node := by
  by_cases hs : flow.source = node.id <;> by_cases ht : flow.target = node.id <;>
    simp [enterFlow, imageNode, flowsFrom, flowsInto, hs, ht, eq_comm (a := node.id)]

/-- Taking one more flow leads to the image with this flow, unless it fails its check against the
flows before it. -/
theorem addFlow_image (definition : ProcessDefinition) (before : List FlowDefinition)
    (flow : FlowDefinition) :
    addFlow { definition with flows := before }.image flow =
      outcome (flowFailure definition.nodeIds before flow)
        { definition with flows := before ++ [flow] }.image := by
  have hflow : ({ definition with flows := before }.image.flow? flow.id).isSome = true ↔
      flow.id ∈ before.map FlowDefinition.id := by
    rw [Option.isSome_iff_ne_none, ne_eq, flow?_image_eq_none_iff, not_not]
    rfl
  have hnode (id : String) : ({ definition with flows := before }.image.node? id).isNone = true ↔
      id ∉ definition.nodeIds := by
    rw [Option.isNone_iff_eq_none, node?_image_eq_none_iff]
    rfl
  unfold addFlow flowFailure
  simp only [hflow, hnode]
  split
  · rfl
  · split
    · rfl
    · split
      · rfl
      · simp [image, nodeIds, flowIds, enterFlow_imageNode]

/-- Checking the default flows of nodes of the image finds every key, and is a check of the
definition. The nodes before those that are checked make no difference. -/
theorem checkDefaults_image {definition : ProcessDefinition} (hnodes : definition.nodeIds.Nodup)
    (hflows : definition.flowIds.Nodup) (before : List NodeDefinition)
    {nodes : List NodeDefinition} (hmem : ∀ node ∈ nodes, node ∈ definition.nodes) :
    definition.image.checkDefaults (nodes.map NodeDefinition.id) =
      .ok (outcome (firstFailure (fun _ => definition.defaultFailure) before nodes) ()) := by
  induction nodes generalizing before with
  | nil => rfl
  | cons node rest ih =>
    obtain ⟨hnode, hrest⟩ := List.forall_mem_cons.mp hmem
    rw [List.map_cons, checkDefaults, defaultIds_image hnodes hflows hnode, firstFailure,
      defaultFailure]
    dsimp only [bind, Except.bind]
    rw [List.length_map]
    by_cases hseveral : 1 < (definition.defaultsFrom node.id).length
    · rw [if_pos hseveral, if_pos hseveral]
      rfl
    · rw [if_neg hseveral, if_neg hseveral]
      exact ih (before ++ [node]) hrest

end ProcessGraph

end CaseRouting
