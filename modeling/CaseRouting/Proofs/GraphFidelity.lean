import CaseRouting.Proofs.GraphValidation

/-!
# A graph shows its definition

A built graph lists the nodes and flows of its definition unchanged and in order, and its look-ups
find exactly these. The flows at a node are those that name it, so that every flow is listed once
where it leaves and once where it enters. No look-up of the graph misses.
-/

namespace CaseRouting

open OrderedCheck

/-- A request is filed and checked, which may send it back or be repeated; if it passes, the case
ends with or without a message. It has a loop at a gateway, a ring and two gateways with a
default. -/
def requestProcess : ProcessDefinition :=
  ⟨"request", none,
    [.startEvent "Start", .task "File" "data", .gateway "Check", .gateway "Route",
      .task "Notify" "message", .endEvent "End"],
    [.between "begin" "Start" "File", .between "submit" "File" "Check",
      .between "again" "Check" "File", .between "recheck" "Check" "Check",
      (FlowDefinition.between "pass" "Check" "Route").asDefault,
      (FlowDefinition.between "notify" "Route" "Notify").withCondition "message",
      (FlowDefinition.between "close" "Route" "End").asDefault]⟩

namespace ProcessGraph

/-- A graph that shows a definition as it is, through each of the ways in which it can be looked
at. -/
structure Mirrors (graph : ProcessGraph) (definition : ProcessDefinition) : Prop where
  /-- The process keeps its id and its name. -/
  process_eq : graph.processId = definition.processId ∧ graph.name = definition.name
  /-- The nodes come in definition order, with their ids, names and kinds. -/
  nodes_eq : graph.nodes.map (fun node => (node.id, node.name, node.kind)) =
    definition.nodes.map fun node => (node.id, node.name, node.kind)
  /-- The flows come in definition order, with all their fields. -/
  flows_eq : graph.flows.map (fun flow =>
      (flow.id, flow.source, flow.target, flow.isDefault, flow.condition)) =
    definition.flows.map fun flow =>
      (flow.id, flow.source, flow.target, flow.isDefault, flow.condition)
  /-- No two nodes and no two flows have the same id. -/
  ids_nodup : (graph.nodes.map Node.id).Nodup ∧ (graph.flows.map SequenceFlow.id).Nodup
  /-- A node is found by its id and by no other text. -/
  node_eq_ok_iff : ∀ id node, graph.node id = .ok node ↔ node ∈ graph.nodes ∧ node.id = id
  /-- Only ids that the definition does not have are not found. -/
  node_eq_error_iff : ∀ id error,
    graph.node id = .error error ↔ id ∉ definition.nodeIds ∧ error = .nodeNotFound id
  /-- A flow is found by its id and by no other text. -/
  flow_eq_ok_iff : ∀ id flow, graph.flow id = .ok flow ↔ flow ∈ graph.flows ∧ flow.id = id
  /-- Only ids that the definition does not have are not found. -/
  flow_eq_error_iff : ∀ id error,
    graph.flow id = .error error ↔ id ∉ definition.flowIds ∧ error = .flowNotFound id
  /-- The flows that leave a node are those with this source. -/
  outgoingFlows_eq : ∀ id,
    graph.outgoingFlows id = (definition.flowsFrom id).map FlowDefinition.toFlow
  /-- The flows that enter a node are those with this target. -/
  incomingFlows_eq : ∀ id,
    graph.incomingFlows id = (definition.flowsInto id).map FlowDefinition.toFlow
  /-- A node lists the ids of the flows that leave and of those that enter it. -/
  lists_eq : ∀ node ∈ graph.nodes,
    node.outgoing = (definition.flowsFrom node.id).map FlowDefinition.id ∧
      node.incoming = (definition.flowsInto node.id).map FlowDefinition.id
  /-- A flow is listed once among those that leave its source, once among those that enter its
  target, and nowhere else. -/
  listed_once : ∀ flow ∈ definition.flows, ∃ source ∈ graph.nodes, ∃ target ∈ graph.nodes,
    source.id = flow.source ∧ target.id = flow.target ∧
      (flow.source = flow.target → source = target) ∧
      (∀ node ∈ graph.nodes, node.outgoing.count flow.id = if node = source then 1 else 0) ∧
      ∀ node ∈ graph.nodes, node.incoming.count flow.id = if node = target then 1 else 0
  /-- The default flow of a node is its one flow that is marked. -/
  defaultFlow?_eq_some_iff : ∀ id flow, graph.defaultFlow? id = some flow ↔
    (definition.defaultsFrom id).map FlowDefinition.toFlow = [flow]

end ProcessGraph

namespace ProcessDefinition

variable {definition : ProcessDefinition}

/-- With distinct ids, the nodes of the image keep their ids, and with these their order. -/
theorem map_id_image_nodes (hids : definition.nodeIds.Nodup) :
    definition.image.nodes.map Node.id = definition.nodeIds := by
  rw [nodes_image hids, List.map_map]
  rfl

/-- With distinct ids, the flows of the image keep their ids, and with these their order. -/
theorem map_id_image_flows (hids : definition.flowIds.Nodup) :
    definition.image.flows.map SequenceFlow.id = definition.flowIds := by
  rw [flows_image hids, List.map_map]
  rfl

/-- With distinct ids, a node is found in the image by its id and by no other text. What is found is
one of the listed nodes. -/
theorem node?_image_eq_some_iff (hids : definition.nodeIds.Nodup) {id : String} {node : Node} :
    definition.image.node? id = some node ↔ node ∈ definition.image.nodes ∧ node.id = id := by
  have hkeys : ((definition.nodes.map definition.imageNode).map Node.id).Nodup := by
    rw [List.map_map]
    exact hids
  rw [nodes_image hids]
  exact find?_key_eq_some_iff hkeys

/-- With distinct ids, a flow is found in the image by its id and by no other text. What is found is
one of the listed flows. -/
theorem flow?_image_eq_some_iff (hids : definition.flowIds.Nodup) {id : String}
    {flow : SequenceFlow} :
    definition.image.flow? id = some flow ↔ flow ∈ definition.image.flows ∧ flow.id = id := by
  have hkeys : ((definition.flows.map FlowDefinition.toFlow).map SequenceFlow.id).Nodup := by
    rw [List.map_map]
    exact hids
  rw [flows_image hids]
  exact find?_key_eq_some_iff hkeys

/-- No flow leaves a node that the definition does not have, for the source of every flow is
known. -/
theorem WellFormed.flowsFrom_eq_nil (hwell : definition.WellFormed) {id : String}
    (hid : id ∉ definition.nodeIds) : definition.flowsFrom id = [] := by
  refine List.filter_eq_nil_iff.mpr fun flow hflow hsource => hid ?_
  rw [← of_decide_eq_true hsource]
  exact (hwell.ends_known flow hflow).1

/-- No flow enters a node that the definition does not have, for the target of every flow is
known. -/
theorem WellFormed.flowsInto_eq_nil (hwell : definition.WellFormed) {id : String}
    (hid : id ∉ definition.nodeIds) : definition.flowsInto id = [] := by
  refine List.filter_eq_nil_iff.mpr fun flow hflow htarget => hid ?_
  rw [← of_decide_eq_true htarget]
  exact (hwell.ends_known flow hflow).2

/-- The flows that leave a node of the image are those of the definition with this source, in
definition order, also for an id that no node has. -/
theorem WellFormed.outgoingFlows_image (hwell : definition.WellFormed) (id : String) :
    definition.image.outgoingFlows id =
      (definition.flowsFrom id).map FlowDefinition.toFlow := by
  unfold ProcessGraph.outgoingFlows
  by_cases hid : id ∈ definition.nodeIds
  · obtain ⟨node, hnode, rfl⟩ := List.mem_map.mp hid
    rw [node?_image_of_mem hwell.nodeIds_nodup hnode]
    exact resolveFlows_image hwell.flowIds_nodup fun flow hflow => List.mem_of_mem_filter hflow
  · rw [node?_image_eq_none_iff.mpr hid, hwell.flowsFrom_eq_nil hid]
    rfl

/-- The flows that enter a node of the image are those of the definition with this target, in
definition order, also for an id that no node has. -/
theorem WellFormed.incomingFlows_image (hwell : definition.WellFormed) (id : String) :
    definition.image.incomingFlows id =
      (definition.flowsInto id).map FlowDefinition.toFlow := by
  unfold ProcessGraph.incomingFlows
  by_cases hid : id ∈ definition.nodeIds
  · obtain ⟨node, hnode, rfl⟩ := List.mem_map.mp hid
    rw [node?_image_of_mem hwell.nodeIds_nodup hnode]
    exact resolveFlows_image hwell.flowIds_nodup fun flow hflow => List.mem_of_mem_filter hflow
  · rw [node?_image_eq_none_iff.mpr hid, hwell.flowsInto_eq_nil hid]
    rfl

/-- No node, known or not, has several default flows: known ones are checked, and no flow leaves the
others. -/
theorem WellFormed.defaultsFrom_length_le (hwell : definition.WellFormed) (id : String) :
    (definition.defaultsFrom id).length ≤ 1 := by
  by_cases hid : id ∈ definition.nodeIds
  · obtain ⟨node, hnode, rfl⟩ := List.mem_map.mp hid
    exact hwell.default_unique node hnode
  · simp [defaultsFrom, hwell.flowsFrom_eq_nil hid]

/-- The default flow of a node of the image is its one flow that is marked, for the first of at most
one is the only one. -/
theorem WellFormed.defaultFlow?_image (hwell : definition.WellFormed) (id : String)
    (flow : SequenceFlow) :
    definition.image.defaultFlow? id = some flow ↔
      (definition.defaultsFrom id).map FlowDefinition.toFlow = [flow] := by
  have hhead : definition.image.defaultFlow? id =
      ((definition.defaultsFrom id).map FlowDefinition.toFlow).head? := by
    unfold ProcessGraph.defaultFlow? defaultsFrom
    rw [hwell.outgoingFlows_image, ← List.head?_filter, List.filter_map]
    rfl
  have hlength := hwell.defaultsFrom_length_le id
  rw [hhead]
  match hdefaults : definition.defaultsFrom id with
  | [] => simp
  | [default] => simp
  | first :: second :: rest =>
    rw [hdefaults, List.length_cons, List.length_cons] at hlength
    omega

/-- A node of the image is a node of the definition with the flows entered, so that facts of the
image come from the definition. -/
theorem WellFormed.exists_imageNode (hwell : definition.WellFormed) {node : Node}
    (hnode : node ∈ definition.image.nodes) :
    ∃ original ∈ definition.nodes, definition.imageNode original = node := by
  rw [nodes_image hwell.nodeIds_nodup] at hnode
  exact List.mem_map.mp hnode

/-- Two nodes of the image with the same id are the same, as the ids of the definition are
distinct. -/
theorem WellFormed.eq_of_id_eq (hwell : definition.WellFormed) {first second : Node}
    (hfirst : first ∈ definition.image.nodes) (hsecond : second ∈ definition.image.nodes) :
    first = second ↔ first.id = second.id := by
  refine ⟨congrArg Node.id, fun hid => ?_⟩
  have hids : (definition.image.nodes.map Node.id).Nodup := by
    rw [map_id_image_nodes hwell.nodeIds_nodup]
    exact hwell.nodeIds_nodup
  exact List.inj_on_of_nodup_map hids hfirst hsecond hid

/-- Every flow is listed once at its source and once at its target. A flow from a node to itself is
listed at the same node on both sides. -/
theorem WellFormed.image_listed_once (hwell : definition.WellFormed) {flow : FlowDefinition}
    (hflow : flow ∈ definition.flows) :
    ∃ source ∈ definition.image.nodes, ∃ target ∈ definition.image.nodes,
      source.id = flow.source ∧ target.id = flow.target ∧
        (flow.source = flow.target → source = target) ∧
        (∀ node ∈ definition.image.nodes,
          node.outgoing.count flow.id = if node = source then 1 else 0) ∧
        ∀ node ∈ definition.image.nodes,
          node.incoming.count flow.id = if node = target then 1 else 0 := by
  obtain ⟨hs, ht⟩ := hwell.ends_known flow hflow
  rw [← map_id_image_nodes hwell.nodeIds_nodup] at hs ht
  obtain ⟨source, hsource, hsourceId⟩ := List.mem_map.mp hs
  obtain ⟨target, htarget, htargetId⟩ := List.mem_map.mp ht
  refine ⟨source, hsource, target, htarget, hsourceId, htargetId, ?_, ?_, ?_⟩
  · intro hloop
    rw [hwell.eq_of_id_eq hsource htarget, hsourceId, htargetId, hloop]
  · intro node hnode
    have hcount := count_key_filter hwell.flowIds_nodup hflow fun flow => flow.source = node.id
    obtain ⟨original, -, rfl⟩ := hwell.exists_imageNode hnode
    simp only [hwell.eq_of_id_eq hnode hsource, hsourceId, eq_comm (a := flow.source),
      decide_eq_true_eq] at hcount ⊢
    exact hcount
  · intro node hnode
    have hcount := count_key_filter hwell.flowIds_nodup hflow fun flow => flow.target = node.id
    obtain ⟨original, -, rfl⟩ := hwell.exists_imageNode hnode
    simp only [hwell.eq_of_id_eq hnode htarget, htargetId, eq_comm (a := flow.target),
      decide_eq_true_eq] at hcount ⊢
    exact hcount

end ProcessDefinition

namespace ProcessGraph

open ProcessDefinition

/-- A built graph shows its definition as it is: the nodes and flows, the look-ups, the flows at
each node and the default flows. -/
theorem build_mirrors {definition : ProcessDefinition} {graph : ProcessGraph}
    (hbuild : build definition = .ok graph) : graph.Mirrors definition := by
  obtain ⟨hwell, rfl⟩ := build_eq_ok_iff.mp hbuild
  have hnodeIds : (definition.image.nodes.map Node.id).Nodup := by
    rw [map_id_image_nodes hwell.nodeIds_nodup]
    exact hwell.nodeIds_nodup
  have hflowIds : (definition.image.flows.map SequenceFlow.id).Nodup := by
    rw [map_id_image_flows hwell.flowIds_nodup]
    exact hwell.flowIds_nodup
  exact {
    process_eq := ⟨rfl, rfl⟩
    nodes_eq := by simp [nodes_image hwell.nodeIds_nodup, imageNode]
    flows_eq := by simp [flows_image hwell.flowIds_nodup, FlowDefinition.toFlow]
    ids_nodup := ⟨hnodeIds, hflowIds⟩
    node_eq_ok_iff := fun id node =>
      node_eq_ok_iff.trans (node?_image_eq_some_iff hwell.nodeIds_nodup)
    node_eq_error_iff := fun id error =>
      node_eq_error_iff.trans (and_congr_left' node?_image_eq_none_iff)
    flow_eq_ok_iff := fun id flow =>
      flow_eq_ok_iff.trans (flow?_image_eq_some_iff hwell.flowIds_nodup)
    flow_eq_error_iff := fun id error =>
      flow_eq_error_iff.trans (and_congr_left' flow?_image_eq_none_iff)
    outgoingFlows_eq := hwell.outgoingFlows_image
    incomingFlows_eq := hwell.incomingFlows_image
    lists_eq := by
      intro node hnode
      obtain ⟨original, -, rfl⟩ := hwell.exists_imageNode hnode
      exact ⟨rfl, rfl⟩
    listed_once := fun flow hflow => hwell.image_listed_once hflow
    defaultFlow?_eq_some_iff := hwell.defaultFlow?_image }

/-- The process of requests is built, with its loop at a gateway and both defaults, and shown as it
is. -/
theorem build_mirrors_requestProcess :
    build requestProcess = .ok requestProcess.image ∧
      requestProcess.image.Mirrors requestProcess :=
  ⟨rfl, build_mirrors rfl⟩

end ProcessGraph

end CaseRouting
