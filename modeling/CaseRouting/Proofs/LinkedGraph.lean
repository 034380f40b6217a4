import CaseRouting.Proofs.FailureCauses

/-!
# No look-up misses

The collections of a graph that has been assembled agree, so that every look-up by an id that the
graph itself holds finds what it asks for: in the lists of nodes and flows, which index the tables
with the ids of the orders, in the check of default flows, at both ends of a node and at the target
of a flow. A navigation, which follows flows of the graph only, therefore never fails to find a node
behind its origin, whatever filters answer.
-/

namespace CaseRouting

namespace ProcessGraph

/-- All look-ups by ids that the graph holds find what they ask for. Where the program indexes a
table, finding means that it does not break off; where it drops or reports what it does not find,
finding means that nothing is dropped or reported. -/
structure LookupsHit (graph : ProcessGraph) : Prop where
  /-- The table of nodes is indexed with the order of the nodes without a miss, and the entries
  found are those with the ids of the order. -/
  nodes_found : graph.nodes? = .ok graph.nodes ∧ graph.nodes.map Node.id = graph.nodeOrder
  /-- The table of flows is indexed with the order of the flows without a miss, and the entries
  found are those with the ids of the order. -/
  flows_found : graph.flows? = .ok graph.flows ∧ graph.flows.map SequenceFlow.id = graph.flowOrder
  /-- The check of default flows finds every node of the order, and every flow that leaves it. -/
  defaults_found : ∀ id ∈ graph.nodeOrder, ∃ node, graph.indexNode id = .ok node ∧
    (∀ flowId ∈ node.outgoing, ∃ flow, graph.indexFlow flowId = .ok flow) ∧
    ∃ defaults, graph.defaultIds id = .ok defaults
  /-- So the check comes to its end, whether it refuses a node or not. -/
  check_ends : ∃ checked, graph.checkDefaults graph.nodeOrder = .ok checked
  /-- Every flow that leaves a node is found, in the order of the node; none is dropped. -/
  outgoing_found : ∀ id node, graph.node? id = some node →
    (graph.outgoingFlows id).map SequenceFlow.id = node.outgoing ∧
      (graph.outgoingFlows id).length = node.outgoing.length
  /-- Every flow that enters a node is found, in the order of the node; none is dropped. -/
  incoming_found : ∀ id node, graph.node? id = some node →
    (graph.incomingFlows id).map SequenceFlow.id = node.incoming ∧
      (graph.incomingFlows id).length = node.incoming.length
  /-- Every flow leads to a node. -/
  target_found : ∀ flow ∈ graph.flows, ∃ node, graph.targetNode flow = .ok node

section Found

variable {graph : ProcessGraph}

/-- Ids under which the table of flows has entries are resolved to as many flows, and these have the
ids that were asked for, in order. Nothing is dropped then, although resolving drops what it does
not find. -/
theorem map_id_resolveFlows {ids : List String}
    (h : ∀ id ∈ ids, ∃ flow, graph.indexFlow id = .ok flow) :
    (graph.resolveFlows ids).map SequenceFlow.id = ids := by
  induction ids with
  | nil => rfl
  | cons id ids ih =>
    obtain ⟨⟨flow, hflow⟩, hids⟩ := List.forall_mem_cons.mp h
    have hfound := indexFlow_eq_ok_iff.mp hflow
    have hid : flow.id = id := by simpa using List.find?_some hfound
    have hresolved : graph.resolveFlows (id :: ids) = flow :: graph.resolveFlows ids :=
      List.filterMap_cons_some hfound
    rw [hresolved, List.map_cons, ih hids, hid]

/-- What a node of a linked graph lists are ids of flows, so that the table of flows is indexed with
each of them without a miss. -/
theorem Linked.exists_indexFlow_listed (h : graph.Linked) {nodeId : String} {node : Node}
    (hnode : graph.node? nodeId = some node) {id : String}
    (hid : id ∈ node.outgoing ++ node.incoming) : ∃ flow, graph.indexFlow id = .ok flow :=
  h.exists_indexFlow (h.listed_known node (mem_of_node? hnode).1 id hid)

/-- The flows that a node of a linked graph lists are resolved one by one, in the order of the list
and as many as there are ids in it. -/
theorem Linked.resolveFlows_listed (h : graph.Linked) {nodeId : String} {node : Node}
    (hnode : graph.node? nodeId = some node) {ids : List String}
    (hlisted : ids ⊆ node.outgoing ++ node.incoming) :
    (graph.resolveFlows ids).map SequenceFlow.id = ids ∧
      (graph.resolveFlows ids).length = ids.length := by
  have hids := map_id_resolveFlows fun id hid => h.exists_indexFlow_listed hnode (hlisted hid)
  have hlength := congrArg List.length hids
  rw [List.length_map] at hlength
  exact ⟨hids, hlength⟩

/-- In a linked graph no look-up misses: the orders name the entries of the tables, the lists of a
node name flows of the table, and both ends of a flow name nodes of the table. -/
theorem Linked.lookupsHit (h : graph.Linked) : graph.LookupsHit := by
  refine ⟨⟨?_, ?_⟩, ⟨?_, ?_⟩, fun id hid => ?_, h.exists_checkDefaults fun _ hid => hid,
    fun id node hfound => ?_, fun id node hfound => ?_, fun flow hflow => ?_⟩
  · rw [h.nodes_eq]
    exact nodes?_eq_table h.nodeOrder_eq h.nodeOrder_nodup
  · rw [h.nodes_eq, h.nodeOrder_eq]
  · rw [h.flows_eq]
    exact flows?_eq_table h.flowOrder_eq h.flowOrder_nodup
  · rw [h.flows_eq, h.flowOrder_eq]
  · obtain ⟨node, hnode⟩ := h.exists_indexNode hid
    have hfound := indexNode_eq_ok_iff.mp hnode
    exact ⟨node, hnode, fun flowId hflowId => h.exists_indexFlow_listed hfound
      (List.mem_append_left _ hflowId), h.exists_defaultIds hid⟩
  · rw [outgoingFlows, hfound]
    exact h.resolveFlows_listed hfound (List.subset_append_left _ _)
  · rw [incomingFlows, hfound]
    exact h.resolveFlows_listed hfound (List.subset_append_right _ _)
  · rw [h.flows_eq] at hflow
    obtain ⟨node, hnode⟩ := h.exists_indexNode (h.target_known flow hflow)
    exact ⟨node, targetNode_eq_ok_iff.mpr (indexNode_eq_ok_iff.mp hnode)⟩

/-- A graph that is built has been assembled before, since the check of default flows only refuses a
graph and changes nothing in it. -/
theorem assemble_of_build {definition : ProcessDefinition}
    (hbuild : build definition = .ok graph) : assemble definition = .ok graph := by
  have htried := tryBuild_eq_build definition
  rw [hbuild] at htried
  unfold tryBuild at htried
  cases hassemble : assemble definition with
  | error error =>
    rw [hassemble] at htried
    cases htried
  | ok assembled =>
    rw [hassemble] at htried
    dsimp only at htried
    obtain ⟨checked, hchecked⟩ :=
      (linked_of_assemble hassemble).exists_checkDefaults fun _ hid => hid
    rw [hchecked] at htried
    cases checked with
    | error error => cases htried
    | ok checked => exact Except.ok.inj htried

end Found

end ProcessGraph

namespace Navigator

section Arrival

/-- Whatever filters answer, a call with the given request leads along flows of the graph to nodes
of the graph. -/
structure NeverLost (navigator : Navigator) (request : NavigationRequest) (token : Token)
    (patience : Nat) : Prop where
  /-- A flow that is selected at a node, at any time, leads to a node. -/
  selected_found : ∀ node journey chosen,
    (navigator.select request token patience node (navigator.graph.outgoingFlows node.id)
      journey).1 = some (.ok chosen) → ∃ target, navigator.graph.targetNode chosen = .ok target
  /-- No walk ends because it does not find a node. -/
  walk_found : ∀ visited node journey id,
    (navigator.walk request token patience visited node journey).outcome ≠
      some (.error (.nodeNotFound id))
  /-- Only the origin may be missing. -/
  notFound_iff : ∀ id,
    (navigator.nextElement request token patience).outcome = some (.error (.nodeNotFound id)) ↔
      navigator.graph.node? request.originId = none ∧ id = request.originId

variable {navigator : Navigator} {request : NavigationRequest} {token : Token} {patience : Nat}

/-- The flows that leave a node are entries of the table of flows, for they have been looked up
there. -/
theorem mem_flowTable_of_mem_outgoingFlows {graph : ProcessGraph} {id : String}
    {flow : SequenceFlow} (hflow : flow ∈ graph.outgoingFlows id) : flow ∈ graph.flowTable := by
  unfold ProcessGraph.outgoingFlows at hflow
  split at hflow
  · obtain ⟨listed, -, hfound⟩ := List.mem_filterMap.mp hflow
    exact List.mem_of_find?_eq_some hfound
  · cases hflow

/-- A selection among flows chooses one of them, if it chooses any, and it does not look for nodes.
What the filter answers is only ever used to leave flows out, so the chosen flow is one of those
that were offered. -/
theorem select_among (navigator : Navigator) (request : NavigationRequest) (token : Token)
    (patience : Nat) (node : Node) (flows : List SequenceFlow) (journey : Journey) :
    let selected := (navigator.select request token patience node flows journey).1
    (∀ chosen, selected = some (.ok chosen) → chosen ∈ flows) ∧
      ∀ id, selected ≠ some (.error (.nodeNotFound id)) := by
  by_cases hsingle : ∃ only, flows = [only]
  · obtain ⟨only, rfl⟩ := hsingle
    rw [select_single]
    refine ⟨fun chosen hchosen => ?_, fun id => nofun⟩
    cases hchosen
    exact List.mem_singleton_self only
  · have hseveral (only : SequenceFlow) : flows ≠ [only] := fun honly => hsingle ⟨only, honly⟩
    cases hfilter : navigator.filterAt? node with
    | none =>
      rw [select_of_filterAt?_none hseveral hfilter]
      refine ⟨fun chosen hchosen => ?_, fun id hlost => ?_⟩
      · exact mem_of_decideFlow (fun _ => id) (Option.some.inj hchosen)
      · cases isAmbiguity_of_decideFlow (Option.some.inj hlost)
    | some filter =>
      rw [select_of_filterAt?_some hseveral hfilter]
      refine ⟨fun chosen => mem_of_settle, fun id hlost => ?_⟩
      unfold settle at hlost
      split at hlost
      · cases hlost
      · cases hlost
      · cases hlost
      · cases isAmbiguity_of_decideFlow (Option.some.inj hlost)

/-- A pass does not end because it does not find a node, if flows lead to nodes. It looks for the
target of the flow that was chosen, and for no other node. -/
theorem pass_ne_notFound
    (htarget : ∀ flow ∈ navigator.graph.flowTable,
      ∃ target, navigator.graph.node? flow.target = some target)
    {node : Node} {journey next : Journey} {id : String} :
    navigator.pass request token patience node journey ≠
      (.stopped (some (.error (.nodeNotFound id))), next) := by
  intro hpass
  obtain ⟨hchosen, hfound⟩ := select_among navigator request token patience node
    (navigator.graph.outgoingFlows node.id) (journey.visit node)
  unfold pass at hpass
  dsimp only at hpass
  split at hpass
  · cases hpass
  · refine hfound id (eq_error_of_follow (fun chosen hselected => ?_) (Prod.mk.inj hpass).1)
    exact htarget chosen (mem_flowTable_of_mem_outgoingFlows (hchosen chosen hselected))

/-- A navigation in a linked graph is never lost, since every flow that it follows is an entry of
the table and leads to a node of the graph. -/
theorem neverLost_of_linked (h : navigator.graph.Linked) :
    navigator.NeverLost request token patience := by
  have htarget (flow : SequenceFlow) (hflow : flow ∈ navigator.graph.flowTable) :
      ∃ target, navigator.graph.node? flow.target = some target := by
    obtain ⟨target, hfound⟩ := h.exists_indexNode (h.target_known flow hflow)
    exact ⟨target, ProcessGraph.indexNode_eq_ok_iff.mp hfound⟩
  have hwalk : ∀ visited node journey id,
      (navigator.walk request token patience visited node journey).outcome ≠
        some (.error (.nodeNotFound id)) := by
    intro visited node journey id
    refine walk_induction ?_ ?_ ?_ visited node journey
    · rintro visited node journey outcome next hpass rfl
      exact pass_ne_notFound htarget hpass
    · intro visited node journey gateway next _ _
      nofun
    · intro visited node journey gateway next _ _ ih
      exact ih
  refine ⟨fun node journey chosen hselected => ?_, hwalk, fun id => ⟨fun hlost => ?_, ?_⟩⟩
  · have hamong := select_among navigator request token patience node
      (navigator.graph.outgoingFlows node.id) journey
    obtain ⟨target, hfound⟩ :=
      htarget chosen (mem_flowTable_of_mem_outgoingFlows (hamong.1 chosen hselected))
    exact ⟨target, ProcessGraph.targetNode_eq_ok_iff.mpr hfound⟩
  · cases horigin : navigator.graph.node? request.originId with
    | none =>
      rw [nextElement_of_unknown horigin] at hlost
      cases hlost
      exact ⟨rfl, rfl⟩
    | some origin =>
      rw [nextElement_of_known horigin] at hlost
      exact (hwalk _ _ _ id hlost).elim
  · rintro ⟨horigin, rfl⟩
    exact congrArg NavigationRun.outcome (nextElement_of_unknown horigin)

end Arrival

end Navigator

namespace ProcessGraph

/-- Building the graph of a definition never breaks off at a missing key, whether the definition is
accepted or refused. In the graph no look-up by an id that the graph holds misses, also before its
default flows are checked. A navigation in the graph misses no node but an origin that the graph
does not have, whatever filters are registered and answer, and whoever cancels the call. -/
theorem no_lookup_misses (definition : ProcessDefinition) :
    tryBuild definition = .ok (build definition) ∧
    (∀ graph, assemble definition = .ok graph → graph.LookupsHit) ∧
    ∀ graph, build definition = .ok graph →
      assemble definition = .ok graph ∧ graph.LookupsHit ∧
      ∀ registry request token patience,
        (Navigator.mk graph registry).NeverLost request token patience := by
  have hlinked (graph : ProcessGraph) (h : assemble definition = .ok graph) : graph.Linked :=
    linked_of_assemble h
  refine ⟨tryBuild_eq_build definition, fun graph h => (hlinked graph h).lookupsHit,
    fun graph hbuild => ?_⟩
  have hassemble := assemble_of_build hbuild
  exact ⟨hassemble, (hlinked graph hassemble).lookupsHit, fun registry request token patience =>
    Navigator.neverLost_of_linked (hlinked graph hassemble)⟩

/-- The graph of requests is built, and from its gateway of checks no navigation gets lost, whatever
the filters there answer. -/
theorem no_lookup_misses_requestProcess :
    build requestProcess = .ok requestProcess.image ∧ requestProcess.image.LookupsHit ∧
      ∀ request, request.originId = "Check" → ∀ id,
        ((Navigator.mk requestProcess.image Navigator.hesitatingFilters).nextElement request .fresh
          1).outcome ≠ some (.error (.nodeNotFound id)) := by
  have hbuild : build requestProcess = .ok requestProcess.image := rfl
  obtain ⟨-, hhit, hfound⟩ := (no_lookup_misses requestProcess).2.2 _ hbuild
  refine ⟨hbuild, hhit, fun request horigin id hlost => ?_⟩
  have hmissing := ((hfound Navigator.hesitatingFilters request .fresh 1).notFound_iff id).mp hlost
  rw [horigin] at hmissing
  cases hmissing.1

/-- A graph whose collections do not agree is not linked: where an order names a node that the table
does not have, listing the nodes breaks off at the missing key. -/
example : (ProcessGraph.mk "request" none [] ["Check"] [] []).nodes? = .error ⟨"Check"⟩ := rfl

end ProcessGraph

end CaseRouting
