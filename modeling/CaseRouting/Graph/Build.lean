import CaseRouting.Graph.Assembly

/-!
# Building a graph

While a graph is assembled, its orders hold the ids of its tables, each of them once, the lists of
its nodes hold ids of its flows only, and its flows join its nodes. In an assembled graph the check
of default flows therefore finds every key with which it indexes the tables, and a graph is built
from every definition that passes the check.
-/

namespace CaseRouting

namespace ProcessGraph

/-- The collections of a graph agree: each order holds the ids of its table, and every id that is
held by a node or a flow is that of an entry. -/
structure Linked (graph : ProcessGraph) : Prop where
  /-- The order of the nodes is that in which they were entered into their table. -/
  nodeOrder_eq : graph.nodeOrder = graph.nodeTable.map Node.id
  /-- The order of the flows is that in which they were entered into their table. -/
  flowOrder_eq : graph.flowOrder = graph.flowTable.map SequenceFlow.id
  /-- No two nodes have the same id. -/
  nodeOrder_nodup : graph.nodeOrder.Nodup
  /-- No two flows have the same id. -/
  flowOrder_nodup : graph.flowOrder.Nodup
  /-- What is listed at a node are ids of flows. -/
  listed_known : ∀ node ∈ graph.nodeTable, ∀ id ∈ node.outgoing ++ node.incoming,
    id ∈ graph.flowOrder
  /-- Every flow leads to a node. -/
  target_known : ∀ flow ∈ graph.flowTable, flow.target ∈ graph.nodeOrder

/-- A table of nodes has an entry under an id exactly if one of its nodes has the id. -/
theorem node?_isSome_iff {graph : ProcessGraph} {id : String} :
    (graph.node? id).isSome = true ↔ id ∈ graph.nodeTable.map Node.id := by
  simp [node?]

/-- A table of flows has an entry under an id exactly if one of its flows has the id. -/
theorem flow?_isSome_iff {graph : ProcessGraph} {id : String} :
    (graph.flow? id).isSome = true ↔ id ∈ graph.flowTable.map SequenceFlow.id := by
  simp [flow?]

/-- A node that is found by an id is an entry of the table and has the id, for it stands under the
id that it has itself. -/
theorem mem_of_node? {graph : ProcessGraph} {id : String} {node : Node}
    (h : graph.node? id = some node) : node ∈ graph.nodeTable ∧ node.id = id :=
  ⟨List.mem_of_find?_eq_some h, by simpa using List.find?_some h⟩

/-- A list with one more element has no repetition if it had none and the element is new, as each id
is when its turn comes. -/
theorem nodup_concat {ids : List String} {id : String} (h : ids.Nodup) (hnew : id ∉ ids) :
    (ids ++ [id]).Nodup := by
  rw [List.nodup_append]
  refine ⟨h, by simp, fun other hother same hsame heq => hnew ?_⟩
  rw [← List.mem_singleton.mp hsame, ← heq]
  exact hother

/-- A graph without nodes and flows holds no ids, so that there is nothing on which its collections
could differ. -/
theorem linked_empty (processId : String) (name : Option String) :
    (empty processId name).Linked where
  nodeOrder_eq := rfl
  flowOrder_eq := rfl
  nodeOrder_nodup := List.nodup_nil
  flowOrder_nodup := List.nodup_nil
  listed_known := fun _ hnode => absurd hnode List.not_mem_nil
  target_known := fun _ hflow => absurd hflow List.not_mem_nil

section Steps

variable {graph next : ProcessGraph}

/-- Taking a node keeps a graph linked: the node has an id of its own and lists no flow. -/
theorem Linked.addNode (h : graph.Linked) {node : NodeDefinition}
    (hadd : graph.addNode node = .ok next) : next.Linked := by
  unfold ProcessGraph.addNode at hadd
  split at hadd
  · cases hadd
  next hnew =>
    cases hadd
    rw [node?_isSome_iff, ← h.nodeOrder_eq] at hnew
    have horder : graph.nodeOrder ++ [node.id] =
        (graph.nodeTable ++ [node.toNode]).map Node.id := by
      rw [List.map_append, h.nodeOrder_eq]
      rfl
    refine ⟨horder, h.flowOrder_eq, nodup_concat h.nodeOrder_nodup hnew, h.flowOrder_nodup,
      fun added hadded id hid => ?_, fun flow hflow => ?_⟩
    · rcases List.mem_append.mp hadded with hold | hsame
      · exact h.listed_known added hold id hid
      · rw [List.mem_singleton.mp hsame] at hid
        cases hid
    · exact List.mem_append_left _ (h.target_known flow hflow)

/-- A node into which a flow is entered lists what it listed before, and perhaps the flow. -/
theorem mem_listed_enterFlow {flow : FlowDefinition} {node : Node} {id : String}
    (hid : id ∈ (enterFlow flow node).outgoing ++ (enterFlow flow node).incoming) :
    id ∈ node.outgoing ++ node.incoming ∨ id = flow.id := by
  have hlisted (condition : Prop) [Decidable condition] (ids : List String)
      (h : id ∈ if condition then ids ++ [flow.id] else ids) : id ∈ ids ∨ id = flow.id := by
    split at h
    · simpa using h
    · exact .inl h
  rcases List.mem_append.mp hid with hout | hin
  · exact (hlisted _ _ hout).imp_left (List.mem_append_left _)
  · exact (hlisted _ _ hin).imp_left (List.mem_append_right _)

/-- Taking a flow keeps a graph linked: the flow has an id of its own and known ends, and the nodes
keep their ids when it is entered into them. -/
theorem Linked.addFlow (h : graph.Linked) {flow : FlowDefinition}
    (hadd : graph.addFlow flow = .ok next) : next.Linked := by
  unfold ProcessGraph.addFlow at hadd
  split at hadd
  · cases hadd
  next hnew =>
  split at hadd
  · cases hadd
  split at hadd
  · cases hadd
  next htarget =>
    cases hadd
    rw [flow?_isSome_iff, ← h.flowOrder_eq] at hnew
    rw [Option.isNone_iff_eq_none, ← ne_eq, ← Option.isSome_iff_ne_none, node?_isSome_iff,
      ← h.nodeOrder_eq] at htarget
    have hnodes : graph.nodeOrder = (graph.nodeTable.map (enterFlow flow)).map Node.id := by
      rw [List.map_map]
      exact h.nodeOrder_eq
    have hflows : graph.flowOrder ++ [flow.id] =
        (graph.flowTable ++ [flow.toFlow]).map SequenceFlow.id := by
      rw [List.map_append, h.flowOrder_eq]
      rfl
    refine ⟨hnodes, hflows, h.nodeOrder_nodup, nodup_concat h.flowOrder_nodup hnew,
      fun entered hentered id hid => ?_, fun other hother => ?_⟩
    · obtain ⟨node, hnode, rfl⟩ := List.mem_map.mp hentered
      rcases mem_listed_enterFlow hid with hlisted | rfl
      · exact List.mem_append_left _ (h.listed_known node hnode id hlisted)
      · exact List.mem_append_right _ (List.mem_singleton_self _)
    · rcases List.mem_append.mp hother with hold | hsame
      · exact h.target_known other hold
      · rw [List.mem_singleton.mp hsame]
        exact htarget

/-- What every step of a loop keeps, the loop keeps, by induction on the list that it goes
through. -/
theorem foldlM_keeps {α σ ε : Type} {step : σ → α → Except ε σ} {kept : σ → Prop}
    (hstep : ∀ state x next, kept state → step state x = .ok next → kept next) {xs : List α}
    {first last : σ} (hfirst : kept first) (hfold : xs.foldlM step first = .ok last) :
    kept last := by
  induction xs generalizing first with
  | nil =>
    cases hfold
    exact hfirst
  | cons x xs ih =>
    rw [List.foldlM_cons] at hfold
    cases hnext : step first x with
    | error error =>
      rw [hnext] at hfold
      cases hfold
    | ok next =>
      rw [hnext] at hfold
      exact ih (hstep first x next hfirst hnext) hfold

/-- A graph that is assembled is linked, as the empty graph is and as every node and every flow
leaves it. -/
theorem linked_of_assemble {definition : ProcessDefinition}
    (hassemble : assemble definition = .ok graph) : graph.Linked := by
  unfold assemble at hassemble
  cases hnodes : definition.nodes.foldlM ProcessGraph.addNode
      (empty definition.processId definition.name) with
  | error error =>
    rw [hnodes] at hassemble
    cases hassemble
  | ok withNodes =>
    rw [hnodes] at hassemble
    have hlinked : withNodes.Linked :=
      foldlM_keeps (fun _ _ _ h => h.addNode) (linked_empty _ _) hnodes
    exact foldlM_keeps (fun _ _ _ h => h.addFlow) hlinked hassemble

end Steps

section Indexing

variable {graph : ProcessGraph}

/-- Indexing the table of nodes succeeds as a look-up does; they differ only in what a miss comes
to. -/
theorem indexNode_eq_ok_iff {id : String} {node : Node} :
    graph.indexNode id = .ok node ↔ graph.node? id = some node := by
  unfold indexNode
  cases graph.node? id <;> simp

/-- Indexing the table of flows succeeds as a look-up does; they differ only in what a miss comes
to. -/
theorem indexFlow_eq_ok_iff {id : String} {flow : SequenceFlow} :
    graph.indexFlow id = .ok flow ↔ graph.flow? id = some flow := by
  unfold indexFlow
  cases graph.flow? id <;> simp

/-- In a linked graph the table of nodes has an entry under each id of their order, which holds the
ids of the table. -/
theorem Linked.exists_indexNode (h : graph.Linked) {id : String} (hid : id ∈ graph.nodeOrder) :
    ∃ node, graph.indexNode id = .ok node := by
  rw [h.nodeOrder_eq, ← node?_isSome_iff] at hid
  obtain ⟨node, hnode⟩ := Option.isSome_iff_exists.mp hid
  exact ⟨node, indexNode_eq_ok_iff.mpr hnode⟩

/-- In a linked graph the table of flows has an entry under each id of their order, which holds the
ids of the table. -/
theorem Linked.exists_indexFlow (h : graph.Linked) {id : String} (hid : id ∈ graph.flowOrder) :
    ∃ flow, graph.indexFlow id = .ok flow := by
  rw [h.flowOrder_eq, ← flow?_isSome_iff] at hid
  obtain ⟨flow, hflow⟩ := Option.isSome_iff_exists.mp hid
  exact ⟨flow, indexFlow_eq_ok_iff.mpr hflow⟩

/-- In a linked graph the table of flows is indexed with ids of flows without a miss, by induction
on these ids. -/
theorem Linked.exists_markedIds (h : graph.Linked) {ids : List String}
    (hids : ∀ id ∈ ids, id ∈ graph.flowOrder) : ∃ marked, graph.markedIds ids = .ok marked := by
  induction ids with
  | nil => exact ⟨[], rfl⟩
  | cons id rest ih =>
    obtain ⟨hid, hrest⟩ := List.forall_mem_cons.mp hids
    obtain ⟨flow, hflow⟩ := h.exists_indexFlow hid
    obtain ⟨marked, hmarked⟩ := ih hrest
    rw [markedIds, hflow, hmarked]
    exact ⟨_, rfl⟩

/-- In a linked graph the default flows of a node are found without a miss: the node is in its
table, and what it lists are ids of flows. -/
theorem Linked.exists_defaultIds (h : graph.Linked) {id : String} (hid : id ∈ graph.nodeOrder) :
    ∃ defaults, graph.defaultIds id = .ok defaults := by
  obtain ⟨node, hnode⟩ := h.exists_indexNode hid
  have hmem := (mem_of_node? (indexNode_eq_ok_iff.mp hnode)).1
  rw [defaultIds, hnode]
  exact h.exists_markedIds fun flowId hflowId =>
    h.listed_known node hmem flowId (List.mem_append_left _ hflowId)

/-- In a linked graph the check of default flows comes to its end, whether it refuses a node or
not. -/
theorem Linked.exists_checkDefaults (h : graph.Linked) {ids : List String}
    (hids : ∀ id ∈ ids, id ∈ graph.nodeOrder) :
    ∃ checked, graph.checkDefaults ids = .ok checked := by
  induction ids with
  | nil => exact ⟨_, rfl⟩
  | cons id rest ih =>
    obtain ⟨hid, hrest⟩ := List.forall_mem_cons.mp hids
    obtain ⟨defaults, hdefaults⟩ := h.exists_defaultIds hid
    rw [checkDefaults, hdefaults]
    dsimp only [bind, Except.bind]
    split
    · exact ⟨_, rfl⟩
    · exact ih hrest

/-- No definition makes the building of its graph break off at a missing key: what cannot be
assembled is refused before anything is indexed, and what can is linked. -/
theorem exists_tryBuild (definition : ProcessDefinition) :
    ∃ result, tryBuild definition = .ok result := by
  unfold tryBuild
  cases hassemble : assemble definition with
  | error error => exact ⟨_, rfl⟩
  | ok graph =>
    obtain ⟨checked, hchecked⟩ :=
      (linked_of_assemble hassemble).exists_checkDefaults fun _ hid => hid
    dsimp only
    rw [hchecked]
    exact ⟨_, rfl⟩

/-- A missing key is not what building a graph comes to. -/
theorem tryBuild_ne_error (definition : ProcessDefinition) (missing : MissingKey) :
    tryBuild definition ≠ .error missing := by
  obtain ⟨result, hresult⟩ := exists_tryBuild definition
  rw [hresult]
  exact fun h => nomatch h

end Indexing

/-- The graph of a definition, or the error for which the definition is refused. The third outcome,
a missing key, is ruled out by proof. -/
def build (definition : ProcessDefinition) : Except GraphError ProcessGraph :=
  match h : tryBuild definition with
  | .ok result => result
  | .error missing => absurd h (tryBuild_ne_error definition missing)

/-- What building a graph comes to is the graph or the error, so that nothing is lost by leaving the
third outcome out. -/
theorem tryBuild_eq_build (definition : ProcessDefinition) :
    tryBuild definition = .ok (build definition) := by
  unfold build
  split
  · next h => exact h
  · next h => exact absurd h (tryBuild_ne_error definition _)

end ProcessGraph

end CaseRouting
