import CaseRouting.Graph.Build
import CaseRouting.Gateway.Registry
import CaseRouting.Proofs.Outcomes
import Mathlib.Logic.Function.Basic

/-!
# Renaming nodes and flows

The nodes and the flows of a process may be given new ids, those of nodes and those of flows
independently of each other, as long as different ids stay different. A definition is renamed in all
places where it has an id and in no others: names, conditions and details of tasks are no ids. The
graph of a renamed definition is the renamed graph, and the error of a definition that is no graph
is the renamed error.
-/

namespace CaseRouting

/-- New ids for the nodes and the flows of a process. An id of a node and one of a flow may become
the same, as they are never compared. -/
structure Renaming where
  node : String → String
  flow : String → String
  /-- Nodes with different ids get different ids. -/
  node_injective : Function.Injective node
  /-- Flows with different ids get different ids. -/
  flow_injective : Function.Injective flow

/-- A result with its error and its value changed, each by a function of its own. -/
def changeResult {ε α β : Type} (error : ε → ε) (value : α → β) : Except ε α → Except ε β
  | .ok a => .ok (value a)
  | .error e => .error (error e)

/-- The node of a definition with its new id. The name, the kind and the details of a task stay. -/
def NodeDefinition.rename (newId : Renaming) (node : NodeDefinition) : NodeDefinition :=
  { node with id := newId.node node.id }

/-- The flow of a definition with its new id and those of its ends. The condition stays, for it is
no id. -/
def FlowDefinition.rename (newId : Renaming) (flow : FlowDefinition) : FlowDefinition :=
  { flow with
    id := newId.flow flow.id
    source := newId.node flow.source
    target := newId.node flow.target }

/-- The definition with new ids for its nodes and flows, in the same order. The id of the process
stays. -/
def ProcessDefinition.rename (newId : Renaming) (definition : ProcessDefinition) :
    ProcessDefinition :=
  { definition with
    nodes := definition.nodes.map (NodeDefinition.rename newId)
    flows := definition.flows.map (FlowDefinition.rename newId) }

/-- The node with its new id and those of its flows, in the same order. -/
def Node.rename (newId : Renaming) (node : Node) : Node :=
  { node with
    id := newId.node node.id
    incoming := node.incoming.map newId.flow
    outgoing := node.outgoing.map newId.flow }

/-- The flow with its new id and those of its ends, marked as default if it was. -/
def SequenceFlow.rename (newId : Renaming) (flow : SequenceFlow) : SequenceFlow :=
  { flow with
    id := newId.flow flow.id
    source := newId.node flow.source
    target := newId.node flow.target }

/-- The graph with new ids, in its tables as well as in its orders. -/
def ProcessGraph.rename (newId : Renaming) (graph : ProcessGraph) : ProcessGraph :=
  { graph with
    nodeTable := graph.nodeTable.map (Node.rename newId)
    nodeOrder := graph.nodeOrder.map newId.node
    flowTable := graph.flowTable.map (SequenceFlow.rename newId)
    flowOrder := graph.flowOrder.map newId.flow }

/-- The error with new ids, each by what it is the id of. -/
def GraphError.rename (newId : Renaming) : GraphError → GraphError
  | .nodeNotFound id => .nodeNotFound (newId.node id)
  | .flowNotFound id => .flowNotFound (newId.flow id)
  | .duplicateNode nodeId => .duplicateNode (newId.node nodeId)
  | .duplicateFlow flowId => .duplicateFlow (newId.flow flowId)
  | .danglingFlow flowId nodeId => .danglingFlow (newId.flow flowId) (newId.node nodeId)
  | .multipleDefaults nodeId flowIds =>
    .multipleDefaults (newId.node nodeId) (flowIds.map newId.flow)

/-- A renamed node is a gateway if the node is, as its kind stays. -/
@[simp] theorem Node.isGateway_rename (newId : Renaming) (node : Node) :
    (node.rename newId).isGateway = node.isGateway := rfl

/-- A key is found among changed entries where it is found among the entries, if different keys stay
different. -/
theorem find?_map_key {α β : Type} (change : α → β) (key : α → String) (newKey : β → String)
    {rename : String → String} (hinjective : Function.Injective rename)
    (hkey : ∀ x, newKey (change x) = rename (key x)) (xs : List α) (k : String) :
    ((xs.map change).find? fun y => newKey y = rename k) =
      (xs.find? fun x => key x = k).map change := by
  have hsame : ((fun y => decide (newKey y = rename k)) ∘ change) =
      fun x => decide (key x = k) := by
    funext x
    simp [hkey, hinjective.eq_iff]
  rw [List.find?_map, hsame]

/-- A fold over changed entries from a changed start has the changed result, if its steps do, and so
breaks off at the same entry. -/
theorem foldlM_changeResult {ε σ α : Type} {error : ε → ε} {state : σ → σ} {entry : α → α}
    {step : σ → α → Except ε σ}
    (hstep : ∀ s x, step (state s) (entry x) = changeResult error state (step s x)) (s : σ)
    (xs : List α) :
    (xs.map entry).foldlM step (state s) = changeResult error state (xs.foldlM step s) := by
  induction xs generalizing s with
  | nil => rfl
  | cons x xs ih =>
    rw [List.map_cons, List.foldlM_cons, List.foldlM_cons, hstep]
    cases step s x with
    | error e => rfl
    | ok next => exact ih next

namespace ProcessGraph

variable (newId : Renaming) (graph : ProcessGraph)

/-- A renamed node is found by its new id, and the first one that is found is the same. -/
theorem node?_rename (id : String) :
    (graph.rename newId).node? (newId.node id) =
      (graph.node? id).map (Node.rename newId) :=
  find?_map_key (Node.rename newId) Node.id Node.id newId.node_injective (fun _ => rfl)
    graph.nodeTable id

/-- A renamed flow is found by its new id, as a renamed node is. -/
theorem flow?_rename (id : String) :
    (graph.rename newId).flow? (newId.flow id) =
      (graph.flow? id).map (SequenceFlow.rename newId) :=
  find?_map_key (SequenceFlow.rename newId) SequenceFlow.id SequenceFlow.id newId.flow_injective
    (fun _ => rfl) graph.flowTable id

/-- Renamed flows are found by their new ids, and the ids that are passed over are the same. -/
theorem resolveFlows_rename (ids : List String) :
    (graph.rename newId).resolveFlows (ids.map newId.flow) =
      (graph.resolveFlows ids).map (SequenceFlow.rename newId) := by
  unfold resolveFlows
  rw [List.filterMap_map, List.map_filterMap]
  congr 1
  funext id
  exact flow?_rename newId graph id

/-- The renamed flows that leave a node leave it under its new id, in the same order. -/
theorem outgoingFlows_rename (id : String) :
    (graph.rename newId).outgoingFlows (newId.node id) =
      (graph.outgoingFlows id).map (SequenceFlow.rename newId) := by
  unfold outgoingFlows
  rw [node?_rename]
  cases graph.node? id with
  | none => rfl
  | some node => exact resolveFlows_rename newId graph node.outgoing

/-- A renamed node is taken into a renamed graph as the node is taken into the graph, or refused
with the renamed error. -/
theorem addNode_rename (node : NodeDefinition) :
    addNode (graph.rename newId) (node.rename newId) =
      changeResult (GraphError.rename newId) (rename newId) (addNode graph node) := by
  unfold addNode
  have hknown : ((graph.rename newId).node? (node.rename newId).id).isSome =
      (graph.node? node.id).isSome := by
    rw [NodeDefinition.rename, node?_rename, Option.isSome_map]
  by_cases hsome : (graph.node? node.id).isSome = true
  · rw [if_pos (hknown.trans hsome), if_pos hsome]
    rfl
  · rw [if_neg (by rwa [hknown]), if_neg hsome]
    simp [changeResult, rename, NodeDefinition.toNode, NodeDefinition.rename, Node.rename]

/-- A renamed flow is entered into a renamed node as the flow is entered into the node, since ends
that differ still differ. -/
theorem enterFlow_rename (flow : FlowDefinition) (node : Node) :
    enterFlow (flow.rename newId) (node.rename newId) =
      (enterFlow flow node).rename newId := by
  simp only [enterFlow, FlowDefinition.rename, Node.rename, newId.node_injective.eq_iff,
    Node.mk.injEq, true_and, and_true]
  constructor
  · split <;> simp
  · split <;> simp

/-- A renamed flow is taken into a renamed graph as the flow is taken into the graph, or refused
with the renamed error. -/
theorem addFlow_rename (flow : FlowDefinition) :
    addFlow (graph.rename newId) (flow.rename newId) =
      changeResult (GraphError.rename newId) (rename newId) (addFlow graph flow) := by
  have hflow : ((graph.rename newId).flow? (flow.rename newId).id).isSome =
      (graph.flow? flow.id).isSome := by
    rw [FlowDefinition.rename, flow?_rename, Option.isSome_map]
  have hsource : ((graph.rename newId).node? (flow.rename newId).source).isNone =
      (graph.node? flow.source).isNone := by
    rw [FlowDefinition.rename, node?_rename, Option.isNone_map]
  have htarget : ((graph.rename newId).node? (flow.rename newId).target).isNone =
      (graph.node? flow.target).isNone := by
    rw [FlowDefinition.rename, node?_rename, Option.isNone_map]
  have hentered : (graph.rename newId).nodeTable.map (enterFlow (flow.rename newId)) =
      (graph.nodeTable.map (enterFlow flow)).map (Node.rename newId) := by
    rw [rename, List.map_map, List.map_map]
    exact List.map_congr_left fun node _ => enterFlow_rename newId flow node
  unfold addFlow
  rw [hflow, hsource, htarget, hentered]
  split
  · rfl
  · split
    · rfl
    · split
      · rfl
      · simp [changeResult, rename, FlowDefinition.toFlow, FlowDefinition.rename,
          SequenceFlow.rename]

/-- Ids at which the table of flows has default flows are renamed with the flows, if the table has
them all. -/
theorem markedIds_rename {ids marked : List String} (h : graph.markedIds ids = .ok marked) :
    (graph.rename newId).markedIds (ids.map newId.flow) = .ok (marked.map newId.flow) := by
  induction ids generalizing marked with
  | nil =>
    cases h
    rfl
  | cons id rest ih =>
    obtain ⟨flow, hflow, h⟩ := bind_eq_ok_iff.mp h
    obtain ⟨restMarked, hrest, h⟩ := bind_eq_ok_iff.mp h
    have hrenamed : (graph.rename newId).indexFlow (newId.flow id) =
        .ok (flow.rename newId) := by
      rw [indexFlow_eq_ok_iff, flow?_rename, indexFlow_eq_ok_iff.mp hflow, Option.map_some]
    have hmarked : (if flow.isDefault then id :: restMarked else restMarked) = marked :=
      Except.ok.inj h
    rw [List.map_cons, markedIds, hrenamed, ih hrest, ← hmarked, apply_ite (List.map newId.flow)]
    rfl

/-- The default flows of a renamed node are those of the node, under their new ids. -/
theorem defaultIds_rename {nodeId : String} {defaults : List String}
    (h : graph.defaultIds nodeId = .ok defaults) :
    (graph.rename newId).defaultIds (newId.node nodeId) = .ok (defaults.map newId.flow) := by
  obtain ⟨node, hnode, hmarked⟩ := bind_eq_ok_iff.mp h
  have hrenamed : (graph.rename newId).indexNode (newId.node nodeId) =
      .ok (node.rename newId) := by
    rw [indexNode_eq_ok_iff, node?_rename, indexNode_eq_ok_iff.mp hnode, Option.map_some]
  rw [defaultIds, hrenamed]
  exact markedIds_rename newId graph hmarked

/-- Renamed nodes have several default flows where the nodes have, if the check of the nodes comes
to its end. The induction is on the nodes. -/
theorem checkDefaults_rename {nodeIds : List String} {checked : Except GraphError Unit}
    (h : graph.checkDefaults nodeIds = .ok checked) :
    (graph.rename newId).checkDefaults (nodeIds.map newId.node) =
      .ok (changeResult (GraphError.rename newId) id checked) := by
  induction nodeIds with
  | nil =>
    cases h
    rfl
  | cons nodeId rest ih =>
    obtain ⟨defaults, hdefaults, h⟩ := bind_eq_ok_iff.mp h
    rw [List.map_cons, checkDefaults, defaultIds_rename newId graph hdefaults]
    dsimp only [bind, Except.bind]
    rw [List.length_map]
    by_cases hseveral : 1 < defaults.length
    · rw [if_pos hseveral] at h ⊢
      rw [← Except.ok.inj h]
      rfl
    · rw [if_neg hseveral] at h ⊢
      exact ih h

/-- A renamed definition is assembled to the renamed graph, or to the renamed error. -/
theorem assemble_changeResult (definition : ProcessDefinition) :
    assemble (definition.rename newId) =
      changeResult (GraphError.rename newId) (rename newId) (assemble definition) := by
  have hnodes : (definition.nodes.map (NodeDefinition.rename newId)).foldlM addNode
        (empty definition.processId definition.name) =
      changeResult (GraphError.rename newId) (rename newId)
        (definition.nodes.foldlM addNode (empty definition.processId definition.name)) :=
    foldlM_changeResult (addNode_rename newId) (empty definition.processId definition.name)
      definition.nodes
  have hflows (graph : ProcessGraph) :
      (definition.flows.map (FlowDefinition.rename newId)).foldlM addFlow (graph.rename newId) =
        changeResult (GraphError.rename newId) (rename newId)
          (definition.flows.foldlM addFlow graph) :=
    foldlM_changeResult (addFlow_rename newId) graph definition.flows
  unfold assemble
  dsimp only [ProcessDefinition.rename]
  rw [hnodes]
  cases definition.nodes.foldlM addNode (empty definition.processId definition.name) with
  | error error => rfl
  | ok withNodes => exact hflows withNodes

/-- The graph of a renamed definition is the renamed graph, and its error the renamed error:
building a graph compares ids and does nothing else with them. -/
theorem build_changeResult (definition : ProcessDefinition) :
    build (definition.rename newId) =
      changeResult (GraphError.rename newId) (rename newId) (build definition) := by
  have hbuild := tryBuild_eq_build definition
  have hrenamed := tryBuild_eq_build (definition.rename newId)
  unfold tryBuild at hbuild hrenamed
  rw [assemble_changeResult] at hrenamed
  cases hassemble : assemble definition with
  | error error =>
    rw [hassemble] at hbuild hrenamed
    rw [← Except.ok.inj hrenamed, ← Except.ok.inj hbuild]
    rfl
  | ok graph =>
    rw [hassemble] at hbuild hrenamed
    obtain ⟨checked, hchecked⟩ :=
      (linked_of_assemble hassemble).exists_checkDefaults fun _ hid => hid
    have hagain : (graph.rename newId).checkDefaults (graph.rename newId).nodeOrder =
        .ok (changeResult (GraphError.rename newId) id checked) :=
      checkDefaults_rename newId graph hchecked
    dsimp only [changeResult] at hbuild hrenamed
    rw [hchecked] at hbuild
    rw [hagain] at hrenamed
    rw [← Except.ok.inj hrenamed, ← Except.ok.inj hbuild]
    cases checked with
    | error error => rfl
    | ok checked => rfl

end ProcessGraph

end CaseRouting
