import CaseRouting.Navigation.Selection

/-!
# Walking to the next element

A navigation starts at the origin and follows the selected flow of each node through any chain of
gateways, until it reaches a node that is no gateway or finds no way forward. A gateway that is
reached a second time ends the walk. The walk therefore ends: every step that goes on leaves one
gateway fewer to be visited.
-/

namespace CaseRouting

/-- A navigation as it took place, with everything that filters saw of it. A caller gets the outcome
alone. -/
structure NavigationRun where
  /-- The next element, or none where no flow leaves; nothing while a filter is suspended. -/
  outcome : Option (Except NavigationError (Option Node))
  /-- The nodes at which the walk looked for a way on, in order. -/
  trail : List Node
  /-- The filter calls, in order. -/
  calls : List FilterCall
  /-- The polls of these calls, in order. -/
  polls : List FilterPoll

/-- The end of a journey, which adds the outcome to what has been recorded. -/
def Journey.ending (journey : Journey) (outcome : Option (Except NavigationError (Option Node))) :
    NavigationRun :=
  ⟨outcome, journey.trail, journey.calls, journey.clock.polls⟩

/-- The entries of the table of nodes whose ids are not among the visited ones. Their number bounds
the gateways that the walk may still enter. -/
def ProcessGraph.unvisited (graph : ProcessGraph) (visited : List String) : List Node :=
  graph.nodeTable.filter fun node => node.id ∉ visited

/-- Visiting a node of the graph for the first time leaves fewer unvisited nodes, which is why the
walk ends. -/
theorem ProcessGraph.unvisited_lt {graph : ProcessGraph} {visited : List String} {id : String}
    {node : Node} (hnode : graph.node? id = some node) (hnew : node.id ∉ visited) :
    (graph.unvisited (node.id :: visited)).length < (graph.unvisited visited).length := by
  have hmem : node ∈ graph.unvisited visited :=
    List.mem_filter.2 ⟨List.mem_of_find?_eq_some hnode, by simpa using hnew⟩
  have hsplit : graph.unvisited (node.id :: visited) =
      (graph.unvisited visited).filter fun other => other.id ≠ node.id := by
    unfold ProcessGraph.unvisited
    rw [List.filter_filter]
    congr 1
    funext other
    simp [not_or]
  rw [hsplit]
  exact List.length_filter_lt_length_iff_exists.2 ⟨node, hmem, by simp⟩

/-- Walks on from a node, of which and of the gateways before it the ids are given if they are
gateways. The walk ends at a node that is no gateway, but only if it does not begin there. -/
def Navigator.walk (navigator : Navigator) (request : NavigationRequest) (token : Token)
    (patience : Nat) (visited : List String) (node : Node) (journey : Journey) : NavigationRun :=
  let flows := navigator.graph.outgoingFlows node.id
  let journey := { journey with trail := journey.trail ++ [node] }
  if flows.isEmpty then journey.ending (some (.ok none))
  else
    let selected := navigator.select request token patience node flows journey
    match selected.1 with
    | none => selected.2.ending none
    | some (.error error) => selected.2.ending (some (.error error))
    | some (.ok chosen) =>
      match _htarget : navigator.graph.targetNode chosen with
      | .error _ => selected.2.ending (some (.error (.nodeNotFound chosen.target)))
      | .ok target =>
        if target.isGateway then
          if _hvisited : target.id ∈ visited then
            selected.2.ending (some (.error (.cycleDetected request.originId target.id)))
          else
            navigator.walk request token patience (target.id :: visited) target selected.2
        else selected.2.ending (some (.ok (some target)))
termination_by (navigator.graph.unvisited visited).length
decreasing_by
  exact ProcessGraph.unvisited_lt (ProcessGraph.targetNode_eq_ok_iff.mp _htarget) _hvisited

/-- Finds the next element for a case. Each filter call is polled at most `patience` times, and a
navigation that this cuts off has no outcome. -/
def Navigator.nextElement (navigator : Navigator) (request : NavigationRequest) (token : Token)
    (patience : Nat) : NavigationRun :=
  match navigator.graph.node request.originId with
  | .error _ => Journey.start.ending (some (.error (.nodeNotFound request.originId)))
  | .ok origin =>
    navigator.walk request token patience (if origin.isGateway then [origin.id] else []) origin
      .start

end CaseRouting
