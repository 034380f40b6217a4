import CaseRouting.Navigation.Walk
import CaseRouting.Proofs.GraphFidelity

/-!
# Passes of a walk

A walk repeats one pass: it looks for the flows of a node, selects one of them and looks where it
leads. The pass is separated here from the loop around it, which only remembers the gateways that
have been visited. What every pass keeps, every walk keeps.
-/

namespace CaseRouting

/-- How a pass of a walk ends: with the walk, or at a gateway that is next if it has not been
visited. -/
inductive PassEnd where
  /-- The walk stops. -/
  | stopped (outcome : Option (Except NavigationError (Option Node)))
  /-- The selected flow leads to a gateway. -/
  | entered (gateway : Node)

/-- The journey with one more node on its trail, as every pass begins. -/
def Journey.visit (journey : Journey) (node : Node) : Journey :=
  { journey with trail := journey.trail ++ [node] }

/-- What holds of visited gateways if it holds with one more of them, holds of all. The induction is
on the number of nodes that are left to be visited, of which every new gateway leaves one fewer. -/
@[elab_as_elim]
theorem ProcessGraph.visited_induction (graph : ProcessGraph) {motive : List String → Prop}
    (step : ∀ visited, (∀ gateway : Node, graph.node? gateway.id = some gateway →
      gateway.id ∉ visited → motive (gateway.id :: visited)) → motive visited)
    (visited : List String) : motive visited := by
  induction hsize : (graph.unvisited visited).length using Nat.strongRecOn
    generalizing visited with
  | ind size ih =>
    subst hsize
    exact step visited fun gateway hknown hnew =>
      ih _ (ProcessGraph.unvisited_lt hknown hnew) (gateway.id :: visited) rfl

namespace Navigator

/-- Where a selection leads: nowhere if it is open or has failed, to a gateway, or to an element
that ends the walk. -/
def follow (navigator : Navigator) : Option (Except NavigationError SequenceFlow) → PassEnd
  | none => .stopped none
  | some (.error error) => .stopped (some (.error error))
  | some (.ok chosen) =>
    match navigator.graph.targetNode chosen with
    | .error _ => .stopped (some (.error (.nodeNotFound chosen.target)))
    | .ok target =>
      if target.isGateway then .entered target else .stopped (some (.ok (some target)))

/-- One pass of a walk, which knows nothing of the gateways that have been visited. -/
def pass (navigator : Navigator) (request : NavigationRequest) (token : Token) (patience : Nat)
    (node : Node) (journey : Journey) : PassEnd × Journey :=
  let flows := navigator.graph.outgoingFlows node.id
  if flows.isEmpty then (.stopped (some (.ok none)), journey.visit node)
  else
    let selected := navigator.select request token patience node flows (journey.visit node)
    (navigator.follow selected.1, selected.2)

/-- Goes on behind a pass, which is from a gateway that is entered for the first time. The outcome
of a pass that has stopped is that of the walk. -/
def resume (navigator : Navigator) (request : NavigationRequest) (token : Token) (patience : Nat)
    (visited : List String) : PassEnd × Journey → NavigationRun
  | (.stopped outcome, next) => next.ending outcome
  | (.entered gateway, next) =>
    if gateway.id ∈ visited then
      next.ending (some (.error (.cycleDetected request.originId gateway.id)))
    else navigator.walk request token patience (gateway.id :: visited) gateway next

variable {navigator : Navigator} {request : NavigationRequest} {token : Token} {patience : Nat}

/-- A flow whose target is found leads there: a walk enters it if it is a gateway, and else stops
with it. -/
theorem follow_of_found {chosen : SequenceFlow} {target : Node}
    (htarget : navigator.graph.node? chosen.target = some target) :
    navigator.follow (some (.ok chosen)) =
      if target.isGateway then .entered target else .stopped (some (.ok (some target))) := by
  dsimp only [follow]
  rw [ProcessGraph.targetNode_eq_ok_iff.mpr htarget]

/-- A flow whose target is not found ends a walk with an error that names the target. -/
theorem follow_of_lost {chosen : SequenceFlow}
    (hlost : navigator.graph.node? chosen.target = none) :
    navigator.follow (some (.ok chosen)) =
      .stopped (some (.error (.nodeNotFound chosen.target))) := by
  have htarget : navigator.graph.targetNode chosen = .error (.nodeNotFound chosen.target) :=
    ProcessGraph.node_eq_error_iff.mpr ⟨hlost, rfl⟩
  dsimp only [follow]
  rw [htarget]

/-- A gateway that a selection leads to is a gateway of the graph, found by its own id. -/
theorem follow_entered {selected : Option (Except NavigationError SequenceFlow)} {gateway : Node}
    (h : navigator.follow selected = .entered gateway) :
    navigator.graph.node? gateway.id = some gateway ∧ gateway.isGateway = true := by
  unfold follow at h
  split at h
  · cases h
  · cases h
  · next chosen =>
    split at h
    · cases h
    · next target htarget =>
      split at h
      · next hgateway =>
        cases h
        have hfound := ProcessGraph.targetNode_eq_ok_iff.mp htarget
        rw [(ProcessGraph.mem_of_node? hfound).2]
        exact ⟨hfound, hgateway⟩
      · cases h

/-- A selection that leads nowhere is one that has not been made, as its filter is still
suspended. -/
theorem follow_eq_pending {selected : Option (Except NavigationError SequenceFlow)}
    (h : navigator.follow selected = .stopped none) : selected = none := by
  unfold follow at h
  split at h
  · rfl
  · cases h
  · split at h
    · cases h
    · split at h <;> cases h

/-- A walk fails as the selection does, or at a flow without a target. Nothing else can go wrong
behind a selection. -/
theorem follow_eq_error {selected : Option (Except NavigationError SequenceFlow)}
    {error : NavigationError} (h : navigator.follow selected = .stopped (some (.error error))) :
    selected = some (.error error) ∨ ∃ id, error = .nodeNotFound id := by
  unfold follow at h
  split at h
  · cases h
  · cases h
    exact .inl rfl
  · split at h
    · cases h
      exact .inr ⟨_, rfl⟩
    · split at h <;> cases h

/-- A gateway that a pass enters is a gateway of the graph, as the target of every flow that is
followed is a node of it. -/
theorem pass_entered {node gateway : Node} {journey next : Journey}
    (h : navigator.pass request token patience node journey = (.entered gateway, next)) :
    navigator.graph.node? gateway.id = some gateway ∧ gateway.isGateway = true := by
  unfold pass at h
  dsimp only at h
  split at h
  · cases h
  · exact follow_entered (congrArg Prod.fst h)

/-- A navigation from an unknown node does nothing: no node is visited and no filter is called. -/
theorem nextElement_of_unknown (horigin : navigator.graph.node? request.originId = none) :
    navigator.nextElement request token patience =
      Journey.start.ending (some (.error (.nodeNotFound request.originId))) := by
  unfold nextElement
  rw [ProcessGraph.node_eq_error_iff.mpr ⟨horigin, rfl⟩]

/-- A navigation from a node of the graph walks on from it, and counts the node as visited if it is
a gateway. -/
theorem nextElement_of_known {origin : Node}
    (horigin : navigator.graph.node? request.originId = some origin) :
    navigator.nextElement request token patience =
      navigator.walk request token patience (if origin.isGateway then [origin.id] else []) origin
        .start := by
  unfold nextElement
  rw [ProcessGraph.node_eq_ok_iff.mpr horigin]

/-- A walk makes a pass and goes on behind it. By this equation the recursion of the walk need not
be opened anywhere else. -/
theorem walk_eq (visited : List String) (node : Node) (journey : Journey) :
    navigator.walk request token patience visited node journey =
      navigator.resume request token patience visited
        (navigator.pass request token patience node journey) := by
  rw [walk]
  unfold pass
  dsimp only [Journey.visit]
  by_cases hnone : (navigator.graph.outgoingFlows node.id).isEmpty = true
  · rw [if_pos hnone, if_pos hnone]
    rfl
  · rw [if_neg hnone, if_neg hnone]
    dsimp only [follow]
    cases (navigator.select request token patience node (navigator.graph.outgoingFlows node.id)
        ⟨journey.trail ++ [node], journey.calls, journey.clock⟩).1 with
    | none => rfl
    | some selected =>
      cases selected with
      | error error => rfl
      | ok chosen =>
        dsimp only
        split
        · next hunknown =>
          rw [hunknown]
          rfl
        · next target htarget =>
          rw [htarget]
          dsimp only
          by_cases hgateway : target.isGateway = true
          · rw [if_pos hgateway, if_pos hgateway]
            dsimp only [resume]
            by_cases hvisited : target.id ∈ visited
            · rw [dif_pos hvisited, if_pos hvisited]
            · rw [dif_neg hvisited, if_neg hvisited]
          · rw [if_neg hgateway, if_neg hgateway]
            rfl

/-- A property of walks that holds of those that stop, of those that come back to a gateway, and of
those that go on from a gateway for which it holds, holds of every walk. -/
@[elab_as_elim]
theorem walk_induction {motive : List String → Node → Journey → NavigationRun → Prop}
    (stopped : ∀ visited node journey outcome next,
      navigator.pass request token patience node journey = (.stopped outcome, next) →
      motive visited node journey (next.ending outcome))
    (repeated : ∀ visited node journey gateway next,
      navigator.pass request token patience node journey = (.entered gateway, next) →
      gateway.id ∈ visited →
      motive visited node journey
        (next.ending (some (.error (.cycleDetected request.originId gateway.id)))))
    (onward : ∀ visited node journey gateway next,
      navigator.pass request token patience node journey = (.entered gateway, next) →
      gateway.id ∉ visited →
      motive (gateway.id :: visited) gateway next
        (navigator.walk request token patience (gateway.id :: visited) gateway next) →
      motive visited node journey
        (navigator.walk request token patience (gateway.id :: visited) gateway next))
    (visited : List String) (node : Node) (journey : Journey) :
    motive visited node journey
      (navigator.walk request token patience visited node journey) := by
  induction visited using ProcessGraph.visited_induction navigator.graph
    generalizing node journey with
  | step visited ih =>
    rw [walk_eq]
    match hpass : navigator.pass request token patience node journey with
    | (.stopped outcome, next) => exact stopped visited node journey outcome next hpass
    | (.entered gateway, next) =>
      dsimp only [resume]
      split
      · next hvisited => exact repeated visited node journey gateway next hpass hvisited
      · next hnew =>
        exact onward visited node journey gateway next hpass hnew
          (ih gateway (pass_entered hpass).1 hnew gateway next)

end Navigator

end CaseRouting
