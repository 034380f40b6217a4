import CaseRouting.Proofs.FilterCalls
import CaseRouting.Proofs.MaximalChain
import Mathlib.Data.List.Perm.Subperm

/-!
# The route of a navigation

Whatever filters answer and whoever cancels the call, a navigation follows flows of the graph. Its
trail leads from the origin through gateways, none of which it visits twice, and an element that it
returns is reached by a flow from the end of the trail.
-/

namespace CaseRouting

/-- A flow that leaves a node leads to a gateway, which a navigation would enter. -/
def ProcessGraph.Leads (graph : ProcessGraph) (node gateway : Node) : Prop :=
  ∃ flow ∈ graph.outgoingFlows node.id,
    graph.node? flow.target = some gateway ∧ gateway.isGateway = true

/-- A flow that leaves a node leads to an element that is no gateway, which a navigation would
return. -/
def ProcessGraph.Arrives (graph : ProcessGraph) (node element : Node) : Prop :=
  ∃ flow ∈ graph.outgoingFlows node.id,
    graph.node? flow.target = some element ∧ element.isGateway = false

namespace ProcessGraph

variable {graph : ProcessGraph} {origin : Node} {path : List Node}

/-- A gateway that a flow leads to is a gateway of the graph, and is found by its own id. -/
theorem Leads.known {node gateway : Node} (h : graph.Leads node gateway) :
    graph.node? gateway.id = some gateway ∧ gateway.isGateway = true := by
  obtain ⟨flow, -, htarget, hgateway⟩ := h
  rw [(mem_of_node? htarget).2]
  exact ⟨htarget, hgateway⟩

/-- Behind the origin, a route visits gateways of the graph. The origin itself may be any node. -/
theorem gateways_of_route (hroute : IsSimpleChain graph.Leads origin (origin :: path)) :
    ∀ gateway ∈ path, graph.node? gateway.id = some gateway ∧ gateway.isGateway = true := by
  have hlinked := hroute.linked
  clear hroute
  induction path generalizing origin with
  | nil => simp
  | cons next path ih =>
    rw [List.isChain_cons_cons] at hlinked
    intro gateway hgateway
    rcases List.mem_cons.mp hgateway with rfl | hgateway
    · exact hlinked.1.known
    · exact ih hlinked.2 gateway hgateway

/-- The ids of the gateways in the table of nodes. Unlike the list that a graph gives of its
gateways, it does not depend on the order that is kept apart from the table. -/
def storedGatewayIds (graph : ProcessGraph) : List String :=
  (graph.nodeTable.filter Node.isGateway).map Node.id

/-- In the graph of a definition the gateways in the table are those that the graph lists, in the
same order. -/
theorem storedGatewayIds_of_build {definition : ProcessDefinition}
    (hbuild : build definition = .ok graph) : graph.storedGatewayIds = graph.gatewayIds := by
  obtain ⟨hwell, rfl⟩ := build_eq_ok_iff.mp hbuild
  rw [storedGatewayIds, gatewayIds, idsWhere,
    ProcessDefinition.nodes_image hwell.nodeIds_nodup]
  rfl

/-- A route visits one node more than there are gateways in the table of nodes at most, for behind
its origin it visits each of these once only. -/
theorem route_length_le (hroute : IsSimpleChain graph.Leads origin path) :
    path.length ≤ graph.storedGatewayIds.length + 1 := by
  obtain ⟨rest, rfl⟩ := List.head?_eq_some_iff.mp hroute.starts
  have hsubset : rest ⊆ graph.nodeTable.filter Node.isGateway := by
    intro gateway hgateway
    obtain ⟨hknown, hkind⟩ := gateways_of_route hroute gateway hgateway
    exact List.mem_filter.mpr ⟨(mem_of_node? hknown).1, hkind⟩
  have hle := (List.subperm_of_subset (List.nodup_cons.mp hroute.distinct).2 hsubset).length_le
  rw [storedGatewayIds, List.length_map, List.length_cons]
  omega

/-- A route from a node of the graph visits nodes of distinct ids, as nodes of the graph with one id
are the same. -/
theorem route_ids_nodup (horigin : graph.node? origin.id = some origin)
    (hroute : IsSimpleChain graph.Leads origin path) : (path.map Node.id).Nodup := by
  obtain ⟨rest, rfl⟩ := List.head?_eq_some_iff.mp hroute.starts
  have hknown : ∀ node ∈ origin :: rest, graph.node? node.id = some node := by
    intro node hnode
    rcases List.mem_cons.mp hnode with rfl | hnode
    · exact horigin
    · exact (gateways_of_route hroute node hnode).1
  refine List.Nodup.map_on (fun first hfirst second hsecond hid => ?_) hroute.distinct
  have hsame := hknown first hfirst
  rw [hid, hknown second hsecond] at hsame
  exact (Option.some.inj hsame).symm

end ProcessGraph

namespace Navigator

variable {navigator : Navigator} {request : NavigationRequest} {token : Token} {patience : Nat}

/-- A flow that is decided on is one of the flows of its node, as the candidates are. -/
theorem mem_of_decideFlow {originId nodeId : String} {flows candidates : List SequenceFlow}
    (hcandidates : ∀ flow ∈ candidates, flow ∈ flows) {chosen : SequenceFlow}
    (h : decideFlow originId nodeId flows candidates = .ok chosen) : chosen ∈ flows := by
  have hpreferred : ∀ flow ∈ preferDefault flows candidates, flow ∈ flows := by
    unfold preferDefault
    split
    · next default hdefault =>
      split
      · intro flow hflow
        rw [List.mem_singleton.mp hflow]
        unfold singleDefault? at hdefault
        split at hdefault
        · next only honly =>
          cases hdefault
          exact List.mem_of_mem_filter (honly ▸ List.mem_singleton_self default)
        · cases hdefault
      · exact hcandidates
    · exact hcandidates
  unfold decideFlow at h
  split at h
  · next only honly =>
    cases h
    exact hpreferred chosen (honly ▸ List.mem_singleton_self chosen)
  · cases h
  · cases h

/-- A flow that is selected is one of those offered to the filter, whatever flows the filter answers
with. -/
theorem mem_of_settle {node : Node} {flows : List SequenceFlow} {reply : Reply}
    {chosen : SequenceFlow} (h : settle request node flows reply = some (.ok chosen)) :
    chosen ∈ flows := by
  unfold settle at h
  split at h
  · cases h
  · cases h
  · cases h
  · exact mem_of_decideFlow (fun flow => List.mem_of_mem_filter) (Option.some.inj h)

/-- A pass adds its node to the trail. It finds no flow, or it follows a selection among the flows
of the node, whether a filter is asked for it or not. -/
theorem pass_follows {node : Node} {journey next : Journey} {ended : PassEnd}
    (hpass : navigator.pass request token patience node journey = (ended, next)) :
    next.trail = journey.trail ++ [node] ∧
      (ended = .stopped (some (.ok none)) ∨
        ∃ selected, ended = navigator.follow selected ∧
          ∀ chosen, selected = some (.ok chosen) →
            chosen ∈ navigator.graph.outgoingFlows node.id) := by
  obtain ⟨-, rfl, rfl⟩ | ⟨call, activity, reply, count, hdue, -, rfl, rfl, -⟩ := pass_cases hpass
  · refine ⟨rfl, ?_⟩
    unfold unasked
    match navigator.graph.outgoingFlows node.id with
    | [] => exact .inl rfl
    | [only] =>
      refine .inr ⟨_, rfl, fun chosen hchosen => ?_⟩
      cases hchosen
      exact List.mem_singleton_self only
    | first :: second :: rest =>
      refine .inr ⟨_, rfl, fun chosen hchosen => ?_⟩
      exact mem_of_decideFlow (fun flow => id) (Option.some.inj hchosen)
  · refine ⟨rfl, .inr ⟨_, rfl, fun chosen hchosen => ?_⟩⟩
    rw [← offered_of_dueCall? hdue]
    exact mem_of_settle hchosen

/-- The node of a pass is on the trail behind it, however the pass ends. -/
theorem mem_trail_of_pass {node : Node} {journey next : Journey} {ended : PassEnd}
    (hpass : navigator.pass request token patience node journey = (ended, next)) :
    node ∈ next.trail := by
  rw [(pass_follows hpass).1]
  exact List.mem_concat_self

/-- A selection that is followed to a node has chosen a flow to it, and whether the node is a
gateway decides how the pass ends. -/
theorem exists_chosen_of_follow {selected : Option (Except NavigationError SequenceFlow)} :
    (∀ gateway, navigator.follow selected = .entered gateway →
      ∃ chosen, selected = some (.ok chosen) ∧
        navigator.graph.node? chosen.target = some gateway ∧ gateway.isGateway = true) ∧
    ∀ element, navigator.follow selected = .stopped (some (.ok (some element))) →
      ∃ chosen, selected = some (.ok chosen) ∧
        navigator.graph.node? chosen.target = some element ∧ element.isGateway = false := by
  unfold follow
  split
  · simp
  · simp
  · next chosen =>
    split
    · simp
    · next target hfound =>
      have htarget := ProcessGraph.targetNode_eq_ok_iff.mp hfound
      split
      · next hgateway =>
        refine ⟨fun gateway h => ?_, fun element h => (by cases h)⟩
        cases h
        exact ⟨chosen, rfl, htarget, hgateway⟩
      · next hplain =>
        refine ⟨fun gateway h => (by cases h), fun element h => ?_⟩
        cases h
        exact ⟨chosen, rfl, htarget, Bool.eq_false_iff.mpr hplain⟩

/-- A pass that enters a gateway follows a flow to it, one of those that leave the node of the
pass. -/
theorem leads_of_pass {node gateway : Node} {journey next : Journey}
    (hpass : navigator.pass request token patience node journey = (.entered gateway, next)) :
    navigator.graph.Leads node gateway := by
  obtain ⟨-, hnone | ⟨selected, hselected, hchosen⟩⟩ := pass_follows hpass
  · cases hnone
  · obtain ⟨chosen, hsome, htarget⟩ := exists_chosen_of_follow.1 gateway hselected.symm
    exact ⟨chosen, hchosen chosen hsome, htarget⟩

/-- A pass that returns an element follows a flow to it, one of those that leave the node of the
pass. -/
theorem arrives_of_pass {node element : Node} {journey next : Journey}
    (hpass : navigator.pass request token patience node journey =
      (.stopped (some (.ok (some element))), next)) :
    navigator.graph.Arrives node element := by
  obtain ⟨-, hnone | ⟨selected, hselected, hchosen⟩⟩ := pass_follows hpass
  · cases hnone
  · obtain ⟨chosen, hsome, htarget⟩ := exists_chosen_of_follow.2 element hselected.symm
    exact ⟨chosen, hchosen chosen hsome, htarget⟩

/-- The run follows a route from the origin, and an element that it returns is reached by a flow
from the end of the route. -/
structure Routed (navigator : Navigator) (origin : Node) (run : NavigationRun) : Prop where
  /-- The trail is a route. -/
  route : IsSimpleChain navigator.graph.Leads origin run.trail
  /-- An element that is returned is reached from the end of the route. -/
  arrives : ∀ element, run.outcome = some (.ok (some element)) →
    ∃ last, run.trail.getLast? = some last ∧ navigator.graph.Arrives last element

/-- A walk whose trail is a route goes on to follow a route, if the gateways of the trail have been
visited. A gateway that is new is then not on the trail, so that entering it keeps the route
simple. -/
theorem walk_routed (origin : Node) (visited : List String) (node : Node) (journey : Journey) :
    IsSimpleChain navigator.graph.Leads origin (journey.trail ++ [node]) →
      (∀ gateway ∈ journey.trail ++ [node], gateway.isGateway = true → gateway.id ∈ visited) →
      navigator.Routed origin
        (navigator.walk request token patience visited node journey) := by
  refine walk_induction ?_ ?_ ?_ visited node journey
  · intro visited node journey outcome next hpass hroute _
    have htrail := (pass_follows hpass).1
    refine ⟨by rwa [Journey.ending, htrail], fun element houtcome => ?_⟩
    have helement : outcome = some (.ok (some element)) := houtcome
    rw [helement] at hpass
    refine ⟨node, ?_, arrives_of_pass hpass⟩
    rw [Journey.ending, htrail, List.getLast?_concat]
  · intro visited node journey gateway next hpass _ hroute _
    have htrail := (pass_follows hpass).1
    refine ⟨by rwa [Journey.ending, htrail], fun element houtcome => ?_⟩
    cases houtcome
  · intro visited node journey gateway next hpass hnew ih hroute hvisited
    have hleads := leads_of_pass hpass
    rw [(pass_follows hpass).1] at ih
    refine ih (hroute.snoc hleads fun hmem => ?_) fun other hother hgateway => ?_
    · exact hnew (hvisited gateway hmem hleads.known.2)
    · rcases List.mem_append.mp hother with hother | hother
      · exact List.mem_cons_of_mem _ (hvisited other hother hgateway)
      · rw [List.mem_singleton.mp hother]
        exact List.mem_cons_self

/-- A navigation from a node of the graph follows a route, whoever answers and whoever cancels. -/
theorem nextElement_routed {origin : Node}
    (horigin : navigator.graph.node? request.originId = some origin) :
    navigator.Routed origin (navigator.nextElement request token patience) := by
  rw [nextElement_of_known horigin]
  refine walk_routed origin _ origin .start (.singleton _ origin) fun gateway hmem hgateway => ?_
  rw [List.mem_singleton.mp hmem] at hgateway ⊢
  rw [if_pos hgateway]
  exact List.mem_singleton_self origin.id

end Navigator

end CaseRouting
