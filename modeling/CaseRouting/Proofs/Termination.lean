import CaseRouting.Proofs.CallRecord
import CaseRouting.Proofs.Patience

/-!
# How much a navigation does

Whatever the cycles of a graph and whatever its filters answer, a navigation looks for a way on at
its origin and at each gateway once at most, and calls the filter of each gateway once at most. It
ends if the filter calls that it makes end.
-/

namespace CaseRouting

namespace Navigator

variable {navigator : Navigator} {request : NavigationRequest} {token : Token} {patience : Nat}

/-- A navigation makes one pass more than there are gateways in the table of nodes at most, because
its trail is a route. -/
theorem nextElement_trail_length_le (navigator : Navigator) (request : NavigationRequest)
    (token : Token) (patience : Nat) :
    (navigator.nextElement request token patience).trail.length ≤
      navigator.graph.storedGatewayIds.length + 1 := by
  cases horigin : navigator.graph.node? request.originId with
  | none =>
    rw [nextElement_of_unknown horigin]
    exact Nat.zero_le _
  | some origin => exact ProcessGraph.route_length_le (nextElement_routed horigin).route

/-- Every node that a navigation visits is a node of the graph, found by its own id. -/
theorem known_of_mem_trail {node : Node}
    (hnode : node ∈ (navigator.nextElement request token patience).trail) :
    navigator.graph.node? node.id = some node := by
  cases horigin : navigator.graph.node? request.originId with
  | none =>
    rw [nextElement_of_unknown horigin] at hnode
    cases hnode
  | some origin =>
    have hrouted : navigator.Routed origin (navigator.nextElement request token patience) :=
      nextElement_routed horigin
    have hroute := hrouted.route
    obtain ⟨path, hpath⟩ := List.head?_eq_some_iff.mp hroute.starts
    rw [hpath] at hnode hroute
    rcases List.mem_cons.mp hnode with rfl | hnode
    · rwa [(ProcessGraph.mem_of_node? horigin).2]
    · exact (ProcessGraph.gateways_of_route hroute node hnode).1

/-- Every call of a navigation is for a gateway of the graph, since it is due at a node of the
trail. -/
theorem gatewayId_mem_storedGatewayIds {call : FilterCall}
    (hcall : call ∈ (navigator.nextElement request token patience).calls) :
    call.gatewayId ∈ navigator.graph.storedGatewayIds := by
  have hdue := (navigator.nextElement_calls_sublist request token patience).subset hcall
  obtain ⟨node, hnode, hnodeCall⟩ := List.mem_filterMap.mp hdue
  obtain ⟨hid, hgateway, -⟩ := gatewayId_of_dueCall? hnodeCall
  have hmem := (ProcessGraph.mem_of_node? (known_of_mem_trail hnode)).1
  rw [hid]
  exact List.mem_map_of_mem (List.mem_filter.mpr ⟨hmem, hgateway⟩)

/-- A navigation makes one pass more than there are gateways at most; these are the gateways in the
table of nodes, which in a built graph are those that the graph lists. Only filters of gateways are
polled, each of them in a single call. If every call that is made answers when it is polled often
enough, the navigation ends, and stays as it is with more patience. -/
theorem nextElement_terminates (navigator : Navigator) (request : NavigationRequest)
    (token : Token) :
    (∀ definition, ProcessGraph.build definition = .ok navigator.graph →
      navigator.graph.storedGatewayIds = navigator.graph.gatewayIds) ∧
    (∀ patience, (navigator.nextElement request token patience).trail.length ≤
      navigator.graph.storedGatewayIds.length + 1) ∧
    (∀ patience,
      ((navigator.nextElement request token patience).calls.map FilterCall.gatewayId).Nodup ∧
      (∀ call ∈ (navigator.nextElement request token patience).calls,
        call.gatewayId ∈ navigator.graph.storedGatewayIds) ∧
      ∀ taken ∈ (navigator.nextElement request token patience).polls,
        taken.call < (navigator.nextElement request token patience).calls.length) ∧
    ((∀ patience index call,
        (navigator.nextElement request token patience).calls[index]? = some call →
          ∀ activity, navigator.activity? index call = some activity →
            ∃ answer, activity.Returns answer) →
      ∃ result enough, ∀ patience, enough ≤ patience →
        (navigator.nextElement request token patience).outcome = some result) := by
  refine ⟨fun definition => ProcessGraph.storedGatewayIds_of_build,
    nextElement_trail_length_le navigator request token, fun patience => ?_, fun hends => ?_⟩
  · have hcounted := navigator.nextElement_counted request token patience
    exact ⟨nextElement_calls_nodup navigator request token patience,
      fun call => gatewayId_mem_storedGatewayIds,
      fun taken htaken => (hcounted _).mpr ⟨taken, htaken, rfl⟩⟩
  · obtain ⟨result, enough, hresult⟩ := exists_returns hends
    exact ⟨result, enough, fun patience hle => outcome_of_le hle hresult⟩

end Navigator

end CaseRouting
