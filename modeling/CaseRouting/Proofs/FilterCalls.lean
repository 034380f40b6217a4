import CaseRouting.Proofs.FlowSelection
import CaseRouting.Proofs.WalkPasses

/-!
# The filter call of a pass

A pass calls a filter where its node is a gateway with several flows for which a filter is
registered, and nowhere else. Where it calls none, it leads to the same end at all times and for all
tokens. Where it calls one, the reply settles where it leads, and the call is recorded with its
polls.
-/

namespace CaseRouting

namespace Navigator

/-- The filter call that is due at a node: that of its filter, if it is a gateway with several
flows. It is told without any journey, and offers the flows in the order of the node. -/
def dueCall? (navigator : Navigator) (request : NavigationRequest) (node : Node) :
    Option FilterCall :=
  let flows := navigator.graph.outgoingFlows node.id
  if node.isGateway = true ∧ 2 ≤ flows.length ∧
      node.id ∈ navigator.registry.filters.map GatewayFilter.gatewayId then
    some ⟨node.id, ⟨node.id, request.originId, request.action⟩, flows, request.case⟩
  else none

/-- Where a pass leads that calls no filter: to the end, along the only flow, or along the one that
the default flow leaves. -/
def unasked (navigator : Navigator) (request : NavigationRequest) (node : Node) : PassEnd :=
  match navigator.graph.outgoingFlows node.id with
  | [] => .stopped (some (.ok none))
  | [only] => navigator.follow (some (.ok only))
  | flows => navigator.follow (some (decideFlow request.originId node.id flows flows))

/-- The activity of the filter registered for the gateway of a call, which is the call of the
navigation with the given number. -/
def activity? (navigator : Navigator) (number : Nat) (call : FilterCall) : Option Activity :=
  (navigator.registry.filter? call.gatewayId).map fun filter =>
    filter.start number call.offered call.case call.context

variable {navigator : Navigator} {request : NavigationRequest} {token : Token} {patience : Nat}
  {node : Node}

/-- The activity of a call is started by a filter that is registered for its gateway, from what the
call says. -/
theorem exists_filter_of_activity? {number : Nat} {call : FilterCall} {activity : Activity}
    (h : navigator.activity? number call = some activity) :
    ∃ filter ∈ navigator.registry.filters, filter.gatewayId = call.gatewayId ∧
      activity = filter.start number call.offered call.case call.context := by
  obtain ⟨filter, hfilter, rfl⟩ := Option.map_eq_some_iff.mp h
  exact ⟨filter, List.mem_of_find?_eq_some hfilter, by simpa using List.find?_some hfilter, rfl⟩

/-- The call that is due at a node is for this node, which is a gateway with a filter of its own. -/
theorem gatewayId_of_dueCall? {call : FilterCall}
    (h : navigator.dueCall? request node = some call) :
    call.gatewayId = node.id ∧ node.isGateway = true ∧
      node.id ∈ navigator.registry.filters.map GatewayFilter.gatewayId := by
  unfold dueCall? at h
  dsimp only at h
  split at h
  · next hdue =>
    cases h
    exact ⟨rfl, hdue.1, hdue.2.2⟩
  · cases h

/-- The call that is due at a node offers all flows of the node, in their order. -/
theorem offered_of_dueCall? {call : FilterCall} (h : navigator.dueCall? request node = some call) :
    call.offered = navigator.graph.outgoingFlows node.id := by
  unfold dueCall? at h
  dsimp only at h
  split at h
  · cases h
    rfl
  · cases h

/-- A call is due only where several flows leave a node, for otherwise there is nothing to
choose. -/
theorem two_le_of_dueCall? {call : FilterCall} (h : navigator.dueCall? request node = some call) :
    2 ≤ (navigator.graph.outgoingFlows node.id).length := by
  unfold dueCall? at h
  dsimp only at h
  split at h
  · next hdue => exact hdue.2.1
  · cases h

/-- A pass without a call that is due leads where it does without asking, and records its node
only. -/
theorem pass_of_dueCall?_none (h : navigator.dueCall? request node = none) (journey : Journey) :
    navigator.pass request token patience node journey =
      (navigator.unasked request node, journey.visit node) := by
  unfold dueCall? at h
  unfold pass unasked
  dsimp only at h ⊢
  match hflows : navigator.graph.outgoingFlows node.id with
  | [] => rfl
  | [only] => rfl
  | first :: second :: rest =>
    have hfilter : navigator.filterAt? node = none := by
      rw [filterAt?_eq_none_iff]
      rintro ⟨hgateway, hcontains⟩
      rw [hflows, if_pos ⟨hgateway, by simp, hcontains⟩] at h
      cases h
    have hselect : navigator.select request token patience node (first :: second :: rest)
        (journey.visit node) =
        (some (decideFlow request.originId node.id (first :: second :: rest)
          (first :: second :: rest)), journey.visit node) :=
      select_of_filterAt?_none (by simp) hfilter
    rw [hselect]
    rfl

/-- A pass with a call that is due leads where the reply of the filter says. The activity is the
same for all tokens and however patient the navigation is. -/
theorem pass_of_dueCall?_some {call : FilterCall}
    (h : navigator.dueCall? request node = some call) (journey : Journey) :
    ∃ activity, navigator.activity? journey.calls.length call = some activity ∧
      ∀ token patience, navigator.pass request token patience node journey =
        (navigator.follow
            (settle request node call.offered (waitFor token patience activity journey).1),
          (journey.visit node).consult call (waitFor token patience activity journey).2) := by
  unfold dueCall? at h
  dsimp only at h
  split at h
  · next hdue =>
    cases h
    obtain ⟨hgateway, hlength, hcontains⟩ := hdue
    cases hfilter : navigator.filterAt? node with
    | none => exact absurd ⟨hgateway, hcontains⟩ (filterAt?_eq_none_iff.mp hfilter)
    | some filter =>
      obtain ⟨hregistered, hid⟩ := filter?_of_filterAt? hfilter
      refine ⟨_, congrArg (Option.map _) hregistered, fun token patience => ?_⟩
      have hseveral (only : SequenceFlow) : navigator.graph.outgoingFlows node.id ≠ [only] := by
        intro honly
        rw [honly] at hlength
        simp at hlength
      have hsome : ¬(navigator.graph.outgoingFlows node.id).isEmpty = true := by
        rw [List.isEmpty_iff_length_eq_zero]
        omega
      unfold pass
      dsimp only
      rw [if_neg hsome, select_of_filterAt?_some hseveral hfilter, asked, hid]
      rfl
  · cases h

/-- What a pass with a call that is due does. It records polls of the filter, and the call if there
has been a poll. Either the token is cancelled behind these polls, or the answer of the filter
settles where the pass leads. -/
theorem pass_of_call {call : FilterCall} (h : navigator.dueCall? request node = some call)
    (token : Token) (patience : Nat) (journey : Journey) :
    ∃ activity reply count, navigator.activity? journey.calls.length call = some activity ∧
      navigator.pass request token patience node journey =
        (navigator.follow (settle request node call.offered reply),
          ⟨journey.trail ++ [node], if count = 0 then journey.calls else journey.calls ++ [call],
            ⟨journey.clock.polls ++ activity.pollsFrom journey.calls.length 0 count⟩⟩) ∧
      (reply = .cancelled ∧ Clock.isCancelled
            ⟨journey.clock.polls ++ activity.pollsFrom journey.calls.length 0 count⟩ token = true ∨
        reply = .ofAnswer (activity.answerWithin patience 0) ∧ (0 < patience → 0 < count)) := by
  obtain ⟨activity, hactivity, hpass⟩ := pass_of_dueCall?_some h journey
  obtain ⟨count, hclock, hreply⟩ :=
    awaitReply_spec token journey.calls.length activity patience 0 journey.clock
  refine ⟨activity, (waitFor token patience activity journey).1, count, hactivity, ?_, ?_⟩
  · rw [hpass token patience, waitFor, hclock, Journey.consult]
    simp [Journey.visit, Activity.length_pollsFrom]
  · rw [hclock] at hreply
    exact hreply

/-- A pass calls no filter, or it calls the one that is due. This says all that a pass can do, and
its two cases are what proofs about passes go by. -/
theorem pass_cases {journey next : Journey} {ended : PassEnd}
    (hpass : navigator.pass request token patience node journey = (ended, next)) :
    (navigator.dueCall? request node = none ∧ ended = navigator.unasked request node ∧
        next = journey.visit node) ∨
      ∃ call activity reply count, navigator.dueCall? request node = some call ∧
        navigator.activity? journey.calls.length call = some activity ∧
        ended = navigator.follow (settle request node call.offered reply) ∧
        next = ⟨journey.trail ++ [node],
          if count = 0 then journey.calls else journey.calls ++ [call],
          ⟨journey.clock.polls ++ activity.pollsFrom journey.calls.length 0 count⟩⟩ ∧
        (reply = .cancelled ∧ next.clock.isCancelled token = true ∨
          reply = .ofAnswer (activity.answerWithin patience 0) ∧ (0 < patience → 0 < count)) := by
  cases hdue : navigator.dueCall? request node with
  | none =>
    rw [pass_of_dueCall?_none hdue, Prod.mk.injEq] at hpass
    exact .inl ⟨rfl, hpass.1.symm, hpass.2.symm⟩
  | some call =>
    obtain ⟨activity, reply, count, hactivity, heq, hreply⟩ :=
      pass_of_call hdue token patience journey
    rw [heq, Prod.mk.injEq] at hpass
    obtain ⟨rfl, rfl⟩ := hpass
    exact .inr ⟨call, activity, reply, count, rfl, hactivity, rfl, rfl, hreply⟩

/-- A pass that calls no filter fails only where flows leave the choice open or lead nowhere, and
never as cancelled or by a filter. -/
theorem unasked_eq_error {error : NavigationError}
    (h : navigator.unasked request node = .stopped (some (.error error))) :
    error.isAmbiguity = true ∨ ∃ id, error = .nodeNotFound id := by
  unfold unasked at h
  split at h
  · cases h
  · refine (follow_eq_error h).imp_left fun honly => ?_
    cases honly
  · refine (follow_eq_error h).imp_left fun hdecided => ?_
    exact isAmbiguity_of_decideFlow (Option.some.inj hdecided)

end Navigator

end CaseRouting
