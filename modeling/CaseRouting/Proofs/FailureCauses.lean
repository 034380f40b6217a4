import CaseRouting.Proofs.Termination

/-!
# What the errors of a navigation say

The error of a navigation is explained by the graph and the registry. Only an origin that the
process does not have is not found. The node that is named where no flow or several flows are left
is the origin or is reached from it through gateways, and its flows and its filter are as the error
says. A cycle is named by a gateway that lies on one. Nothing is assumed of the filters, which may
answer differently each time, or of the token.
-/

namespace CaseRouting

/-- In a built graph, a default flow among the flows of a node is the default flow of the node, as
there is no second one. -/
theorem ProcessDefinition.WellFormed.defaultFlow?_of_mem {definition : ProcessDefinition}
    (hwell : definition.WellFormed) {id : String} {flow : SequenceFlow}
    (hflow : flow ∈ definition.image.outgoingFlows id) (hdefault : flow.isDefault = true) :
    definition.image.defaultFlow? id = some flow := by
  rw [hwell.outgoingFlows_image] at hflow
  obtain ⟨original, horiginal, rfl⟩ := List.mem_map.mp hflow
  have hmem : original ∈ definition.defaultsFrom id := List.mem_filter.mpr ⟨horiginal, hdefault⟩
  have hlength := hwell.defaultsFrom_length_le id
  rw [hwell.defaultFlow?_image]
  match hdefaults : definition.defaultsFrom id with
  | [] =>
    rw [hdefaults] at hmem
    cases hmem
  | [only] =>
    rw [hdefaults] at hmem
    rw [List.mem_singleton.mp hmem, List.map_singleton]
  | first :: second :: rest =>
    rw [hdefaults, List.length_cons, List.length_cons] at hlength
    omega

namespace Navigator

/-- A node at which a filter is asked: a gateway with several flows for which one is registered. It
is told from the definition and the registry. -/
def Asks (navigator : Navigator) (definition : ProcessDefinition) (node : Node) : Prop :=
  node.isGateway = true ∧ 2 ≤ (definition.flowsFrom node.id).length ∧
    node.id ∈ navigator.registry.filters.map GatewayFilter.gatewayId

/-- Why a navigation of a definition's graph stays at a node. Each error says something different of
the flows and of the filter there. -/
inductive Stuck (navigator : Navigator) (definition : ProcessDefinition)
    (request : NavigationRequest) (node : Node) : NavigationError → Prop where
  /-- A filter has left no flow. -/
  | noneKept (hasks : navigator.Asks definition node) :
    Stuck navigator definition request node (.zeroPaths request.originId node.id)
  /-- Several flows are left, in the order of the definition, and none of them is a default. They
  are all flows of the node, unless a filter has been asked. -/
  | severalKept {kept : List SequenceFlow}
    (hsublist : kept.Sublist ((definition.flowsFrom node.id).map FlowDefinition.toFlow))
    (hdistinct : (kept.map SequenceFlow.id).Nodup) (hseveral : 2 ≤ kept.length)
    (hplain : ∀ flow ∈ kept, flow.isDefault = false)
    (hall : node.isGateway = false ∨
        node.id ∉ navigator.registry.filters.map GatewayFilter.gatewayId →
      kept = (definition.flowsFrom node.id).map FlowDefinition.toFlow) :
    Stuck navigator definition request node
      (.multiplePaths request.originId node.id (kept.map SequenceFlow.id))
  /-- A filter has failed. -/
  | filterFailed (hasks : navigator.Asks definition node) (error : FilterError) :
    Stuck navigator definition request node (.filterFailed error)
  /-- The call has been cancelled while it waited for a filter. -/
  | cancelled (hasks : navigator.Asks definition node) :
    Stuck navigator definition request node .cancelled

/-- What explains the error of a navigation of a definition's graph: a missing origin, a node at
which it stays, or a cycle. -/
inductive Explains (navigator : Navigator) (definition : ProcessDefinition)
    (request : NavigationRequest) : NavigationError → Prop where
  /-- The definition does not have the origin. -/
  | unknownOrigin (hunknown : request.originId ∉ definition.nodeIds) :
    Explains navigator definition request (.nodeNotFound request.originId)
  /-- The navigation stays at a node that is the origin or is reached through gateways. -/
  | stuck {origin node : Node} {error : NavigationError}
    (horigin : navigator.graph.node? request.originId = some origin)
    (hreached : Relation.ReflTransGen navigator.graph.Leads origin node)
    (hstuck : navigator.Stuck definition request node error) :
    Explains navigator definition request error
  /-- The navigation comes back to a gateway that flows lead back to through gateways. -/
  | cycle {origin gateway : Node}
    (horigin : navigator.graph.node? request.originId = some origin)
    (hreached : Relation.ReflTransGen navigator.graph.Leads origin gateway)
    (hgateway : gateway.isGateway = true)
    (hclosed : Relation.TransGen navigator.graph.Leads gateway gateway) :
    Explains navigator definition request (.cycleDetected request.originId gateway.id)

variable {navigator : Navigator} {request : NavigationRequest} {token : Token} {patience : Nat}

/-- A node at which a filter is asked is a gateway and has a filter, so that its flows are not all
kept without asking. -/
theorem Asks.not_unasked {definition : ProcessDefinition} {node : Node}
    (h : navigator.Asks definition node) :
    ¬(node.isGateway = false ∨
      node.id ∉ navigator.registry.filters.map GatewayFilter.gatewayId) := by
  obtain ⟨hgateway, -, hcontains⟩ := h
  simp [hgateway, hcontains]

/-- Candidates leave the choice open if there is none, or if there are several and the default flow
of the node is not among them. -/
theorem decision_eq_error {node : Node} {candidates : List SequenceFlow} {error : NavigationError}
    (h : navigator.decision request node candidates = .error error) :
    candidates = [] ∧ error = .zeroPaths request.originId node.id ∨
      2 ≤ candidates.length ∧
        error = .multiplePaths request.originId node.id (candidates.map SequenceFlow.id) ∧
        ∀ flow ∈ candidates, navigator.graph.defaultFlow? node.id ≠ some flow := by
  unfold decision at h
  split at h
  · cases h
    exact .inl ⟨rfl, rfl⟩
  · cases h
  · next hnonempty hsingle =>
    have hlength : 2 ≤ candidates.length := by
      match candidates with
      | [] => exact (hnonempty rfl).elim
      | [only] => exact (hsingle only rfl).elim
      | first :: second :: rest => simp
    right
    split at h
    · next hnone =>
      cases h
      exact ⟨hlength, rfl, fun flow _ => by simp [hnone]⟩
    · next default hdefault =>
      split at h
      · cases h
      · next hother =>
        cases h
        refine ⟨hlength, rfl, fun flow hflow heq => hother ?_⟩
        rw [hdefault, Option.some.injEq] at heq
        rwa [heq]

/-- A selection that is followed fails by itself if the flow selected leads to a known node, for
then following it cannot fail. -/
theorem eq_error_of_follow {selected : Option (Except NavigationError SequenceFlow)}
    {error : NavigationError}
    (hknown : ∀ chosen, selected = some (.ok chosen) →
      ∃ target, navigator.graph.node? chosen.target = some target)
    (h : navigator.follow selected = .stopped (some (.error error))) :
    selected = some (.error error) := by
  cases selected with
  | none => cases h
  | some result =>
    cases result with
    | error other =>
      cases h
      rfl
    | ok chosen =>
      obtain ⟨target, htarget⟩ := hknown chosen rfl
      rw [follow_of_found htarget] at h
      split at h <;> cases h

/-- A walk ends with its last pass, or with a gateway that this pass enters and that has the id of a
node on the trail. The ids visited are thus those of the trail throughout. -/
theorem walk_ends (navigator : Navigator) (request : NavigationRequest) (token : Token)
    (patience : Nat) (visited : List String) (node : Node) (journey : Journey) :
    visited ⊆ (journey.trail ++ [node]).map Node.id →
      ∃ last earlier ended next,
        (navigator.walk request token patience visited node journey).trail.getLast? = some last ∧
        navigator.pass request token patience last earlier = (ended, next) ∧
        (ended = .stopped
            (navigator.walk request token patience visited node journey).outcome ∨
          ∃ gateway, ended = .entered gateway ∧
            gateway.id ∈ (navigator.walk request token patience visited node
              journey).trail.map Node.id ∧
            (navigator.walk request token patience visited node journey).outcome =
              some (.error (.cycleDetected request.originId gateway.id))) := by
  refine walk_induction ?_ ?_ ?_ visited node journey
  · intro visited node journey outcome next hpass _
    refine ⟨node, journey, _, next, ?_, hpass, .inl rfl⟩
    rw [Journey.ending, (pass_follows hpass).1, List.getLast?_concat]
  · intro visited node journey gateway next hpass hvisited hsubset
    have htrail := (pass_follows hpass).1
    refine ⟨node, journey, _, next, ?_, hpass, .inr ⟨gateway, rfl, ?_, rfl⟩⟩
    · rw [Journey.ending, htrail, List.getLast?_concat]
    · rw [Journey.ending, htrail]
      exact hsubset hvisited
  · intro visited node journey gateway next hpass hnew ih hsubset
    refine ih ?_
    rw [(pass_follows hpass).1, List.map_append, List.map_singleton]
    intro id hid
    rcases List.mem_cons.mp hid with rfl | hid
    · exact List.mem_append_right _ (List.mem_singleton_self _)
    · exact List.mem_append_left _ (hsubset hid)

section Built

variable {definition : ProcessDefinition} {registry : FilterRegistry}

/-- Candidates at a node of a built graph that leave the choice open explain where the navigation
stays: there are none, or several without the default. -/
theorem stuck_of_decideFlow (hwell : definition.WellFormed) {node : Node}
    {kept : List SequenceFlow} {error : NavigationError}
    (hsublist : kept.Sublist (definition.image.outgoingFlows node.id))
    (hnone : kept = [] → (Navigator.mk definition.image registry).Asks definition node)
    (hall : node.isGateway = false ∨ node.id ∉ registry.filters.map GatewayFilter.gatewayId →
      kept = definition.image.outgoingFlows node.id)
    (h : decideFlow request.originId node.id (definition.image.outgoingFlows node.id) kept =
      .error error) :
    (Navigator.mk definition.image registry).Stuck definition request node error := by
  have hkept : ∀ flow ∈ kept, flow ∈ definition.image.outgoingFlows node.id :=
    fun flow hflow => hsublist.subset hflow
  have hdecision : decideFlow request.originId node.id (definition.image.outgoingFlows node.id)
      kept = (Navigator.mk definition.image registry).decision request node kept :=
    decideFlow_eq_decision hwell node hkept
  rw [hdecision] at h
  rcases decision_eq_error h with ⟨hempty, rfl⟩ | ⟨hseveral, rfl, hdefault⟩
  · exact .noneKept (hnone hempty)
  · have hdistinct : (kept.map SequenceFlow.id).Nodup :=
      (hwell.outgoingFlows_ids_nodup node.id).sublist (hsublist.map SequenceFlow.id)
    have hplain : ∀ flow ∈ kept, flow.isDefault = false := fun flow hflow =>
      Bool.eq_false_iff.mpr fun hmarked =>
        hdefault flow hflow (hwell.defaultFlow?_of_mem (hkept flow hflow) hmarked)
    rw [hwell.outgoingFlows_image] at hsublist hall
    exact .severalKept hsublist hdistinct hseveral hplain hall

/-- A call that is due at a node of a built graph is a call of the filter that is asked there, by
the flows of the definition. -/
theorem asks_of_dueCall? (hwell : definition.WellFormed) {node : Node} {call : FilterCall}
    (hdue : (Navigator.mk definition.image registry).dueCall? request node = some call) :
    (Navigator.mk definition.image registry).Asks definition node := by
  rw [dueCall?_image hwell] at hdue
  exact (Option.ite_none_right_eq_some.mp hdue).1

/-- A pass over a node of a built graph that ends with an error stays at the node, whether a filter
has been asked or not. -/
theorem stuck_of_pass (hwell : definition.WellFormed) {node : Node} {journey next : Journey}
    {error : NavigationError}
    (hpass : (Navigator.mk definition.image registry).pass request token patience node journey =
      (.stopped (some (.error error)), next)) :
    (Navigator.mk definition.image registry).Stuck definition request node error := by
  have hknown (chosen : SequenceFlow) (hchosen : chosen ∈ definition.image.outgoingFlows node.id) :
      ∃ target, definition.image.node? chosen.target = some target :=
    hwell.target_known hchosen
  obtain ⟨-, hended, -⟩ | ⟨call, activity, reply, count, hdue, -, hended, -, -⟩ :=
    pass_cases hpass
  · unfold unasked at hended
    split at hended
    · cases hended
    · next only honly =>
      have hselected := eq_error_of_follow (fun chosen hsome => ?_) hended.symm
      · cases hselected
      · cases hsome
        exact hknown only (honly ▸ List.mem_singleton_self only)
    · next hnonempty hseveral =>
      have hselected := eq_error_of_follow (fun chosen hsome => ?_) hended.symm
      · refine stuck_of_decideFlow hwell (List.Sublist.refl _) (fun hempty => ?_) (fun _ => rfl)
          (Option.some.inj hselected)
        exact absurd hempty hnonempty
      · exact hknown chosen (mem_of_decideFlow (fun _ => id) (Option.some.inj hsome))
  · have hasks := asks_of_dueCall? hwell hdue
    rw [offered_of_dueCall? hdue] at hended
    have hsettled := eq_error_of_follow
      (fun chosen hsome => hknown chosen (mem_of_settle hsome)) hended.symm
    unfold settle at hsettled
    split at hsettled
    · cases hsettled
    · cases hsettled
      exact .cancelled hasks
    · next failure =>
      cases hsettled
      exact .filterFailed hasks failure
    · exact stuck_of_decideFlow hwell List.filter_sublist (fun _ => hasks)
        (fun hunasked => (hasks.not_unasked hunasked).elim) (Option.some.inj hsettled)

/-- The error of a navigation of a built graph is explained, by the pass that ends the walk and by
the way to it. -/
theorem explains_of_nextElement (hwell : definition.WellFormed) {error : NavigationError}
    (houtcome : ((Navigator.mk definition.image registry).nextElement request token
      patience).outcome = some (.error error)) :
    (Navigator.mk definition.image registry).Explains definition request error := by
  cases horigin : definition.image.node? request.originId with
  | none =>
    rw [nextElement_of_unknown horigin] at houtcome
    cases houtcome
    exact .unknownOrigin (ProcessDefinition.node?_image_eq_none_iff.mp horigin)
  | some origin =>
    have hrouted : (Navigator.mk definition.image registry).Routed origin
        ((Navigator.mk definition.image registry).nextElement request token patience) :=
      nextElement_routed horigin
    have hroute := hrouted.route
    have hvisited : (if origin.isGateway then [origin.id] else []) ⊆
        (Journey.start.trail ++ [origin]).map Node.id := by
      split
      · exact List.Subset.refl _
      · exact List.nil_subset _
    obtain ⟨last, earlier, ended, next, hlast, hpass, hended⟩ :=
      walk_ends (Navigator.mk definition.image registry) request token patience _ origin .start
        hvisited
    rw [← nextElement_of_known horigin] at hlast hended
    rcases hended with rfl | ⟨gateway, rfl, hrepeated, hcycle⟩
    · rw [houtcome] at hpass
      exact .stuck horigin (hroute.reaches (List.mem_of_getLast? hlast)) (stuck_of_pass hwell hpass)
    · obtain ⟨hknown, hgateway⟩ := pass_entered hpass
      obtain ⟨other, hother, hid⟩ := List.mem_map.mp hrepeated
      have hsame := known_of_mem_trail hother
      rw [hid, hknown, Option.some.injEq] at hsame
      obtain rfl := hsame
      rw [hcycle, Option.some.injEq, Except.error.injEq] at houtcome
      rw [← houtcome]
      exact .cycle horigin (hroute.reaches hother) hgateway
        (hroute.closes hlast (leads_of_pass hpass) hother)

/-- The error of a navigation of a built graph says what the graph and the registry show. Whatever
filters answer and whoever cancels the call, a node is not found exactly if the process does not
have the origin, any other error is explained at a node that is reached from the origin, and where
gateways form no cycle none is detected. -/
theorem nextElement_error_explained {graph : ProcessGraph}
    (hbuild : ProcessGraph.build definition = .ok graph) (registry : FilterRegistry)
    (request : NavigationRequest) (token : Token) (patience : Nat) :
    let outcome := ((Navigator.mk graph registry).nextElement request token patience).outcome
    (∀ id, outcome = some (.error (.nodeNotFound id)) ↔
      request.originId ∉ definition.nodeIds ∧ id = request.originId) ∧
    (∀ error, outcome = some (.error error) →
      (Navigator.mk graph registry).Explains definition request error) ∧
    ((∀ gateway, gateway.isGateway = true → ¬Relation.TransGen graph.Leads gateway gateway) →
      ∀ originId gatewayId, outcome ≠ some (.error (.cycleDetected originId gatewayId))) := by
  intro outcome
  obtain ⟨hwell, rfl⟩ := ProcessGraph.build_eq_ok_iff.mp hbuild
  refine ⟨fun id => ⟨fun houtcome => ?_, ?_⟩, fun error => explains_of_nextElement hwell,
    fun hacyclic originId gatewayId houtcome => ?_⟩
  · cases explains_of_nextElement hwell houtcome with
    | unknownOrigin hunknown => exact ⟨hunknown, rfl⟩
    | stuck horigin hreached hstuck => cases hstuck
  · rintro ⟨hunknown, rfl⟩
    have horigin := ProcessDefinition.node?_image_eq_none_iff.mpr hunknown
    exact congrArg NavigationRun.outcome (nextElement_of_unknown horigin)
  · cases explains_of_nextElement hwell houtcome with
    | stuck horigin hreached hstuck => cases hstuck
    | cycle horigin hreached hgateway hclosed => exact hacyclic _ hgateway hclosed

/-- The filter of checks keeps two flows that are no defaults, given in another order than that of
the definition. -/
def hesitatingFilters : FilterRegistry :=
  ⟨[.byFlowIds "Check" ["recheck", "again"]], List.nodup_singleton _⟩

/-- From the filing of a request, the gateway of checks is reached, which is left undecided. The
flows that are left are those that the filter keeps, in the order of the definition. -/
theorem nextElement_error_explained_requestProcess :
    ProcessGraph.build requestProcess = .ok requestProcess.image ∧
      ((Navigator.mk requestProcess.image hesitatingFilters).nextElement ⟨"File", none, .blank⟩
        .fresh 1).outcome = some (.error (.multiplePaths "File" "Check" ["again", "recheck"])) ∧
      (Navigator.mk requestProcess.image hesitatingFilters).Explains requestProcess
        ⟨"File", none, .blank⟩ (.multiplePaths "File" "Check" ["again", "recheck"]) := by
  have hbuild : ProcessGraph.build requestProcess = .ok requestProcess.image := rfl
  have houtcome : ((Navigator.mk requestProcess.image hesitatingFilters).nextElement
      ⟨"File", none, .blank⟩ .fresh 1).outcome =
        some (.error (.multiplePaths "File" "Check" ["again", "recheck"])) := by
    decide +kernel
  exact ⟨hbuild, houtcome, (nextElement_error_explained hbuild _ _ _ _).2.1 _ houtcome⟩

end Built

end Navigator

end CaseRouting
