import CaseRouting.Proofs.FilterWait
import CaseRouting.Proofs.GraphFidelity

/-!
# The flow selected at a node

Where filters answer as functions of what they are given, and nobody cancels the call, the selection
at a node of a built graph is a function of the node. A single flow is taken without asking. Of
several flows the candidates are those that the filter names, or all where there is no filter; of
several candidates the default flow of the node is taken if it is one of them.
-/

namespace CaseRouting

open OrderedCheck

/-- What a filter answers to the flows offered, the case and the context, if it always answers in
the same way. -/
abbrev AnswerFunction := List SequenceFlow → CaseData → GatewayContext → FilterAnswer

/-- A filter whose calls all answer by a function, within some number of polls, and leave the token
of the navigation alone. -/
structure GatewayFilter.Computes (filter : GatewayFilter) (patience : Nat)
    (answer : AnswerFunction) : Prop where
  /-- Every call is answered in time, and as the function says. -/
  answered : ∀ count offered case context,
    (filter.start count offered case context).answerWithin patience 0 =
      some (answer offered case context)
  /-- No poll cancels the navigation. -/
  quiet : ∀ count offered case context number,
    (filter.start count offered case context number).cancels = false

/-- A registry all of whose filters answer by functions, which are given by their gateways. -/
def FilterRegistry.Computes (registry : FilterRegistry) (patience : Nat)
    (answers : String → AnswerFunction) : Prop :=
  ∀ filter ∈ registry.filters, filter.Computes patience (answers filter.gatewayId)

/-- A registry all of whose filters answer by functions, which are given by their gateways, however
often a call has to be polled. -/
def FilterRegistry.Realizes (registry : FilterRegistry) (answers : String → AnswerFunction) :
    Prop :=
  ∀ filter ∈ registry.filters, ∀ count offered case context,
    (filter.start count offered case context).Returns
      (answers filter.gatewayId offered case context)

/-- The journey behind the wait for a filter, whose call counts if it has been polled. Without a
poll the filter has not been called. -/
def Journey.consult (journey : Journey) (call : FilterCall) (clock : Clock) : Journey :=
  { journey with
    calls :=
      if clock.polls.length = journey.clock.polls.length then journey.calls
      else journey.calls ++ [call]
    clock := clock }

/-- The caller never cancels the token, as it cannot if there is nobody who holds it. -/
def Token.NeverCancelled : Token → Prop
  | .shared cancelledBy => ∀ poll, cancelledBy poll = false
  | .detached => True

namespace Navigator

/-- The candidates at a node with several outgoing flows: at a gateway with a filter, the flows
whose ids occur in its answer, else all. They keep the order of the node. -/
def candidates (navigator : Navigator) (answers : String → AnswerFunction)
    (request : NavigationRequest) (node : Node) : Except FilterError (List SequenceFlow) :=
  let flows := navigator.graph.outgoingFlows node.id
  if node.isGateway = true ∧ node.id ∈ navigator.registry.filters.map GatewayFilter.gatewayId then
    match answers node.id flows request.case (request.context node.id) with
    | .ok answer => .ok (flows.filter fun flow => flow.id ∈ answer.map SequenceFlow.id)
    | .error error => .error error
  else .ok flows

/-- The candidate that is taken: the default flow of the node, if it is one of several, else the
only one. A default that is no candidate decides nothing. -/
def decision (navigator : Navigator) (request : NavigationRequest) (node : Node) :
    List SequenceFlow → Except NavigationError SequenceFlow
  | [] => .error (.zeroPaths request.originId node.id)
  | [only] => .ok only
  | several =>
    match navigator.graph.defaultFlow? node.id with
    | none => .error (.multiplePaths request.originId node.id (several.map SequenceFlow.id))
    | some default =>
      if default ∈ several then .ok default
      else .error (.multiplePaths request.originId node.id (several.map SequenceFlow.id))

/-- The selection at a node that some flow leaves. A single flow is selected without asking any
filter, and several by their candidates. -/
def selection (navigator : Navigator) (answers : String → AnswerFunction)
    (request : NavigationRequest) (node : Node) : Except NavigationError SequenceFlow :=
  match navigator.graph.outgoingFlows node.id with
  | [only] => .ok only
  | _ =>
    match navigator.candidates answers request node with
    | .error error => .error (.filterFailed error)
    | .ok candidates => navigator.decision request node candidates

end Navigator

/-- A flow is taken by default if it is the only one that is marked, wherever among the flows it
stands. -/
theorem singleDefault?_eq_some_iff {flows : List SequenceFlow} {flow : SequenceFlow} :
    singleDefault? flows = some flow ↔ (flows.filter fun flow => flow.isDefault) = [flow] := by
  unfold singleDefault?
  split
  · next only honly => simp [honly]
  · next hother => simpa using hother flow

/-- A filter that answers at once computes its function, whatever the function is. -/
theorem GatewayFilter.Computes.answering (gatewayId : String) (answer : AnswerFunction)
    (patience : Nat) :
    (GatewayFilter.answering gatewayId answer).Computes (patience + 1) answer where
  answered := fun _ _ _ _ => rfl
  quiet := fun _ _ _ _ _ => rfl

/-- A registry of one filter that answers at once computes its function, which is then that of every
gateway. -/
theorem FilterRegistry.Computes.single {gatewayId : String} {answer : AnswerFunction}
    (hdistinct : ([GatewayFilter.answering gatewayId answer].map GatewayFilter.gatewayId).Nodup)
    (patience : Nat) :
    (FilterRegistry.mk [.answering gatewayId answer] hdistinct).Computes (patience + 1)
      fun _ => answer := by
  intro filter hfilter
  rw [List.mem_singleton.mp hfilter]
  exact .answering gatewayId answer patience

/-- A token that the caller never cancels stays live as long as no poll has cancelled it. -/
theorem Token.StaysLive.of_not_cancelled {token : Token} (htoken : token.NeverCancelled)
    {clock : Clock} (hclock : clock.cancelled = false) : token.StaysLive clock.polls := by
  cases token with
  | shared cancelledBy =>
    refine ⟨htoken, fun taken htaken => ?_⟩
    simpa using List.any_eq_false.mp hclock taken htaken
  | detached => trivial

/-- Filters that answer in time answer, since what they return within some patience they return at
all. -/
theorem FilterRegistry.Computes.realizes {registry : FilterRegistry} {patience : Nat}
    {answers : String → AnswerFunction} (h : registry.Computes patience answers) :
    registry.Realizes answers :=
  fun filter hfilter count offered case context =>
    ⟨patience, (h filter hfilter).answered count offered case context⟩

/-- Filters that leave the token alone spare it if the caller does, or if there is no token that
anybody could cancel. -/
theorem FilterRegistry.Computes.spares {registry : FilterRegistry} {patience : Nat}
    {answers : String → AnswerFunction} (h : registry.Computes patience answers) {token : Token}
    (htoken : token.NeverCancelled) : registry.Spares token := by
  cases token with
  | shared cancelledBy => exact ⟨htoken, fun filter hfilter => (h filter hfilter).quiet⟩
  | detached => trivial

namespace FilterRegistry

/-- The strategy of a gateway with a filter is a registered filter of this gateway, not one of
another gateway. -/
theorem mem_of_resolve {registry : FilterRegistry} {gatewayId : String} {filter : GatewayFilter}
    (h : registry.resolve gatewayId = .custom filter) :
    filter ∈ registry.filters ∧ filter.gatewayId = gatewayId := by
  unfold resolve at h
  split at h
  · next found hfound =>
    cases h
    exact ⟨List.mem_of_find?_eq_some hfound, by simpa using List.find?_some hfound⟩
  · cases h

/-- A gateway has a filter exactly when its strategy is not the built-in one, for both ask for the
same filter. -/
theorem contains_eq_true_iff {registry : FilterRegistry} {gatewayId : String} :
    registry.contains gatewayId = true ↔ ∃ filter, registry.resolve gatewayId = .custom filter := by
  unfold contains resolve
  cases registry.filter? gatewayId <;> simp

/-- A gateway has a filter exactly when one has been registered for it, which is how others ask for
a filter without a look-up. -/
theorem contains_iff_mem {registry : FilterRegistry} {gatewayId : String} :
    registry.contains gatewayId = true ↔
      gatewayId ∈ registry.filters.map GatewayFilter.gatewayId := by
  unfold contains filter?
  rw [List.find?_isSome, List.mem_map]
  simp only [decide_eq_true_eq]

end FilterRegistry

namespace ProcessDefinition

variable {definition : ProcessDefinition}

/-- The flows that leave a node of the image have distinct ids, so that a filter names each of them
by its id. -/
theorem WellFormed.outgoingFlows_ids_nodup (hwell : definition.WellFormed) (id : String) :
    ((definition.image.outgoingFlows id).map SequenceFlow.id).Nodup := by
  have hids : ((definition.flowsFrom id).map FlowDefinition.id).Nodup :=
    hwell.flowIds_nodup.sublist (List.filter_sublist.map FlowDefinition.id)
  rw [hwell.outgoingFlows_image, List.map_map]
  exact hids

/-- A flow that leaves a node of the image leads to a node of the image, for the ends of all flows
are known. -/
theorem WellFormed.target_known (hwell : definition.WellFormed) {id : String}
    {flow : SequenceFlow} (hflow : flow ∈ definition.image.outgoingFlows id) :
    ∃ target, definition.image.node? flow.target = some target := by
  rw [hwell.outgoingFlows_image] at hflow
  obtain ⟨original, hmem, rfl⟩ := List.mem_map.mp hflow
  rw [← Option.ne_none_iff_exists', ne_eq, node?_image_eq_none_iff, not_not]
  exact (hwell.ends_known original (List.mem_of_mem_filter hmem)).2

/-- At a node of the image, the flow that is its only default is its first default, as it has no
second one. -/
theorem WellFormed.singleDefault?_outgoingFlows (hwell : definition.WellFormed) (id : String) :
    singleDefault? (definition.image.outgoingFlows id) = definition.image.defaultFlow? id := by
  have hdefaults : (definition.image.outgoingFlows id).filter (fun flow => flow.isDefault) =
      (definition.defaultsFrom id).map FlowDefinition.toFlow := by
    rw [hwell.outgoingFlows_image, List.filter_map]
    rfl
  ext flow
  rw [hwell.defaultFlow?_image, ← hdefaults, singleDefault?_eq_some_iff]

end ProcessDefinition

namespace Navigator

variable {request : NavigationRequest}

/-- A node has no filter to ask unless it is a gateway for which one is registered. A filter of any
other node stays silent. -/
theorem filterAt?_eq_none_iff {navigator : Navigator} {node : Node} :
    navigator.filterAt? node = none ↔
      ¬(node.isGateway = true ∧
        node.id ∈ navigator.registry.filters.map GatewayFilter.gatewayId) := by
  unfold filterAt?
  rw [← FilterRegistry.contains_iff_mem, FilterRegistry.contains_eq_true_iff]
  split
  · next hgateway =>
    split
    · next filter hfilter => simp [hgateway, hfilter]
    · next hbuiltin => simp [hbuiltin]
  · next hgateway => simp [hgateway]

/-- The filter asked at a node is one of the registry that belongs to the node, and the node is a
gateway. -/
theorem mem_of_filterAt? {navigator : Navigator} {node : Node} {filter : GatewayFilter}
    (h : navigator.filterAt? node = some filter) :
    filter ∈ navigator.registry.filters ∧ filter.gatewayId = node.id ∧ node.isGateway = true := by
  unfold filterAt? at h
  split at h
  · next hgateway =>
    split at h
    · next found hfound =>
      cases h
      obtain ⟨hmem, hid⟩ := FilterRegistry.mem_of_resolve hfound
      exact ⟨hmem, hid, hgateway⟩
    · cases h
  · cases h

/-- The filter asked at a node is the one that the registry finds for it, and belongs to it. -/
theorem filter?_of_filterAt? {navigator : Navigator} {node : Node} {filter : GatewayFilter}
    (h : navigator.filterAt? node = some filter) :
    navigator.registry.filter? node.id = some filter ∧ filter.gatewayId = node.id := by
  refine ⟨?_, (mem_of_filterAt? h).2.1⟩
  unfold filterAt? FilterRegistry.resolve at h
  cases hfilter : navigator.registry.filter? node.id with
  | none => simp [hfilter] at h
  | some found =>
    simp only [hfilter, Option.ite_none_right_eq_some, Option.some.injEq] at h
    rw [h.2]

/-- What the reply to a filter call means for the selection. Only an answer is looked at for flows;
the other replies end the navigation or leave it open. -/
def settle (request : NavigationRequest) (node : Node) (flows : List SequenceFlow) :
    Reply → Option (Except NavigationError SequenceFlow)
  | .pending => none
  | .cancelled => some (.error .cancelled)
  | .answered (.error error) => some (.error (.filterFailed error))
  | .answered (.ok answer) =>
    some (decideFlow request.originId node.id flows (keptOf flows answer))

/-- The wait for the next filter call of a journey, whose number is that of the calls before it. -/
def waitFor (token : Token) (patience : Nat) (activity : Activity) (journey : Journey) :
    Reply × Clock :=
  awaitReply token journey.calls.length activity patience 0 journey.clock

/-- The wait for the filter that is asked at a node, which is given the flows, the case and the
context of the node. -/
def ask (request : NavigationRequest) (token : Token) (patience : Nat) (node : Node)
    (flows : List SequenceFlow) (filter : GatewayFilter) (journey : Journey) : Reply × Clock :=
  waitFor token patience
    (filter.start journey.calls.length flows request.case (request.context node.id)) journey

/-- The journey behind the wait for the filter that is asked at a node, with the call as it was
made. -/
def asked (request : NavigationRequest) (node : Node) (flows : List SequenceFlow)
    (filter : GatewayFilter) (journey : Journey) (clock : Clock) : Journey :=
  journey.consult ⟨filter.gatewayId, request.context node.id, flows, request.case⟩ clock

/-- A single flow is taken without asking, also at a gateway with a filter. -/
theorem select_single {navigator : Navigator} {token : Token} {patience : Nat} {node : Node}
    {flow : SequenceFlow} {journey : Journey} :
    navigator.select request token patience node [flow] journey = (some (.ok flow), journey) := rfl

/-- Without a filter to ask, several flows are decided among themselves, and nothing is recorded. -/
theorem select_of_filterAt?_none {navigator : Navigator} {token : Token} {patience : Nat}
    {node : Node} {flows : List SequenceFlow} {journey : Journey}
    (hseveral : ∀ only, flows ≠ [only]) (hfilter : navigator.filterAt? node = none) :
    navigator.select request token patience node flows journey =
      (some (decideFlow request.originId node.id flows flows), journey) := by
  unfold select
  split
  · next only => exact absurd rfl (hseveral only)
  · rw [hfilter]

/-- With a filter to ask, its reply settles the selection, and the journey records what has taken
place of the call. -/
theorem select_of_filterAt?_some {navigator : Navigator} {token : Token} {patience : Nat}
    {node : Node} {flows : List SequenceFlow} {journey : Journey} {filter : GatewayFilter}
    (hseveral : ∀ only, flows ≠ [only]) (hfilter : navigator.filterAt? node = some filter) :
    navigator.select request token patience node flows journey =
      (settle request node flows (ask request token patience node flows filter journey).1,
        asked request node flows filter journey
          (ask request token patience node flows filter journey).2) := by
  unfold select
  split
  · next only => exact absurd rfl (hseveral only)
  · rw [hfilter]
    dsimp only
    unfold ask waitFor
    match awaitReply token journey.calls.length (filter.start journey.calls.length flows
        request.case (request.context node.id)) patience 0 journey.clock with
    | (.pending, clock) => rfl
    | (.cancelled, clock) => rfl
    | (.answered (.error error), clock) => rfl
    | (.answered (.ok answer), clock) => rfl

/-- Deciding among candidates fails only where they leave the choice open: none is left, or several
are without a default. -/
theorem isAmbiguity_of_decideFlow {originId nodeId : String} {flows candidates : List SequenceFlow}
    {error : NavigationError} (h : decideFlow originId nodeId flows candidates = .error error) :
    error.isAmbiguity = true := by
  unfold decideFlow at h
  split at h <;> cases h <;> rfl

/-- Deciding among candidates is not a cancellation. -/
theorem decideFlow_ne_cancelled (originId nodeId : String) (flows candidates : List SequenceFlow) :
    decideFlow originId nodeId flows candidates ≠ .error .cancelled := by
  intro h
  cases isAmbiguity_of_decideFlow h

/-- Only a call that has not been answered leaves the selection open; every other reply settles
it. -/
theorem settle_eq_none_iff {node : Node} {flows : List SequenceFlow} {reply : Reply} :
    settle request node flows reply = none ↔ reply = .pending := by
  unfold settle
  split <;> simp

/-- Only a cancelled wait settles a selection as cancelled, whatever a filter may answer. -/
theorem settle_eq_cancelled_iff {node : Node} {flows : List SequenceFlow} {reply : Reply} :
    settle request node flows reply = some (.error .cancelled) ↔ reply = .cancelled := by
  unfold settle
  split
  · simp
  · simp
  · simp
  · next answer => simp [decideFlow_ne_cancelled]

/-- Only a filter that fails settles a selection as failed by it, and with the error that it
gave. -/
theorem settle_eq_filterFailed_iff {node : Node} {flows : List SequenceFlow} {reply : Reply}
    {error : FilterError} :
    settle request node flows reply = some (.error (.filterFailed error)) ↔
      reply = .answered (.error error) := by
  unfold settle
  split
  · simp
  · simp
  · simp
  · next answer =>
    have hdecided : decideFlow request.originId node.id flows (keptOf flows answer) ≠
        .error (.filterFailed error) := by
      intro h
      cases isAmbiguity_of_decideFlow h
    simp [hdecided]

/-- A selection is made without asking, the same at all times and for all tokens, or it asks a
filter, and then its reply settles the selection. Which of the two depends on the node and its flows
alone. -/
theorem select_cases (navigator : Navigator) (request : NavigationRequest) (node : Node)
    (flows : List SequenceFlow) :
    (∃ result, result ≠ .error .cancelled ∧ ∀ token patience journey,
      navigator.select request token patience node flows journey = (some result, journey)) ∨
    ∃ filter, ∀ token patience journey,
      navigator.select request token patience node flows journey =
        (settle request node flows (ask request token patience node flows filter journey).1,
          asked request node flows filter journey
            (ask request token patience node flows filter journey).2) := by
  by_cases hsingle : ∃ only, flows = [only]
  · obtain ⟨only, rfl⟩ := hsingle
    exact .inl ⟨.ok only, by simp, fun _ _ _ => select_single⟩
  · have hseveral (only : SequenceFlow) : flows ≠ [only] := fun honly => hsingle ⟨only, honly⟩
    cases hfilter : navigator.filterAt? node with
    | none =>
      exact .inl ⟨_, decideFlow_ne_cancelled _ _ _ _,
        fun _ _ _ => select_of_filterAt?_none hseveral hfilter⟩
    | some filter =>
      exact .inr ⟨filter, fun _ _ _ => select_of_filterAt?_some hseveral hfilter⟩

end Navigator

namespace Navigator

variable {definition : ProcessDefinition} {registry : FilterRegistry} {request : NavigationRequest}

/-- At a node of a built graph, the candidates are decided by the default flow of the node: having
its id is being the default flow, as ids are distinct. -/
theorem decideFlow_eq_decision (hwell : definition.WellFormed) (node : Node)
    {candidates : List SequenceFlow}
    (hcandidates : ∀ flow ∈ candidates, flow ∈ definition.image.outgoingFlows node.id) :
    decideFlow request.originId node.id (definition.image.outgoingFlows node.id) candidates =
      (Navigator.mk definition.image registry).decision request node candidates := by
  unfold decideFlow preferDefault decision
  rw [hwell.singleDefault?_outgoingFlows]
  match candidates with
  | [] => cases definition.image.defaultFlow? node.id <;> simp
  | [only] => cases definition.image.defaultFlow? node.id <;> simp
  | first :: second :: rest =>
    cases hdefault : definition.image.defaultFlow? node.id with
    | none => rfl
    | some default =>
      have hflow : default ∈ definition.image.outgoingFlows node.id :=
        List.mem_of_find?_eq_some hdefault
      have hmem : default.id ∈ (first :: second :: rest).map SequenceFlow.id ↔
          default ∈ first :: second :: rest := by
        refine ⟨fun hid => ?_, List.mem_map_of_mem⟩
        obtain ⟨flow, hcandidate, hid⟩ := List.mem_map.mp hid
        rwa [← List.inj_on_of_nodup_map (hwell.outgoingFlows_ids_nodup node.id)
          (hcandidates flow hcandidate) hflow hid]
      by_cases hin : default ∈ first :: second :: rest
      · have hseveral : 1 < (first :: second :: rest).length ∧
            default.id ∈ (first :: second :: rest).map SequenceFlow.id :=
          ⟨by simp, hmem.mpr hin⟩
        simp only [if_pos hseveral, if_pos hin]
      · have hother : ¬(1 < (first :: second :: rest).length ∧
            default.id ∈ (first :: second :: rest).map SequenceFlow.id) :=
          fun h => hin (hmem.mp h.2)
        simp only [if_neg hother, if_neg hin]

/-- Without a filter to ask, all flows are candidates, be the node a gateway or not. -/
theorem candidates_of_filterAt?_none {navigator : Navigator} {answers : String → AnswerFunction}
    {node : Node} (h : navigator.filterAt? node = none) :
    navigator.candidates answers request node = .ok (navigator.graph.outgoingFlows node.id) :=
  if_neg (filterAt?_eq_none_iff.mp h)

/-- With a filter to ask, the candidates are the flows that it names, unless it fails. -/
theorem candidates_of_filterAt?_some {navigator : Navigator} {answers : String → AnswerFunction}
    {node : Node} {filter : GatewayFilter} (h : navigator.filterAt? node = some filter) :
    navigator.candidates answers request node =
      match answers node.id (navigator.graph.outgoingFlows node.id) request.case
        (request.context node.id) with
      | .ok answer => .ok (keptOf (navigator.graph.outgoingFlows node.id) answer)
      | .error error => .error error := by
  have hasked : node.isGateway = true ∧
      node.id ∈ navigator.registry.filters.map GatewayFilter.gatewayId := by
    by_contra hnot
    rw [filterAt?_eq_none_iff.mpr hnot] at h
    cases h
  exact if_pos hasked

/-- Candidates are flows of the node, even if a filter answers with flows of its own making. -/
theorem mem_outgoingFlows_of_candidates {navigator : Navigator}
    {answers : String → AnswerFunction} {node : Node} {candidates : List SequenceFlow}
    (h : navigator.candidates answers request node = .ok candidates) {flow : SequenceFlow}
    (hflow : flow ∈ candidates) : flow ∈ navigator.graph.outgoingFlows node.id := by
  unfold Navigator.candidates at h
  dsimp only at h
  split at h
  · split at h
    · cases h
      exact List.mem_of_mem_filter hflow
    · cases h
  · cases h
    exact hflow

/-- Several flows are selected from by deciding among the candidates, for a single flow is all that
`selection` treats apart. -/
theorem selection_of_several (hwell : definition.WellFormed) (answers : String → AnswerFunction)
    {node : Node} (hseveral : ∀ only, definition.image.outgoingFlows node.id ≠ [only]) :
    (Navigator.mk definition.image registry).selection answers request node =
      match (Navigator.mk definition.image registry).candidates answers request node with
      | .error error => .error (.filterFailed error)
      | .ok candidates =>
        decideFlow request.originId node.id (definition.image.outgoingFlows node.id)
          candidates := by
  unfold selection
  split
  · next only honly => exact absurd honly (hseveral only)
  · cases hcandidates :
      (Navigator.mk definition.image registry).candidates answers request node with
    | error error => rfl
    | ok candidates =>
      refine (decideFlow_eq_decision hwell node fun flow hflow => ?_).symm
      exact mem_outgoingFlows_of_candidates hcandidates hflow

/-- Where filters answer by functions and nobody cancels the call, the flow selected at a node of a
built graph is a function of the node, unless a filter is still suspended. -/
theorem select_eq_selection (hwell : definition.WellFormed) {answers : String → AnswerFunction}
    {token : Token} (hregistry : registry.Realizes answers) (htoken : registry.Spares token)
    (patience : Nat) (node : Node) {journey : Journey}
    (hclock : token.StaysLive journey.clock.polls) :
    ∃ selected clock calls, (Navigator.mk definition.image registry).select request token patience
        node (definition.image.outgoingFlows node.id) journey =
          (selected, ⟨journey.trail, calls, clock⟩) ∧
      token.StaysLive clock.polls ∧
      (selected = none ∨
        selected =
          some ((Navigator.mk definition.image registry).selection answers request node)) := by
  by_cases hsingle : ∃ only, definition.image.outgoingFlows node.id = [only]
  · obtain ⟨only, honly⟩ := hsingle
    have hselection : (Navigator.mk definition.image registry).selection answers request node =
        .ok only := by
      unfold selection
      rw [honly]
    rw [hselection, honly]
    exact ⟨_, journey.clock, journey.calls, rfl, hclock, .inr rfl⟩
  · have hseveral (only : SequenceFlow) : definition.image.outgoingFlows node.id ≠ [only] :=
      fun honly => hsingle ⟨only, honly⟩
    rw [selection_of_several hwell answers hseveral]
    cases hfilter : (Navigator.mk definition.image registry).filterAt? node with
    | none =>
      rw [select_of_filterAt?_none hseveral hfilter, candidates_of_filterAt?_none hfilter]
      exact ⟨_, journey.clock, journey.calls, rfl, hclock, .inr rfl⟩
    | some filter =>
      obtain ⟨hmem, hid, -⟩ := mem_of_filterAt? hfilter
      have hreturns := hregistry filter hmem journey.calls.length
        (definition.image.outgoingFlows node.id) request.case (request.context node.id)
      obtain ⟨count, hafter, -⟩ := awaitReply_spec token journey.calls.length
        (filter.start journey.calls.length (definition.image.outgoingFlows node.id) request.case
          (request.context node.id)) patience 0 journey.clock
      have hlive : token.StaysLive (ask request token patience node
          (definition.image.outgoingFlows node.id) filter journey).2.polls := by
        rw [ask, waitFor, hafter]
        exact hclock.append (htoken.pollsFrom hmem _ _ _ _ _ _ _)
      have hreply := awaitReply_of_staysLive hlive
      rw [select_of_filterAt?_some hseveral hfilter, candidates_of_filterAt?_some hfilter]
      refine ⟨_, _, _, rfl, hlive, ?_⟩
      rw [ask, waitFor, hreply]
      cases hanswer : (filter.start journey.calls.length (definition.image.outgoingFlows node.id)
          request.case (request.context node.id)).answerWithin patience 0 with
      | none => exact .inl rfl
      | some answer =>
        have heq := Activity.Returns.unique ⟨patience, hanswer⟩ hreturns
        rw [hid] at heq
        right
        rw [heq]
        cases answers node.id (definition.image.outgoingFlows node.id) request.case
          (request.context node.id) <;> rfl

end Navigator

end CaseRouting
