import CaseRouting.Proofs.Renaming
import CaseRouting.Proofs.ResolvedPath
import CaseRouting.Proofs.RoutingRules

/-!
# Navigations know ids by nothing but equality

Where a graph, the filters of its gateways, the case and the origin are renamed alike, a navigation
does what it did before, under the new ids: it visits the same nodes, makes the same calls at the
same polls and ends in the same way, with the candidates of an open choice in the same order. The
texts set on a case are ids of flows for the filters that go by them, and are renamed as such.
-/

namespace CaseRouting

variable (newId : Renaming)

/-- The dictionary with its values changed. Its keys stay, and with them the order. -/
def Dictionary.map {α β : Type} (change : α → β) (d : Dictionary α) : Dictionary β :=
  ⟨d.entries.map fun entry => (entry.1, change entry.2), by
    unfold Ascending
    rw [List.pairwise_map]
    exact d.ascending⟩

/-- The case with the texts set on it renamed as ids of flows, as filters may take them for such. -/
def CaseData.rename (case : CaseData) : CaseData :=
  { case with dataValues := case.dataValues.map newId.flow }

/-- The rule with new ids. Keys and actions are no ids, and stay. -/
def RoutingRule.rename : RoutingRule → RoutingRule
  | .dataValue key => .dataValue key
  | .action => .action
  | .flowIds ids => .flowIds (ids.map newId.flow)

/-- The request from the renamed origin, with the same action and the renamed case. -/
def NavigationRequest.rename (request : NavigationRequest) : NavigationRequest :=
  { request with originId := newId.node request.originId, case := request.case.rename newId }

/-- The context with new ids of the gateway and of the origin, and the same action. -/
def GatewayContext.rename (context : GatewayContext) : GatewayContext :=
  { context with
    gatewayId := newId.node context.gatewayId
    originId := newId.node context.originId }

/-- The error of a filter with its new id; the reason stays word for word. -/
def FilterError.rename (error : FilterError) : FilterError :=
  { error with gatewayId := newId.node error.gatewayId }

/-- The answer of a filter with new ids, be it flows or an error. -/
def FilterAnswer.rename : FilterAnswer → FilterAnswer :=
  changeResult (FilterError.rename newId) (List.map (SequenceFlow.rename newId))

/-- The poll with new ids, which cancels if the poll does. -/
def Poll.rename (poll : Poll) : Poll :=
  { poll with answer := poll.answer.map (FilterAnswer.rename newId) }

/-- The error of a navigation with new ids, those of candidates being ids of flows. -/
def NavigationError.rename : NavigationError → NavigationError
  | .nodeNotFound id => .nodeNotFound (newId.node id)
  | .zeroPaths origin gateway => .zeroPaths (newId.node origin) (newId.node gateway)
  | .multiplePaths origin nodeId candidates =>
    .multiplePaths (newId.node origin) (newId.node nodeId) (candidates.map newId.flow)
  | .cycleDetected origin gateway => .cycleDetected (newId.node origin) (newId.node gateway)
  | .filterFailed error => .filterFailed (error.rename newId)
  | .cancelled => .cancelled

/-- The result of a navigation with new ids, in the node that is found or in the error. -/
def renameResult :
    Except NavigationError (Option Node) → Except NavigationError (Option Node) :=
  changeResult (NavigationError.rename newId) (Option.map (Node.rename newId))

/-- The call of a filter with new ids, in everything that the filter is given. -/
def FilterCall.rename (call : FilterCall) : FilterCall where
  gatewayId := newId.node call.gatewayId
  context := call.context.rename newId
  offered := call.offered.map (SequenceFlow.rename newId)
  case := call.case.rename newId

/-- The recorded poll with new ids, under the number of its call. -/
def FilterPoll.rename (taken : FilterPoll) : FilterPoll :=
  { taken with poll := taken.poll.rename newId }

/-- The run with new ids: its outcome, its trail, its calls and its polls. -/
def NavigationRun.rename (run : NavigationRun) : NavigationRun where
  outcome := run.outcome.map (renameResult newId)
  trail := run.trail.map (Node.rename newId)
  calls := run.calls.map (FilterCall.rename newId)
  polls := run.polls.map (FilterPoll.rename newId)

/-- The journey with new ids in everything that has been recorded. -/
def Journey.rename (journey : Journey) : Journey where
  trail := journey.trail.map (Node.rename newId)
  calls := journey.calls.map (FilterCall.rename newId)
  clock := ⟨journey.clock.polls.map (FilterPoll.rename newId)⟩

/-- The reply of a filter with new ids, if it has answered. -/
def Reply.rename : Reply → Reply
  | .answered answer => .answered (answer.rename newId)
  | .cancelled => .cancelled
  | .pending => .pending

/-- The end of a pass with new ids, in its outcome or in the gateway. -/
def PassEnd.rename : PassEnd → PassEnd
  | .stopped outcome => .stopped (outcome.map (renameResult newId))
  | .entered gateway => .entered (gateway.rename newId)

/-- A selection with new ids, in the flow or in the error. -/
def renameSelection :
    Except NavigationError SequenceFlow → Except NavigationError SequenceFlow :=
  changeResult (NavigationError.rename newId) (SequenceFlow.rename newId)

/-- A filter that answers to renamed flows as another one answers to the flows, poll by poll. -/
structure GatewayFilter.RenamesTo (filter renamed : GatewayFilter) : Prop where
  /-- The filter belongs to the renamed gateway. -/
  gatewayId_eq : renamed.gatewayId = newId.node filter.gatewayId
  /-- Each poll of each call is the renamed poll. -/
  start_eq : ∀ count offered case context number,
    renamed.start count (offered.map (SequenceFlow.rename newId)) (case.rename newId)
        (context.rename newId) number =
      (filter.start count offered case context number).rename newId

/-- A registry of filters that answer as those of another one do, in the same order. -/
def FilterRegistry.RenamesTo (registry renamed : FilterRegistry) : Prop :=
  List.Forall₂ (GatewayFilter.RenamesTo newId) registry.filters renamed.filters

/-- A navigator of the renamed graph with filters that answer as those of another one do. -/
structure Navigator.RenamesTo (navigator renamed : Navigator) : Prop where
  graph_eq : renamed.graph = navigator.graph.rename newId
  registry : navigator.registry.RenamesTo newId renamed.registry

/-- What becomes of two attempts to register filters, of which the second are the first renamed. -/
inductive RegisteredAlike :
    Except RegistryError FilterRegistry → Except RegistryError FilterRegistry → Prop where
  /-- Both succeed. -/
  | ok {registry renamed : FilterRegistry} (h : registry.RenamesTo newId renamed) :
    RegisteredAlike (.ok registry) (.ok renamed)
  /-- Both fail at the same gateway. -/
  | error (gatewayId : String) :
    RegisteredAlike (.error (.duplicateGateway gatewayId))
      (.error (.duplicateGateway (newId.node gatewayId)))

variable {newId}

section Selections

/-- The only default of renamed flows is the renamed default, as marks stay. -/
theorem singleDefault?_rename (flows : List SequenceFlow) :
    singleDefault? (flows.map (SequenceFlow.rename newId)) =
      (singleDefault? flows).map (SequenceFlow.rename newId) := by
  have hdefaults : (flows.map (SequenceFlow.rename newId)).filter (fun flow => flow.isDefault) =
      (flows.filter fun flow => flow.isDefault).map (SequenceFlow.rename newId) := by
    rw [List.filter_map]
    rfl
  unfold singleDefault?
  rw [hdefaults]
  generalize flows.filter (fun flow => flow.isDefault) = defaults
  match defaults with
  | [] => rfl
  | [only] => rfl
  | first :: second :: rest => rfl

/-- A renamed flow has the id of a renamed one if the flow has that of the one, because different
ids stay different. -/
theorem id_mem_map_rename {flow : SequenceFlow} {flows : List SequenceFlow} :
    (flow.rename newId).id ∈ (flows.map (SequenceFlow.rename newId)).map SequenceFlow.id ↔
      flow.id ∈ flows.map SequenceFlow.id := by
  have hids : (flows.map (SequenceFlow.rename newId)).map SequenceFlow.id =
      (flows.map SequenceFlow.id).map newId.flow := by
    rw [List.map_map, List.map_map]
    rfl
  rw [hids]
  exact List.mem_map_of_injective newId.flow_injective

/-- Of renamed flows those are kept whose flows are, in the same order. -/
theorem keptOf_rename (offered answer : List SequenceFlow) :
    keptOf (offered.map (SequenceFlow.rename newId)) (answer.map (SequenceFlow.rename newId)) =
      (keptOf offered answer).map (SequenceFlow.rename newId) := by
  unfold keptOf
  rw [List.filter_map]
  congr 1
  refine List.filter_congr fun flow _ => ?_
  rw [Function.comp_apply, Bool.eq_iff_iff, decide_eq_true_iff, decide_eq_true_iff,
    id_mem_map_rename]

/-- Renamed candidates are narrowed to the renamed default, where the candidates are to the
default. -/
theorem preferDefault_rename (flows candidates : List SequenceFlow) :
    preferDefault (flows.map (SequenceFlow.rename newId))
        (candidates.map (SequenceFlow.rename newId)) =
      (preferDefault flows candidates).map (SequenceFlow.rename newId) := by
  unfold preferDefault
  rw [singleDefault?_rename, List.length_map]
  cases singleDefault? flows with
  | none => rfl
  | some default =>
    dsimp only [Option.map_some]
    by_cases hprefers : 1 < candidates.length ∧ default.id ∈ candidates.map SequenceFlow.id
    · rw [if_pos hprefers, if_pos ⟨hprefers.1, id_mem_map_rename.mpr hprefers.2⟩]
      rfl
    · rw [if_neg hprefers, if_neg fun h => hprefers ⟨h.1, id_mem_map_rename.mp h.2⟩]

/-- Renamed candidates are decided as the candidates are, and an open choice names them in the same
order. -/
theorem decideFlow_rename (originId nodeId : String) (flows candidates : List SequenceFlow) :
    decideFlow (newId.node originId) (newId.node nodeId) (flows.map (SequenceFlow.rename newId))
        (candidates.map (SequenceFlow.rename newId)) =
      renameSelection newId (decideFlow originId nodeId flows candidates) := by
  unfold decideFlow
  rw [preferDefault_rename]
  generalize preferDefault flows candidates = preferred
  match preferred with
  | [] => rfl
  | [only] => rfl
  | first :: second :: rest =>
    simp [renameSelection, changeResult, NavigationError.rename, SequenceFlow.rename]

end Selections

section Filters

/-- Polls with new ids cancel a token where the polls do, for there are as many of them and they
cancel alike. -/
theorem isCancelled_rename (token : Token) (polls : List FilterPoll) :
    Clock.isCancelled ⟨polls.map (FilterPoll.rename newId)⟩ token =
      Clock.isCancelled ⟨polls⟩ token := by
  cases token with
  | shared cancelledBy =>
    have hpolls : Clock.cancelled ⟨polls.map (FilterPoll.rename newId)⟩ =
        Clock.cancelled ⟨polls⟩ := by
      unfold Clock.cancelled
      rw [List.any_map]
      rfl
    dsimp only [Clock.isCancelled]
    rw [hpolls, List.length_map]
  | detached => rfl

/-- Waiting for renamed polls comes to the renamed reply, after the same number of polls. -/
theorem awaitReply_rename {activity renamed : Activity}
    (hactivity : ∀ number, renamed number = (activity number).rename newId) (token : Token)
    (call patience number : Nat) (polls : List FilterPoll) :
    awaitReply token call renamed patience number ⟨polls.map (FilterPoll.rename newId)⟩ =
      (((awaitReply token call activity patience number ⟨polls⟩).1).rename newId,
        ⟨(awaitReply token call activity patience number ⟨polls⟩).2.polls.map
          (FilterPoll.rename newId)⟩) := by
  induction patience generalizing number polls with
  | zero => rfl
  | succ patience ih =>
    have hcancelled : Clock.isCancelled ⟨polls.map (FilterPoll.rename newId)⟩ token =
        Clock.isCancelled ⟨polls⟩ token := isCancelled_rename token polls
    by_cases hclock : Clock.isCancelled ⟨polls⟩ token = true
    · rw [awaitReply_of_cancelled hclock, awaitReply_of_cancelled (hcancelled.trans hclock)]
      rfl
    · rw [Bool.not_eq_true] at hclock
      have hadvance : Clock.advance ⟨polls.map (FilterPoll.rename newId)⟩ call (renamed number) =
          ⟨(polls ++ [FilterPoll.mk call (activity number)]).map (FilterPoll.rename newId)⟩ := by
        rw [Clock.advance, hactivity, List.map_append]
        rfl
      rw [awaitReply_of_not_cancelled hclock,
        awaitReply_of_not_cancelled (hcancelled.trans hclock), hadvance, hactivity]
      cases hanswer : (activity number).answer with
      | some answer => simp [Poll.rename, hanswer, Clock.advance, Reply.rename]
      | none =>
        simp only [Poll.rename, hanswer, Option.map_none]
        exact ih (number + 1) _

/-- The text of a renamed case is the new id that the text of the case stands for, under the same
key. -/
theorem dataValue?_rename (case : CaseData) (key : String) :
    (case.rename newId).dataValue? key = (case.dataValue? key).map newId.flow := by
  change (case.dataValues.entries.map fun entry => (entry.1, newId.flow entry.2)).lookup key =
    (case.dataValues.entries.lookup key).map newId.flow
  induction case.dataValues.entries with
  | nil => rfl
  | cons entry rest ih =>
    rw [List.map_cons, List.lookup_cons, List.lookup_cons]
    cases key == entry.1 with
    | true => rfl
    | false => exact ih

/-- A renamed rule keeps a renamed flow where the rule keeps the flow, for each of the three
rules. -/
theorem keeps_rename (rule : RoutingRule) (case : CaseData) (action : Option String)
    (flow : SequenceFlow) :
    (rule.rename newId).keeps (case.rename newId) action (flow.rename newId) =
      rule.keeps case action flow := by
  cases rule with
  | dataValue key =>
    dsimp only [RoutingRule.rename, RoutingRule.keeps, SequenceFlow.rename]
    rw [dataValue?_rename, ← Option.map_some, decide_eq_decide]
    exact (Option.map_injective newId.flow_injective).eq_iff
  | action => rfl
  | flowIds ids =>
    dsimp only [RoutingRule.rename, RoutingRule.keeps, SequenceFlow.rename]
    rw [decide_eq_decide]
    exact List.mem_map_of_injective newId.flow_injective

/-- The filter of a renamed rule answers as the filter of the rule does, at the renamed gateway. -/
theorem filter_renamesTo (rule : RoutingRule) (gatewayId : String) :
    (rule.filter gatewayId).RenamesTo newId
      ((rule.rename newId).filter (newId.node gatewayId)) where
  gatewayId_eq := by rw [RoutingRule.gatewayId_filter, RoutingRule.gatewayId_filter]
  start_eq := fun count offered case context number => by
    have hkept : (rule.rename newId).kept (offered.map (SequenceFlow.rename newId))
          (case.rename newId) (context.rename newId) =
        (rule.kept offered case context).map (SequenceFlow.rename newId) := by
      unfold RoutingRule.kept
      rw [List.filter_map]
      congr 1
      exact List.filter_congr fun flow _ => keeps_rename rule case context.action flow
    rw [RoutingRule.start_filter, RoutingRule.start_filter, hkept]
    rfl

end Filters

section Registries

variable {registry renamed : FilterRegistry}

/-- A registry that answers as another one has filters for the renamed gateways, in the same
order. -/
theorem FilterRegistry.RenamesTo.map_gatewayId (h : registry.RenamesTo newId renamed) :
    renamed.filters.map GatewayFilter.gatewayId =
      (registry.filters.map GatewayFilter.gatewayId).map newId.node := by
  unfold FilterRegistry.RenamesTo at h
  generalize registry.filters = filters at h ⊢
  generalize renamed.filters = others at h ⊢
  induction h with
  | nil => rfl
  | cons hfilter _ ih => rw [List.map_cons, List.map_cons, List.map_cons, ih, hfilter.gatewayId_eq]

/-- A renamed gateway has the filter that answers as that of the gateway, or neither has one. -/
theorem FilterRegistry.RenamesTo.filter?_cases (h : registry.RenamesTo newId renamed)
    (gatewayId : String) :
    (registry.filter? gatewayId = none ∧ renamed.filter? (newId.node gatewayId) = none) ∨
      ∃ filter other, registry.filter? gatewayId = some filter ∧
        renamed.filter? (newId.node gatewayId) = some other ∧ filter.RenamesTo newId other := by
  unfold FilterRegistry.RenamesTo at h
  unfold FilterRegistry.filter?
  generalize registry.filters = filters at h ⊢
  generalize renamed.filters = others at h ⊢
  induction h with
  | nil => exact .inl ⟨rfl, rfl⟩
  | @cons filter other rest others hfilter _ ih =>
    have hid : (other.gatewayId = newId.node gatewayId) = (filter.gatewayId = gatewayId) := by
      rw [hfilter.gatewayId_eq, newId.node_injective.eq_iff]
    rw [List.find?_cons, List.find?_cons]
    simp only [hid]
    by_cases heq : filter.gatewayId = gatewayId
    · simp only [heq, decide_true]
      exact .inr ⟨filter, other, rfl, rfl, hfilter⟩
    · simp only [heq, decide_false]
      exact ih

/-- A filter that answers as another one is registered where the other one is, and refused where it
is. -/
theorem register_alike (h : registry.RenamesTo newId renamed) {filter other : GatewayFilter}
    (hfilter : filter.RenamesTo newId other) :
    RegisteredAlike newId (registry.register filter) (renamed.register other) := by
  have hmem : other.gatewayId ∈ renamed.filters.map GatewayFilter.gatewayId ↔
      filter.gatewayId ∈ registry.filters.map GatewayFilter.gatewayId := by
    rw [h.map_gatewayId, hfilter.gatewayId_eq]
    exact List.mem_map_of_injective newId.node_injective
  unfold FilterRegistry.register
  by_cases hduplicate : filter.gatewayId ∈ registry.filters.map GatewayFilter.gatewayId
  · rw [dif_pos hduplicate, dif_pos (hmem.mpr hduplicate), hfilter.gatewayId_eq]
    exact .error filter.gatewayId
  · rw [dif_neg hduplicate, dif_neg (mt hmem.mp hduplicate)]
    exact .ok (List.rel_append h (.cons hfilter .nil))

/-- Filters that answer as others are registered together where the others are, or fail at the same
filter. -/
theorem ofList_alike {filters others : List GatewayFilter}
    (h : List.Forall₂ (GatewayFilter.RenamesTo newId) filters others) :
    RegisteredAlike newId (FilterRegistry.ofList filters) (FilterRegistry.ofList others) := by
  have hfold (registry renamed : FilterRegistry) (hregistry : registry.RenamesTo newId renamed) :
      RegisteredAlike newId (filters.foldlM FilterRegistry.register registry)
        (others.foldlM FilterRegistry.register renamed) := by
    induction h generalizing registry renamed with
    | nil => exact .ok hregistry
    | @cons filter other rest others hfilter _ ih =>
      have hstep := register_alike hregistry hfilter
      rw [List.foldlM_cons, List.foldlM_cons]
      revert hstep
      generalize registry.register filter = first
      generalize renamed.register other = second
      intro hstep
      cases hstep with
      | ok hnext => exact ih _ _ hnext
      | error gatewayId => exact .error gatewayId
  exact hfold .empty .empty .nil

end Registries

namespace Navigator

variable {navigator renamed : Navigator} {request : NavigationRequest} {token : Token}
  {patience : Nat}

/-- The renamed filter is asked at a renamed node where the filter is asked at the node, and where
none is, none is. -/
theorem RenamesTo.filterAt?_cases (h : navigator.RenamesTo newId renamed) (node : Node) :
    (navigator.filterAt? node = none ∧ renamed.filterAt? (node.rename newId) = none) ∨
      ∃ filter other, navigator.filterAt? node = some filter ∧
        renamed.filterAt? (node.rename newId) = some other ∧ filter.RenamesTo newId other := by
  unfold filterAt? FilterRegistry.resolve
  rw [Node.isGateway_rename]
  by_cases hgateway : node.isGateway = true
  · rw [if_pos hgateway, if_pos hgateway]
    dsimp only [Node.rename]
    rcases h.registry.filter?_cases node.id with
      ⟨hnone, hother⟩ | ⟨filter, other, hsome, hother, hfilter⟩
    · rw [hnone, hother]
      exact .inl ⟨rfl, rfl⟩
    · rw [hsome, hother]
      exact .inr ⟨filter, other, rfl, rfl, hfilter⟩
  · rw [if_neg hgateway, if_neg hgateway]
    exact .inl ⟨rfl, rfl⟩

/-- A renamed reply settles the renamed selection, among the renamed flows. -/
theorem settle_rename (node : Node) (flows : List SequenceFlow) (reply : Reply) :
    settle (request.rename newId) (node.rename newId) (flows.map (SequenceFlow.rename newId))
        (reply.rename newId) =
      (settle request node flows reply).map (renameSelection newId) := by
  cases reply with
  | answered answer =>
    cases answer with
    | ok answer =>
      change some (decideFlow (newId.node request.originId) (newId.node node.id)
        (flows.map (SequenceFlow.rename newId)) (keptOf (flows.map (SequenceFlow.rename newId))
          (answer.map (SequenceFlow.rename newId)))) = some _
      rw [keptOf_rename, decideFlow_rename]
    | error error => rfl
  | cancelled => rfl
  | pending => rfl

/-- Waiting for the filter asked at a renamed node comes to the renamed reply, as it is given what
has been renamed. -/
theorem ask_rename {filter other : GatewayFilter} (hfilter : filter.RenamesTo newId other)
    (node : Node) (flows : List SequenceFlow) (journey : Journey) :
    ask (request.rename newId) token patience (node.rename newId)
        (flows.map (SequenceFlow.rename newId)) other (journey.rename newId) =
      ((ask request token patience node flows filter journey).1.rename newId,
        ⟨(ask request token patience node flows filter journey).2.polls.map
          (FilterPoll.rename newId)⟩) := by
  have hwait := awaitReply_rename
    (hfilter.start_eq journey.calls.length flows request.case (request.context node.id)) token
    journey.calls.length patience 0 journey.clock.polls
  unfold ask waitFor
  rw [← hwait]
  dsimp only [Journey.rename]
  rw [List.length_map]
  rfl

/-- The call of the filter asked at a renamed node is recorded as that of the filter asked at the
node. -/
theorem asked_rename {filter other : GatewayFilter} (hfilter : filter.RenamesTo newId other)
    (node : Node) (flows : List SequenceFlow) (journey : Journey) (clock : Clock) :
    asked (request.rename newId) (node.rename newId) (flows.map (SequenceFlow.rename newId)) other
        (journey.rename newId) ⟨clock.polls.map (FilterPoll.rename newId)⟩ =
      (asked request node flows filter journey clock).rename newId := by
  have hlength : (clock.polls.map (FilterPoll.rename newId)).length =
      (journey.rename newId).clock.polls.length ↔
        clock.polls.length = journey.clock.polls.length := by
    rw [Journey.rename, List.length_map, List.length_map]
  unfold asked Journey.consult
  dsimp only
  by_cases hpolled : clock.polls.length = journey.clock.polls.length
  · rw [if_pos hpolled, if_pos (hlength.mpr hpolled)]
    rfl
  · rw [if_neg hpolled, if_neg (mt hlength.mp hpolled), hfilter.gatewayId_eq]
    simp only [Journey.rename, List.map_append]
    rfl

/-- A selection among renamed flows is the renamed selection, and leaves the renamed journey. -/
theorem select_rename (h : navigator.RenamesTo newId renamed) (node : Node)
    (flows : List SequenceFlow) (journey : Journey) :
    renamed.select (request.rename newId) token patience (node.rename newId)
        (flows.map (SequenceFlow.rename newId)) (journey.rename newId) =
      ((navigator.select request token patience node flows journey).1.map (renameSelection newId),
        (navigator.select request token patience node flows journey).2.rename newId) := by
  by_cases hsingle : ∃ only, flows = [only]
  · obtain ⟨only, rfl⟩ := hsingle
    rfl
  · have hseveral (only : SequenceFlow) : flows ≠ [only] := fun honly => hsingle ⟨only, honly⟩
    have hrenamed (only : SequenceFlow) : flows.map (SequenceFlow.rename newId) ≠ [only] := by
      intro honly
      obtain ⟨flow, hflow, -⟩ := List.map_eq_singleton_iff.mp honly
      exact hseveral flow hflow
    rcases h.filterAt?_cases node with ⟨hnone, hother⟩ | ⟨filter, other, hsome, hother, hfilter⟩
    · rw [select_of_filterAt?_none hseveral hnone, select_of_filterAt?_none hrenamed hother]
      exact congrArg (fun selected => (some selected, journey.rename newId))
        (decideFlow_rename request.originId node.id flows flows)
    · rw [select_of_filterAt?_some hseveral hsome, select_of_filterAt?_some hrenamed hother,
        ask_rename hfilter, settle_rename, asked_rename hfilter]

/-- A renamed selection leads to the renamed end of a pass, at the renamed target. -/
theorem follow_rename (h : navigator.RenamesTo newId renamed)
    (selected : Option (Except NavigationError SequenceFlow)) :
    renamed.follow (selected.map (renameSelection newId)) =
      (navigator.follow selected).rename newId := by
  match selected with
  | none => rfl
  | some (.error error) => rfl
  | some (.ok chosen) =>
    have htarget : renamed.graph.node? (chosen.rename newId).target =
        (navigator.graph.node? chosen.target).map (Node.rename newId) := by
      rw [h.graph_eq]
      exact ProcessGraph.node?_rename newId navigator.graph chosen.target
    dsimp only [Option.map_some, renameSelection, changeResult]
    cases hfound : navigator.graph.node? chosen.target with
    | none =>
      rw [hfound, Option.map_none] at htarget
      rw [follow_of_lost hfound, follow_of_lost htarget]
      rfl
    | some target =>
      rw [hfound, Option.map_some] at htarget
      rw [follow_of_found hfound, follow_of_found htarget, Node.isGateway_rename]
      split <;> rfl

/-- A pass over a renamed node ends as the pass over the node, under the new ids. -/
theorem pass_rename (h : navigator.RenamesTo newId renamed) (node : Node) (journey : Journey) :
    renamed.pass (request.rename newId) token patience (node.rename newId)
        (journey.rename newId) =
      ((navigator.pass request token patience node journey).1.rename newId,
        (navigator.pass request token patience node journey).2.rename newId) := by
  have hflows : renamed.graph.outgoingFlows (node.rename newId).id =
      (navigator.graph.outgoingFlows node.id).map (SequenceFlow.rename newId) := by
    rw [h.graph_eq]
    exact ProcessGraph.outgoingFlows_rename newId navigator.graph node.id
  have hvisit : (journey.rename newId).visit (node.rename newId) =
      (journey.visit node).rename newId := by
    dsimp only [Journey.visit, Journey.rename]
    rw [List.map_append, List.map_singleton]
  unfold pass
  dsimp only
  rw [hflows, hvisit, List.isEmpty_map, select_rename h, follow_rename h]
  split <;> rfl

/-- A walk from a renamed node is the renamed walk, by induction along the walk with the visited ids
renamed. -/
theorem walk_rename (h : navigator.RenamesTo newId renamed) (visited : List String) (node : Node)
    (journey : Journey) :
    renamed.walk (request.rename newId) token patience (visited.map newId.node)
        (node.rename newId) (journey.rename newId) =
      (navigator.walk request token patience visited node journey).rename newId := by
  have hmem {gateway : Node} {visited : List String} :
      (gateway.rename newId).id ∈ visited.map newId.node ↔ gateway.id ∈ visited :=
    List.mem_map_of_injective newId.node_injective
  refine walk_induction ?_ ?_ ?_ visited node journey
  · intro visited node journey outcome next hpass
    rw [walk_eq, pass_rename h, hpass]
    rfl
  · intro visited node journey gateway next hpass hvisited
    rw [walk_eq, pass_rename h, hpass]
    dsimp only [PassEnd.rename, resume]
    rw [if_pos (hmem.mpr hvisited)]
    rfl
  · intro visited node journey gateway next hpass hnew ih
    rw [walk_eq, pass_rename h, hpass]
    dsimp only [PassEnd.rename, resume]
    rw [if_neg (mt hmem.mp hnew)]
    exact ih

/-- A navigation from the renamed origin is the renamed navigation, whether the graph has the origin
or not. -/
theorem nextElement_of_renamesTo (h : navigator.RenamesTo newId renamed) :
    renamed.nextElement (request.rename newId) token patience =
      (navigator.nextElement request token patience).rename newId := by
  have horigin : renamed.graph.node? (request.rename newId).originId =
      (navigator.graph.node? request.originId).map (Node.rename newId) := by
    rw [h.graph_eq]
    exact ProcessGraph.node?_rename newId navigator.graph request.originId
  cases hfound : navigator.graph.node? request.originId with
  | none =>
    rw [hfound, Option.map_none] at horigin
    rw [nextElement_of_unknown hfound, nextElement_of_unknown horigin]
    rfl
  | some origin =>
    rw [hfound, Option.map_some] at horigin
    rw [nextElement_of_known hfound, nextElement_of_known horigin, ← walk_rename h,
      Node.isGateway_rename, apply_ite (List.map newId.node)]
    rfl

end Navigator

/-- A filter of the library for each of the given gateways, in the order given. -/
def ruleFilters (rules : List (String × RoutingRule)) : List GatewayFilter :=
  rules.map fun (gatewayId, rule) => rule.filter gatewayId

/-- The rules with new ids at the renamed gateways, in the same order. -/
def renameRules (newId : Renaming) (rules : List (String × RoutingRule)) :
    List (String × RoutingRule) :=
  rules.map fun (gatewayId, rule) => (newId.node gatewayId, rule.rename newId)

/-- Ids are opaque. If different ids stay different, the renamed definition gives the renamed graph
or the renamed error. With renamed rules at the gateways the filters are registered where they have
been, and a navigation from the renamed origin with the renamed case is the renamed navigation, for
every token and all patience. -/
theorem nextElement_rename (newId : Renaming) (definition : ProcessDefinition) :
    ProcessGraph.build (definition.rename newId) =
        changeResult (GraphError.rename newId) (ProcessGraph.rename newId)
          (ProcessGraph.build definition) ∧
      ∀ graph, ProcessGraph.build definition = .ok graph → ∀ rules,
        (∀ gatewayId, FilterRegistry.ofList (ruleFilters rules) =
            .error (.duplicateGateway gatewayId) →
          FilterRegistry.ofList (ruleFilters (renameRules newId rules)) =
            .error (.duplicateGateway (newId.node gatewayId))) ∧
        ∀ registry, FilterRegistry.ofList (ruleFilters rules) = .ok registry →
          ∃ renamed, FilterRegistry.ofList (ruleFilters (renameRules newId rules)) = .ok renamed ∧
            ∀ request token patience,
              (Navigator.mk (graph.rename newId) renamed).nextElement (request.rename newId) token
                  patience =
                ((Navigator.mk graph registry).nextElement request token patience).rename
                  newId := by
  refine ⟨ProcessGraph.build_changeResult newId definition, fun graph _ rules => ?_⟩
  have hfilters : List.Forall₂ (GatewayFilter.RenamesTo newId) (ruleFilters rules)
      (ruleFilters (renameRules newId rules)) := by
    rw [ruleFilters, ruleFilters, renameRules, List.map_map, List.forall₂_map_left_iff,
      List.forall₂_map_right_iff]
    exact List.forall₂_same.mpr fun rule _ => filter_renamesTo rule.2 rule.1
  have halike := ofList_alike hfilters
  generalize FilterRegistry.ofList (ruleFilters rules) = first at halike ⊢
  generalize FilterRegistry.ofList (ruleFilters (renameRules newId rules)) = second at halike ⊢
  cases halike with
  | @ok registry renamed hregistry =>
    refine ⟨fun _ hduplicate => (by cases hduplicate), fun _ hregistered => ?_⟩
    cases hregistered
    exact ⟨renamed, rfl, fun request token patience =>
      Navigator.nextElement_of_renamesTo ⟨rfl, hregistry⟩⟩
  | error gatewayId =>
    refine ⟨fun _ hduplicate => ?_, fun _ hregistered => (by cases hregistered)⟩
    cases hduplicate
    rfl

/-- The ids of nodes and those of flows get different words in front, so that different ids stay
different. -/
def prefixedIds : Renaming where
  node := fun id => "node " ++ id
  flow := fun id => "flow " ++ id
  node_injective := fun _ _ h => (String.append_right_inj _).mp h
  flow_injective := fun _ _ h => (String.append_right_inj _).mp h

/-- Under prefixed ids, a request that is filed without an action ends at the renamed end. -/
theorem nextElement_rename_requestProcess :
    ProcessGraph.build requestProcess = .ok requestProcess.image ∧
      ProcessGraph.build (requestProcess.rename prefixedIds) =
        .ok (requestProcess.image.rename prefixedIds) ∧
      FilterRegistry.ofList (ruleFilters [("Check", .action)]) = .ok Navigator.requestFilters ∧
      ∃ renamed, FilterRegistry.ofList (ruleFilters [("node Check", .action)]) = .ok renamed ∧
        ((Navigator.mk (requestProcess.image.rename prefixedIds) renamed).nextElement
            ⟨"node File", none, .blank⟩ .fresh 1).outcome =
          some (.ok (some ((requestProcess.imageNode (.endEvent "End")).rename prefixedIds))) := by
  have hbuild : ProcessGraph.build requestProcess = .ok requestProcess.image := rfl
  have hregistry : FilterRegistry.ofList (ruleFilters [("Check", .action)]) =
      .ok Navigator.requestFilters := rfl
  have hend : ((Navigator.mk requestProcess.image Navigator.requestFilters).nextElement
      Navigator.fileRequest .fresh 1).outcome =
        some (.ok (some (requestProcess.imageNode (.endEvent "End")))) := by
    decide +kernel
  obtain ⟨hrenamed, hnavigations⟩ := nextElement_rename prefixedIds requestProcess
  obtain ⟨renamed, hregistered, hrun⟩ := (hnavigations _ hbuild _).2 _ hregistry
  rw [hbuild] at hrenamed
  refine ⟨hbuild, hrenamed, hregistry, renamed, hregistered, ?_⟩
  have houtcome := congrArg NavigationRun.outcome (hrun Navigator.fileRequest .fresh 1)
  rw [NavigationRun.rename, hend] at houtcome
  exact houtcome

end CaseRouting
