import CaseRouting.Proofs.FailureCauses
import CaseRouting.Proofs.FilterChoice

/-!
# The order of a definition

Nodes and flows are found by their ids, no node has more than one default flow, and filters choose
by id. So the order in which a definition lists its nodes and its flows does not decide whether it
describes a graph or where a case goes. The order shows only in the flows that a node lists and in
the candidates that an error names.
-/

namespace CaseRouting

open OrderedCheck

/-- Two definitions that list the same nodes and the same flows, each in an order of its own. -/
structure ProcessDefinition.Reorders (first second : ProcessDefinition) : Prop where
  /-- The same nodes are listed. -/
  nodes : first.nodes.Perm second.nodes
  /-- The same flows are listed. -/
  flows : first.flows.Perm second.flows

/-- Two nodes that differ in the order of their flows at most, which is where the order of a
definition shows in a node. -/
structure Node.SameUpToOrder (first second : Node) : Prop where
  /-- The nodes have the same id. -/
  id_eq : second.id = first.id
  /-- The nodes have the same name. -/
  name_eq : second.name = first.name
  /-- The nodes are of the same kind. -/
  kind_eq : second.kind = first.kind
  /-- The same flows enter the nodes. -/
  incoming : first.incoming.Perm second.incoming
  /-- The same flows leave the nodes. -/
  outgoing : first.outgoing.Perm second.outgoing

/-- Two errors that differ in the order of their candidates at most; only one kind of error has
any. -/
inductive NavigationError.SameUpToOrder : NavigationError → NavigationError → Prop where
  | refl (error : NavigationError) : SameUpToOrder error error
  | multiplePaths {originId nodeId : String} {candidates other : List String}
    (hcandidates : candidates.Perm other) :
    SameUpToOrder (.multiplePaths originId nodeId candidates)
      (.multiplePaths originId nodeId other)

/-- Two results with related values, or with errors that differ in the order of their candidates at
most. -/
inductive ResultUpToOrder {α : Type} (values : α → α → Prop) :
    Except NavigationError α → Except NavigationError α → Prop where
  | ok {value other : α} (hvalue : values value other) :
    ResultUpToOrder values (.ok value) (.ok other)
  | error {error other : NavigationError} (herror : error.SameUpToOrder other) :
    ResultUpToOrder values (.error error) (.error other)

/-- Two results of navigations that differ in the order of flows at most, in the node that is found
or in the error. -/
abbrev RouteUpToOrder :
    Except NavigationError (Option Node) → Except NavigationError (Option Node) → Prop :=
  ResultUpToOrder (Option.Rel Node.SameUpToOrder)

/-- A filter whose choice does not depend on the order in which flows are offered, in any of its
calls. -/
def GatewayFilter.IgnoresOrder (filter : GatewayFilter) : Prop :=
  ∀ number (offered other : List SequenceFlow) case context, offered.Perm other →
    (filter.start number offered case context).ChoosesLike offered
      (filter.start number other case context)

/-- Two navigators that return the same when asked the same, up to the order of flows. -/
structure Navigator.ReturnsUpToOrder (first second : Navigator) (request : NavigationRequest)
    (token : Token) : Prop where
  /-- What the first one returns, the second one returns. -/
  forth : ∀ result, first.Returns request token result →
    ∃ other, second.Returns request token other ∧ RouteUpToOrder result other
  /-- What the second one returns, the first one returns. -/
  back : ∀ other, second.Returns request token other →
    ∃ result, first.Returns request token result ∧ RouteUpToOrder result other

/-- Nodes that differ in the order of their flows are gateways both or neither, as they are of the
same kind. -/
theorem Node.SameUpToOrder.isGateway_eq {node other : Node} (h : node.SameUpToOrder other) :
    other.isGateway = node.isGateway := by
  rw [Node.isGateway, Node.isGateway, h.kind_eq]

namespace ProcessDefinition.Reorders

variable {first second : ProcessDefinition}

/-- Definitions are reorderings of each other, so that what is shown of one direction holds of
both. -/
theorem symm (h : first.Reorders second) : second.Reorders first := ⟨h.nodes.symm, h.flows.symm⟩

variable (h : first.Reorders second)

include h

/-- The same nodes have the same ids, in an order of their own. -/
theorem nodeIds_perm : first.nodeIds.Perm second.nodeIds := h.nodes.map NodeDefinition.id

/-- The same flows leave a node, in an order of their own. -/
theorem flowsFrom_perm (id : String) : (first.flowsFrom id).Perm (second.flowsFrom id) :=
  h.flows.filter _

/-- The same flows enter a node, in an order of their own. -/
theorem flowsInto_perm (id : String) : (first.flowsInto id).Perm (second.flowsInto id) :=
  h.flows.filter _

/-- A reordering of a definition that describes a graph describes one, for none of the four
conditions speaks of an order. -/
theorem wellFormed (hwell : first.WellFormed) : second.WellFormed where
  nodeIds_nodup := h.nodeIds_perm.nodup_iff.mp hwell.nodeIds_nodup
  flowIds_nodup := (h.flows.map FlowDefinition.id).nodup_iff.mp hwell.flowIds_nodup
  ends_known := by
    intro flow hflow
    rw [← h.nodeIds_perm.mem_iff, ← h.nodeIds_perm.mem_iff]
    exact hwell.ends_known flow (h.flows.mem_iff.mpr hflow)
  default_unique := by
    intro node hnode
    have hdefaults : (first.defaultsFrom node.id).Perm (second.defaultsFrom node.id) :=
      (h.flowsFrom_perm node.id).filter _
    rw [← hdefaults.length_eq]
    exact hwell.default_unique node (h.nodes.mem_iff.mpr hnode)

/-- A node shows the same in the image of a reordering, up to the order of its flows, whether the
definition lists the node or not. -/
theorem imageNode (node : NodeDefinition) :
    (first.imageNode node).SameUpToOrder (second.imageNode node) where
  id_eq := rfl
  name_eq := rfl
  kind_eq := rfl
  incoming := (h.flowsInto_perm node.id).map FlowDefinition.id
  outgoing := (h.flowsFrom_perm node.id).map FlowDefinition.id

/-- A node is found in the image of a reordering if it is found in that of the definition, as ids
are distinct, and is then the same up to order. -/
theorem node?_image (hwell : first.WellFormed) (id : String) :
    Option.Rel Node.SameUpToOrder (first.image.node? id) (second.image.node? id) := by
  have hfind : (second.nodes.find? fun node => node.id = id) =
      first.nodes.find? fun node => node.id = id := by
    ext node
    rw [find?_key_eq_some_iff (h.wellFormed hwell).nodeIds_nodup,
      find?_key_eq_some_iff hwell.nodeIds_nodup, h.nodes.mem_iff]
  rw [ProcessDefinition.node?_image, ProcessDefinition.node?_image, hfind]
  cases first.nodes.find? fun node => node.id = id with
  | none => exact .none
  | some node => exact .some (h.imageNode node)

/-- The same flows leave a node of the image of a reordering, so that a filter is offered the same
flows. -/
theorem outgoingFlows_image (hwell : first.WellFormed) (id : String) :
    (first.image.outgoingFlows id).Perm (second.image.outgoingFlows id) := by
  rw [hwell.outgoingFlows_image, (h.wellFormed hwell).outgoingFlows_image]
  exact (h.flowsFrom_perm id).map FlowDefinition.toFlow

end ProcessDefinition.Reorders

section Selection

variable {flows other candidates kept : List SequenceFlow}

/-- The only default flow does not depend on the order of the flows, in contrast to the first
one. -/
theorem singleDefault?_perm (h : flows.Perm other) :
    singleDefault? flows = singleDefault? other := by
  have hdefaults := h.filter fun flow => flow.isDefault
  ext flow
  rw [singleDefault?_eq_some_iff, singleDefault?_eq_some_iff, ← List.perm_singleton,
    ← List.perm_singleton]
  exact ⟨hdefaults.symm.trans, hdefaults.trans⟩

/-- The default flow is preferred in any order, and where none is, all candidates are kept. -/
theorem preferDefault_perm (h : flows.Perm other) (hkept : candidates.Perm kept) :
    (preferDefault flows candidates).Perm (preferDefault other kept) := by
  unfold preferDefault
  rw [singleDefault?_perm h]
  cases singleDefault? other with
  | none => exact hkept
  | some default =>
    simp only [hkept.length_eq, (hkept.map SequenceFlow.id).mem_iff]
    split
    · exact .refl _
    · exact hkept

/-- The order of flows and of candidates shows in a decision only where it names candidates, that is
in an error. -/
theorem decideFlow_perm (originId nodeId : String) (h : flows.Perm other)
    (hkept : candidates.Perm kept) :
    ResultUpToOrder Eq (decideFlow originId nodeId flows candidates)
      (decideFlow originId nodeId other kept) := by
  have hpreferred := preferDefault_perm h hkept
  unfold decideFlow
  match preferDefault flows candidates, preferDefault other kept, hpreferred with
  | [], _, hperm =>
    rw [List.nil_perm.mp hperm]
    exact .error (.refl _)
  | [chosen], _, hperm =>
    rw [← List.singleton_perm.mp hperm]
    exact .ok rfl
  | _ :: _ :: _, [], hperm => cases hperm.length_eq
  | _ :: _ :: _, [_], hperm => cases hperm.length_eq
  | _ :: _ :: _, _ :: _ :: _, hperm =>
    exact .error (.multiplePaths (hperm.map SequenceFlow.id))

/-- Answers that make the same choice among the same flows, offered in two orders, keep the same
flows. -/
theorem keptOf_perm {answer answer' : List SequenceFlow} (h : flows.Perm other)
    (hsame : SameChoice flows (.ok answer) (.ok answer')) :
    (keptOf flows answer).Perm (keptOf other answer') := by
  have hkept : keptOf flows answer = keptOf flows answer' :=
    List.filter_congr fun flow hflow => decide_eq_decide.mpr (hsame flow hflow)
  rw [hkept]
  exact h.filter _

/-- A filter that answers at once, and with the same choice in any order, ignores the order, for its
calls have no other answer. -/
theorem GatewayFilter.IgnoresOrder.answering (gatewayId : String) {answer : AnswerFunction}
    (h : ∀ (offered other : List SequenceFlow) case context, offered.Perm other →
      SameChoice offered (answer offered case context) (answer other case context)) :
    (GatewayFilter.answering gatewayId answer).IgnoresOrder :=
  fun _ offered other case context hperm =>
    .of_returns ⟨1, rfl⟩ ⟨1, rfl⟩ (h offered other case context hperm)

/-- Flows that have a property are the same choice in any order, because a choice is a set of
ids. -/
theorem sameChoice_filter_of_perm (h : flows.Perm other) (property : SequenceFlow → Bool) :
    SameChoice flows (.ok (flows.filter property)) (.ok (other.filter property)) :=
  fun _ _ => ((h.filter property).map SequenceFlow.id).mem_iff

/-- The filters by a value of the case, by the action and by ids ignore the order, since each keeps
flows by a property of the flow. -/
theorem GatewayFilter.ignoresOrder_of_builtin (gatewayId key : String) (flowIds : List String) :
    (byDataValue gatewayId key).IgnoresOrder ∧ (byAction gatewayId).IgnoresOrder ∧
      (byFlowIds gatewayId flowIds).IgnoresOrder := by
  refine ⟨.answering gatewayId ?_, .answering gatewayId ?_, .answering gatewayId ?_⟩
  · intro offered other case context hperm
    split
    · exact sameChoice_filter_of_perm hperm _
    · exact fun _ _ => Iff.rfl
  · intro offered other case context hperm
    exact sameChoice_filter_of_perm hperm _
  · intro offered other case context hperm
    exact sameChoice_filter_of_perm hperm _

end Selection

namespace Navigator

section Reordered

variable {first second : ProcessDefinition} {registry : FilterRegistry}
  {request : NavigationRequest} {node node' : Node}
  (h : first.Reorders second) (hwell : first.WellFormed)

include h hwell

/-- Selections that differ in the order of candidates at most lead to the same, up to the order of
flows. -/
theorem follow_of_reorders {selected other : Except NavigationError SequenceFlow}
    (hselected : ResultUpToOrder Eq selected other) :
    ((Navigator.mk first.image registry).follow (some selected)).Alike Node.SameUpToOrder
      RouteUpToOrder ((Navigator.mk second.image registry).follow (some other)) := by
  cases hselected with
  | error herror => exact .stopped (.error herror)
  | @ok chosen _ hchosen =>
    subst hchosen
    have htarget := h.node?_image hwell chosen.target
    generalize hfirst : first.image.node? chosen.target = found at htarget
    generalize hsecond : second.image.node? chosen.target = found' at htarget
    cases htarget with
    | none =>
      rw [follow_of_lost hfirst, follow_of_lost hsecond]
      exact .stopped (.error (.refl _))
    | some hsame =>
      rw [follow_of_found hfirst, follow_of_found hsecond, hsame.isGateway_eq]
      split
      · exact .entered hsame
      · exact .stopped (.ok (.some hsame))

/-- Without a filter, the way on from a node does not depend on the order of its flows, however many
there are. -/
theorem unasked_of_reorders (hnode : node.SameUpToOrder node') :
    ((Navigator.mk first.image registry).unasked request node).Alike Node.SameUpToOrder
      RouteUpToOrder ((Navigator.mk second.image registry).unasked request node') := by
  unfold unasked
  rw [hnode.id_eq]
  dsimp only
  match first.image.outgoingFlows node.id, second.image.outgoingFlows node.id,
    h.outgoingFlows_image hwell node.id with
  | [], _, hperm =>
    rw [List.nil_perm.mp hperm]
    exact .stopped (.ok .none)
  | [only], _, hperm =>
    rw [← List.singleton_perm.mp hperm]
    exact follow_of_reorders h hwell (.ok rfl)
  | _ :: _ :: _, [], hperm => cases hperm.length_eq
  | _ :: _ :: _, [_], hperm => cases hperm.length_eq
  | _ :: _ :: _, _ :: _ :: _, hperm =>
    exact follow_of_reorders h hwell (decideFlow_perm _ _ hperm hperm)

/-- Answers that make the same choice lead to the same, though the flows are offered in two
orders. -/
theorem settle_of_reorders {flows other : List SequenceFlow} {answer answer' : FilterAnswer}
    (hnode : node.SameUpToOrder node') (hflows : flows.Perm other)
    (hsame : SameChoice flows answer answer') :
    ((Navigator.mk first.image registry).follow
        (settle request node flows (.answered answer))).Alike Node.SameUpToOrder RouteUpToOrder
      ((Navigator.mk second.image registry).follow
        (settle request node' other (.answered answer'))) := by
  cases answer with
  | ok kept =>
    cases answer' with
    | ok kept' =>
      rw [settle, settle, hnode.id_eq]
      exact follow_of_reorders h hwell
        (decideFlow_perm _ _ hflows (keptOf_perm hflows hsame))
    | error failure => exact hsame.elim
  | error failure =>
    cases answer' with
    | ok kept' => exact hsame.elim
    | error failure' =>
      obtain rfl : failure = failure' := hsame
      exact follow_of_reorders h hwell (.error (.refl _))

/-- A call is due at a node in both definitions or in neither, and offers the same flows in the
order of each. -/
theorem dueCall?_of_reorders (hnode : node.SameUpToOrder node') :
    (Navigator.mk second.image registry).dueCall? request node' =
      ((Navigator.mk first.image registry).dueCall? request node).map fun call =>
        { call with offered := second.image.outgoingFlows node.id } := by
  unfold dueCall?
  dsimp only
  rw [hnode.id_eq, hnode.isGateway_eq, (h.outgoingFlows_image hwell node.id).length_eq]
  split <;> rfl

/-- Navigations of reordered definitions are in step, if no filter uses the order of the flows that
it is offered. -/
theorem inStep_of_reorders (hfilters : ∀ filter ∈ registry.filters, filter.IgnoresOrder)
    (request : NavigationRequest) :
    InStep Node.SameUpToOrder RouteUpToOrder ⟨first.image, registry⟩ ⟨second.image, registry⟩
      request request where
  ids_iff := by
    intro node node' gateway gateway' hnode hgateway
    rw [hnode.id_eq, hgateway.id_eq]
  kind_eq := Node.SameUpToOrder.isGateway_eq
  known := by
    intro origin horigin
    have hfound := h.node?_image hwell request.originId
    rw [horigin] at hfound
    dsimp only
    generalize second.image.node? request.originId = found at hfound ⊢
    cases hfound with
    | some hsame => exact ⟨_, rfl, hsame⟩
  unknown := by
    intro horigin
    have hfound := h.node?_image hwell request.originId
    rw [horigin] at hfound
    dsimp only
    generalize second.image.node? request.originId = found at hfound ⊢
    cases hfound with
    | none => exact ⟨rfl, .error (.refl _)⟩
  cycle := by
    intro gateway gateway' hgateway
    rw [hgateway.id_eq]
    exact .error (.refl _)
  unasked := by
    intro node node' hnode hdue
    refine ⟨?_, unasked_of_reorders h hwell hnode⟩
    rw [dueCall?_of_reorders h hwell hnode, hdue, Option.map_none]
  asked := by
    intro node node' call hnode hdue
    have hflows : call.offered.Perm (second.image.outgoingFlows node.id) := by
      rw [offered_of_dueCall? hdue]
      exact h.outgoingFlows_image hwell node.id
    refine ⟨{ call with offered := second.image.outgoingFlows node.id }, ?_, ?_⟩
    · rw [dueCall?_of_reorders h hwell hnode, hdue, Option.map_some]
    · intro number activity activity' hactivity hactivity' answer hanswer
      obtain ⟨filter, hfilter, rfl⟩ := Option.map_eq_some_iff.mp hactivity
      rw [activity?, hfilter, Option.map_some, Option.some.injEq] at hactivity'
      subst hactivity'
      obtain ⟨answer', hanswer', hsame⟩ :=
        (hfilters filter (List.mem_of_find?_eq_some hfilter) number call.offered _ call.case
          call.context hflows).1 answer hanswer
      exact ⟨answer', hanswer', settle_of_reorders h hwell hnode hflows hsame⟩

end Reordered

/-- The order in which a definition lists its nodes and flows decides neither whether it describes a
graph nor, if no filter uses the order of the flows that it is offered, where a case goes. Calls
that are not cancelled return the same, and a result can only be replaced by a cancellation. None of
the filters by a value of the case, by the action and by ids uses the order. -/
theorem nextElement_ignores_definition_order {first second : ProcessDefinition}
    (hreorders : first.Reorders second) :
    ((∃ graph, ProcessGraph.build first = .ok graph) ↔
      ∃ graph, ProcessGraph.build second = .ok graph) ∧
    (∀ graph other, ProcessGraph.build first = .ok graph → ProcessGraph.build second = .ok other →
      ∀ registry : FilterRegistry, (∀ filter ∈ registry.filters, filter.IgnoresOrder) →
        ∀ request,
          (∀ token, registry.Spares token →
            (Navigator.mk graph registry).ReturnsUpToOrder ⟨other, registry⟩ request token) ∧
          ∀ token otherToken result, result ≠ .error .cancelled →
            (Navigator.mk graph registry).Returns request token result →
              (∃ found, (Navigator.mk other registry).Returns request otherToken found ∧
                RouteUpToOrder result found) ∨
                (Navigator.mk other registry).Returns request otherToken (.error .cancelled)) ∧
    ∀ gatewayId key flowIds, (GatewayFilter.byDataValue gatewayId key).IgnoresOrder ∧
      (GatewayFilter.byAction gatewayId).IgnoresOrder ∧
      (GatewayFilter.byFlowIds gatewayId flowIds).IgnoresOrder := by
  refine ⟨?_, ?_, GatewayFilter.ignoresOrder_of_builtin⟩
  · simp only [ProcessGraph.build_eq_ok_iff, exists_and_left, exists_eq, and_true]
    exact ⟨hreorders.wellFormed, hreorders.symm.wellFormed⟩
  · intro graph other hbuild hotherBuild registry hfilters request
    obtain ⟨hwell, rfl⟩ := ProcessGraph.build_eq_ok_iff.mp hbuild
    obtain ⟨hotherWell, rfl⟩ := ProcessGraph.build_eq_ok_iff.mp hotherBuild
    have hforth := inStep_of_reorders hreorders hwell hfilters request
    have hback := inStep_of_reorders hreorders.symm hotherWell hfilters request
    refine ⟨fun token htoken => ⟨fun result => hforth.returns htoken htoken, ?_⟩,
      fun token otherToken result hresult hreturns =>
        hforth.returns_or_cancelled hresult hreturns otherToken⟩
    intro found hfound
    obtain ⟨result, hresult, -⟩ := hback.returns htoken htoken hfound
    obtain ⟨other, hother, hsame⟩ := hforth.returns htoken htoken hresult
    rw [hother.unique hfound] at hsame
    exact ⟨result, hresult, hsame⟩

/-- The process of requests, written from its end to its beginning, nodes and flows alike. -/
def reversedProcess : ProcessDefinition :=
  ⟨"request", none, requestProcess.nodes.reverse, requestProcess.flows.reverse⟩

/-- Where checks are left undecided, the order of the definition shows in the candidates. -/
theorem nextElement_ignores_definition_order_requestProcess :
    let first : Navigator := ⟨requestProcess.image, hesitatingFilters⟩
    let second : Navigator := ⟨reversedProcess.image, hesitatingFilters⟩
    let request : NavigationRequest := ⟨"File", none, .blank⟩
    requestProcess.Reorders reversedProcess ∧
      ProcessGraph.build requestProcess = .ok requestProcess.image ∧
      ProcessGraph.build reversedProcess = .ok reversedProcess.image ∧
      (∀ filter ∈ hesitatingFilters.filters, filter.IgnoresOrder) ∧
      hesitatingFilters.Spares .fresh ∧
      first.Returns request .fresh (.error (.multiplePaths "File" "Check" ["again", "recheck"])) ∧
      second.Returns request .fresh (.error (.multiplePaths "File" "Check" ["recheck", "again"])) ∧
      RouteUpToOrder (.error (.multiplePaths "File" "Check" ["again", "recheck"]))
        (.error (.multiplePaths "File" "Check" ["recheck", "again"])) := by
  intro first second request
  have hreorders : requestProcess.Reorders reversedProcess :=
    ⟨(List.reverse_perm _).symm, (List.reverse_perm _).symm⟩
  have hbuild : ProcessGraph.build requestProcess = .ok requestProcess.image := rfl
  have hotherBuild : ProcessGraph.build reversedProcess = .ok reversedProcess.image := rfl
  have hignores := nextElement_ignores_definition_order hreorders
  have hfilters : ∀ filter ∈ hesitatingFilters.filters, filter.IgnoresOrder := by
    intro filter hfilter
    rw [List.mem_singleton.mp hfilter]
    exact (hignores.2.2 "Check" "" ["recheck", "again"]).2.2
  have hcomputes : hesitatingFilters.Computes 1 fun _ offered _ _ =>
      .ok (offered.filter fun flow => flow.id ∈ ["recheck", "again"]) :=
    .single (List.nodup_singleton _) 0
  have hspares : hesitatingFilters.Spares .fresh := hcomputes.spares fun _ => rfl
  have hfirst : first.Returns request .fresh
      (.error (.multiplePaths "File" "Check" ["again", "recheck"])) := ⟨1, by decide +kernel⟩
  have hsecond : second.Returns request .fresh
      (.error (.multiplePaths "File" "Check" ["recheck", "again"])) := ⟨1, by decide +kernel⟩
  obtain ⟨found, hfound, hsame⟩ :=
    ((hignores.2.1 _ _ hbuild hotherBuild _ hfilters request).1 .fresh hspares).forth _ hfirst
  rw [hfound.unique hsecond] at hsame
  exact ⟨hreorders, hbuild, hotherBuild, hfilters, hspares, hfirst, hsecond, hsame⟩

end Navigator

end CaseRouting
