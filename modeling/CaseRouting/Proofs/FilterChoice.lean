import CaseRouting.Proofs.LockStep
import CaseRouting.Proofs.Route

/-!
# What a filter can choose

A filter chooses among the flows that it is offered, and all that counts is which of their ids its
answer contains. Two navigations whose filters choose the same flows return the same, however the
answers differ otherwise and whenever they come. Whatever filters answer, the element that a
navigation returns is the one that flows of the definition lead to.
-/

namespace CaseRouting

/-- Two answers that contain the same ids of the flows offered, or fail in the same way. Order,
repetitions, made-up flows and changed fields do not count. -/
def SameChoice (offered : List SequenceFlow) : FilterAnswer → FilterAnswer → Prop
  | .ok first, .ok second => ∀ flow ∈ offered,
      flow.id ∈ first.map SequenceFlow.id ↔ flow.id ∈ second.map SequenceFlow.id
  | .error first, .error second => first = second
  | _, _ => False

/-- Whether two answers make the same choice. -/
instance (offered : List SequenceFlow) :
    (first second : FilterAnswer) → Decidable (SameChoice offered first second)
  | .ok first, .ok second => inferInstanceAs (Decidable (∀ flow ∈ offered,
      flow.id ∈ first.map SequenceFlow.id ↔ flow.id ∈ second.map SequenceFlow.id))
  | .error first, .error second => inferInstanceAs (Decidable (first = second))
  | .ok _, .error _ => inferInstanceAs (Decidable False)
  | .error _, .ok _ => inferInstanceAs (Decidable False)

/-- Two activities of which either both never answer or both make the same choice, be it after
different numbers of polls. -/
def Activity.ChoosesLike (offered : List SequenceFlow) (first second : Activity) : Prop :=
  (∀ answer, first.Returns answer →
    ∃ other, second.Returns other ∧ SameChoice offered answer other) ∧
  ∀ other, second.Returns other → ∃ answer, first.Returns answer ∧ SameChoice offered answer other

/-- Two registries that have filters for the same gateways, which make the same choice in every call
that offers the flows of their gateway. -/
structure FilterRegistry.ChoosesLike (graph : ProcessGraph) (first second : FilterRegistry) :
    Prop where
  /-- The same gateways have filters. -/
  contains_eq : ∀ gatewayId, first.contains gatewayId = second.contains gatewayId
  /-- The filters of a gateway make the same choice. -/
  choice : ∀ filter ∈ first.filters, ∀ other ∈ second.filters, filter.gatewayId = other.gatewayId →
    ∀ number case context,
      (filter.start number (graph.outgoingFlows filter.gatewayId) case context).ChoosesLike
        (graph.outgoingFlows filter.gatewayId)
        (other.start number (graph.outgoingFlows filter.gatewayId) case context)

/-- A flow of the definition leads from a node to another, told by the ids at its ends. -/
def ProcessDefinition.Connects (definition : ProcessDefinition) (node target : Node) : Prop :=
  ∃ flow ∈ definition.flows, flow.source = node.id ∧ flow.target = target.id

/-- The same choice is made both ways, as the relation treats both answers alike. -/
theorem SameChoice.symm {offered : List SequenceFlow} {first second : FilterAnswer}
    (h : SameChoice offered first second) : SameChoice offered second first := by
  cases first with
  | ok first =>
    cases second with
    | ok second => exact fun flow hflow => (h flow hflow).symm
    | error error => exact h.elim
  | error error =>
    cases second with
    | ok second => exact h.elim
    | error other => exact Eq.symm h

/-- Activities that answer with the same choice choose alike, for neither has another answer. -/
theorem Activity.ChoosesLike.of_returns {offered : List SequenceFlow} {first second : Activity}
    {answer other : FilterAnswer} (hfirst : first.Returns answer) (hsecond : second.Returns other)
    (h : SameChoice offered answer other) : first.ChoosesLike offered second := by
  refine ⟨fun found hfound => ⟨other, hsecond, ?_⟩, fun found hfound => ⟨answer, hfirst, ?_⟩⟩
  · rwa [hfound.unique hfirst]
  · rwa [hfound.unique hsecond]

/-- Registries choose alike both ways, gateway by gateway. -/
theorem FilterRegistry.ChoosesLike.symm {graph : ProcessGraph} {first second : FilterRegistry}
    (h : first.ChoosesLike graph second) : second.ChoosesLike graph first where
  contains_eq := fun gatewayId => (h.contains_eq gatewayId).symm
  choice := by
    intro other hother filter hfilter hid number case context
    obtain ⟨hleft, hright⟩ := h.choice filter hfilter other hother hid.symm number case context
    rw [← hid] at hleft hright
    refine ⟨fun answer hanswer => ?_, fun answer hanswer => ?_⟩
    · obtain ⟨found, hfound, hsame⟩ := hright answer hanswer
      exact ⟨found, hfound, hsame.symm⟩
    · obtain ⟨found, hfound, hsame⟩ := hleft answer hanswer
      exact ⟨found, hfound, hsame.symm⟩

namespace Navigator

variable {request : NavigationRequest} {token : Token} {patience : Nat}

/-- Answers that make the same choice settle the selection in the same way: what is kept of the
flows is the same list. -/
theorem settle_eq_of_sameChoice {node : Node} {flows : List SequenceFlow}
    {first second : FilterAnswer} (h : SameChoice flows first second) :
    settle request node flows (.answered first) = settle request node flows (.answered second) := by
  cases first with
  | ok first =>
    cases second with
    | ok second =>
      have hkept : keptOf flows first = keptOf flows second :=
        List.filter_congr fun flow hflow => decide_eq_decide.mpr (h flow hflow)
      rw [settle, settle, hkept]
    | error error => exact h.elim
  | error error =>
    cases second with
    | ok second => exact h.elim
    | error other => rw [show error = other from h]

section TwoRegistries

variable {graph : ProcessGraph} {first second : FilterRegistry}

/-- Registries that choose alike have the same calls due, as the same gateways have filters. -/
theorem dueCall?_of_choosesLike (h : first.ChoosesLike graph second) (node : Node) :
    (Navigator.mk graph first).dueCall? request node =
      (Navigator.mk graph second).dueCall? request node := by
  have hregistered : node.id ∈ first.filters.map GatewayFilter.gatewayId ↔
      node.id ∈ second.filters.map GatewayFilter.gatewayId := by
    rw [← FilterRegistry.contains_iff_mem, h.contains_eq, FilterRegistry.contains_iff_mem]
  unfold dueCall?
  simp only [hregistered]

/-- Registries that choose alike start activities that choose alike, for the call that is due offers
the flows of its gateway. -/
theorem activity?_of_choosesLike (h : first.ChoosesLike graph second) {node : Node}
    {call : FilterCall} (hdue : (Navigator.mk graph first).dueCall? request node = some call)
    {number : Nat} {activity other : Activity}
    (hactivity : (Navigator.mk graph first).activity? number call = some activity)
    (hother : (Navigator.mk graph second).activity? number call = some other) :
    activity.ChoosesLike call.offered other := by
  obtain ⟨filter, hfilter, hid, rfl⟩ := exists_filter_of_activity? hactivity
  obtain ⟨otherFilter, hotherFilter, hotherId, rfl⟩ := exists_filter_of_activity? hother
  have hchoice := h.choice filter hfilter otherFilter hotherFilter (hid.trans hotherId.symm) number
    call.case call.context
  rwa [hid, (gatewayId_of_dueCall? hdue).1, ← offered_of_dueCall? hdue] at hchoice

/-- Navigations with registries that choose alike are in step, with nodes and results related only
to themselves. -/
theorem inStep_of_choosesLike (h : first.ChoosesLike graph second) (request : NavigationRequest) :
    InStep Eq Eq ⟨graph, first⟩ ⟨graph, second⟩ request request where
  ids_iff := by
    rintro node _ gateway _ rfl rfl
    exact Iff.rfl
  kind_eq := by
    rintro node _ rfl
    rfl
  known := fun horigin => ⟨_, horigin, rfl⟩
  unknown := fun horigin => ⟨horigin, rfl⟩
  cycle := by
    rintro gateway _ rfl
    rfl
  unasked := by
    rintro node _ rfl hdue
    exact ⟨(dueCall?_of_choosesLike h node).symm.trans hdue, .refl unasked_ne_pending⟩
  asked := by
    rintro node _ call rfl hdue
    refine ⟨call, (dueCall?_of_choosesLike h node).symm.trans hdue, ?_⟩
    intro number activity activity' hactivity hactivity' answer hanswer
    obtain ⟨other, hother, hsame⟩ :=
      (activity?_of_choosesLike h hdue hactivity hactivity').1 answer hanswer
    refine ⟨other, hother, ?_⟩
    rw [← settle_eq_of_sameChoice hsame]
    refine .refl fun hpending => ?_
    cases settle_eq_none_iff.mp (follow_eq_pending hpending)

/-- Where registries choose alike, a result other than a cancellation can only be replaced by a
cancellation, which depends on when the polls come. -/
theorem returns_or_cancelled_of_choosesLike (h : first.ChoosesLike graph second)
    {result : Except NavigationError (Option Node)} (hresult : result ≠ .error .cancelled)
    (hreturns : (Navigator.mk graph first).Returns request token result) (other : Token) :
    (Navigator.mk graph second).Returns request other result ∨
      (Navigator.mk graph second).Returns request other (.error .cancelled) := by
  rcases (inStep_of_choosesLike h request).returns_or_cancelled hresult hreturns other with
    ⟨found, hfound, rfl⟩ | hcancelled
  · exact .inl hfound
  · exact .inr hcancelled

/-- Where registries choose alike and spare the token, navigations have the same results, as nothing
is left to cancel them. -/
theorem returns_of_choosesLike_of_spares (h : first.ChoosesLike graph second)
    (hfirst : first.Spares token) (hsecond : second.Spares token)
    {result : Except NavigationError (Option Node)}
    (hreturns : (Navigator.mk graph first).Returns request token result) :
    (Navigator.mk graph second).Returns request token result := by
  obtain ⟨found, hfound, rfl⟩ := (inStep_of_choosesLike h request).returns hfirst hsecond hreturns
  exact hfound

end TwoRegistries

section Reached

variable {definition : ProcessDefinition} {registry : FilterRegistry}

/-- A flow that leaves a node of a built graph connects the node with its target, as it is a flow of
the definition. -/
theorem connects_of_outgoing (hwell : definition.WellFormed) {node target : Node}
    {flow : SequenceFlow} (hflow : flow ∈ definition.image.outgoingFlows node.id)
    (htarget : definition.image.node? flow.target = some target) :
    definition.Connects node target := by
  rw [hwell.outgoingFlows_image] at hflow
  obtain ⟨original, horiginal, rfl⟩ := List.mem_map.mp hflow
  obtain ⟨hmem, hsource⟩ := List.mem_filter.mp horiginal
  exact ⟨original, hmem, of_decide_eq_true hsource, (ProcessGraph.mem_of_node? htarget).2.symm⟩

/-- An element that a navigation of a built graph returns is reached from the origin by flows of the
definition that lead through gateways. -/
theorem connected_of_nextElement (hwell : definition.WellFormed) {element : Node}
    (houtcome : ((Navigator.mk definition.image registry).nextElement request token
      patience).outcome = some (.ok (some element))) :
    ∃ origin path, definition.image.node? request.originId = some origin ∧
      (∀ gateway ∈ path, definition.image.node? gateway.id = some gateway ∧
        gateway.isGateway = true) ∧
      (origin :: path ++ [element]).IsChain definition.Connects ∧
      definition.image.node? element.id = some element ∧ element.isGateway = false := by
  cases horigin : definition.image.node? request.originId with
  | none =>
    rw [nextElement_of_unknown horigin] at houtcome
    cases houtcome
  | some origin =>
    have hrouted : (Navigator.mk definition.image registry).Routed origin
        ((Navigator.mk definition.image registry).nextElement request token patience) :=
      nextElement_routed horigin
    have hroute := hrouted.route
    obtain ⟨path, hpath⟩ := List.head?_eq_some_iff.mp hroute.starts
    obtain ⟨last, hlast, flow, hflow, htarget, hplain⟩ := hrouted.arrives element houtcome
    rw [hpath] at hroute hlast
    have hlinked : (origin :: path).IsChain definition.Connects :=
      hroute.linked.imp fun node gateway hleads => by
        obtain ⟨flow, hflow, htarget, -⟩ := hleads
        exact connects_of_outgoing hwell hflow htarget
    refine ⟨origin, path, rfl, ProcessGraph.gateways_of_route hroute,
      hlinked.append (List.isChain_singleton element) ?_, ?_, hplain⟩
    · intro node hnode first hfirst
      rw [hlast, Option.mem_some_iff] at hnode
      rw [List.head?_cons, Option.mem_some_iff] at hfirst
      rw [← hnode, ← hfirst]
      exact connects_of_outgoing hwell hflow htarget
    · rwa [(ProcessGraph.mem_of_node? htarget).2]

/-- Filters decide about a navigation of a built graph only by the ids of the offered flows that
they choose. Where two registries choose alike, navigations that are not cancelled return the same,
and a result that is returned with one of them can only be replaced by a cancellation with the
other. Whatever filters answer, an element that is returned is stored in the graph, is no gateway
and is reached from the origin by flows of the definition that lead through gateways. -/
theorem nextElement_chooses_by_id {graph : ProcessGraph}
    (hbuild : ProcessGraph.build definition = .ok graph) :
    (∀ first second : FilterRegistry, first.ChoosesLike graph second → ∀ request,
      (∀ token, first.Spares token → second.Spares token → ∀ result,
        (Navigator.mk graph first).Returns request token result ↔
          (Navigator.mk graph second).Returns request token result) ∧
      ∀ token other result, result ≠ .error .cancelled →
        (Navigator.mk graph first).Returns request token result →
          (Navigator.mk graph second).Returns request other result ∨
            (Navigator.mk graph second).Returns request other (.error .cancelled)) ∧
    ∀ registry request token patience element,
      ((Navigator.mk graph registry).nextElement request token patience).outcome =
          some (.ok (some element)) →
        ∃ origin path, graph.node? request.originId = some origin ∧
          (∀ gateway ∈ path, graph.node? gateway.id = some gateway ∧ gateway.isGateway = true) ∧
          (origin :: path ++ [element]).IsChain definition.Connects ∧
          graph.node? element.id = some element ∧ element.isGateway = false := by
  obtain ⟨hwell, rfl⟩ := ProcessGraph.build_eq_ok_iff.mp hbuild
  refine ⟨fun first second halike request => ⟨fun token hfirst hsecond result => ⟨?_, ?_⟩, ?_⟩,
    fun registry request token patience element => connected_of_nextElement hwell⟩
  · exact returns_of_choosesLike_of_spares halike hfirst hsecond
  · exact returns_of_choosesLike_of_spares halike.symm hsecond hfirst
  · intro token other result hresult hreturns
    exact returns_or_cancelled_of_choosesLike halike hresult hreturns other

/-- Filters that keep flows by their ids: two at the first gateway, of which one is the default, and
one at the second. -/
def namingFilters : FilterRegistry where
  filters := [.byFlowIds "Check" ["again", "pass"], .byFlowIds "Route" ["notify"]]
  distinct := by decide

/-- Filters that choose the same flows later, in another order and repeatedly, that make up a flow
and that lead flows elsewhere. -/
def forgingFilters : FilterRegistry where
  filters :=
    [⟨"Route", fun _ _ _ _ => .delayed 2 (.done (.ok [⟨"notify", "Route", "End", true, none⟩]))⟩,
      .answering "Check" fun _ _ _ => .ok [⟨"pass", "Start", "File", false, none⟩,
        ⟨"skip", "Check", "End", true, none⟩, ⟨"again", "Check", "Route", true, none⟩,
        ⟨"pass", "Check", "Check", false, none⟩]]
  distinct := by decide

/-- The filters choose alike in the process of requests, and a request that is filed comes to the
message with either, with one of them only at the third poll. -/
theorem nextElement_chooses_by_id_requestProcess :
    ProcessGraph.build requestProcess = .ok requestProcess.image ∧
      namingFilters.ChoosesLike requestProcess.image forgingFilters ∧
      ((Navigator.mk requestProcess.image namingFilters).nextElement ⟨"File", none, .blank⟩
        .detached 1).outcome =
          some (.ok (some (requestProcess.imageNode (.task "Notify" "message")))) ∧
      (Navigator.mk requestProcess.image forgingFilters).Returns ⟨"File", none, .blank⟩ .detached
        (.ok (some (requestProcess.imageNode (.task "Notify" "message")))) := by
  have hbuild : ProcessGraph.build requestProcess = .ok requestProcess.image := rfl
  have halike : namingFilters.ChoosesLike requestProcess.image forgingFilters := by
    refine ⟨fun gatewayId => ?_, ?_⟩
    · rw [Bool.eq_iff_iff, FilterRegistry.contains_iff_mem, FilterRegistry.contains_iff_mem]
      exact List.Perm.mem_iff (List.Perm.swap "Route" "Check" [])
    · intro filter hfilter other hother hid number case context
      have hnotify : SameChoice (requestProcess.image.outgoingFlows "Route")
          (.ok ((requestProcess.image.outgoingFlows "Route").filter fun flow =>
            flow.id ∈ ["notify"])) (.ok [⟨"notify", "Route", "End", true, none⟩]) := by decide
      have hpass : SameChoice (requestProcess.image.outgoingFlows "Check")
          (.ok ((requestProcess.image.outgoingFlows "Check").filter fun flow =>
            flow.id ∈ ["again", "pass"]))
          (.ok [⟨"pass", "Start", "File", false, none⟩, ⟨"skip", "Check", "End", true, none⟩,
            ⟨"again", "Check", "Route", true, none⟩, ⟨"pass", "Check", "Check", false, none⟩]) := by
        decide
      rcases List.mem_pair.mp hfilter with rfl | rfl <;>
        rcases List.mem_pair.mp hother with rfl | rfl
      · exact absurd hid (by decide)
      · exact .of_returns ⟨1, rfl⟩ ⟨1, rfl⟩ hpass
      · exact .of_returns ⟨1, rfl⟩ ⟨3, rfl⟩ hnotify
      · exact absurd hid (by decide)
  have hnaming : ((Navigator.mk requestProcess.image namingFilters).nextElement
      ⟨"File", none, .blank⟩ .detached 1).outcome =
        some (.ok (some (requestProcess.imageNode (.task "Notify" "message")))) := by
    decide +kernel
  have hforging := (((nextElement_chooses_by_id hbuild).1 _ _ halike ⟨"File", none, .blank⟩).1
    .detached trivial trivial _).mp ⟨1, hnaming⟩
  exact ⟨hbuild, halike, hnaming, hforging⟩

end Reached

end Navigator

end CaseRouting
