import CaseRouting.Proofs.CycleGuard

/-!
# Navigating through a gateway and from it

A navigation that enters a gateway goes on as a navigation that starts at this gateway, if the
filters do not use where the navigation has started. Both return the same or fail in the same way,
each naming its own origin. Only where gateways form a cycle may they name different gateways of it:
the walks come round at different places.
-/

namespace CaseRouting

/-- The functions by which the filters of a registry answer do not use the origin of the navigation,
although they are told it. -/
def FilterRegistry.IgnoresOrigin (registry : FilterRegistry) (answers : String → AnswerFunction) :
    Prop :=
  ∀ filter ∈ registry.filters, ∀ offered case context originId,
    answers filter.gatewayId offered case { context with originId := originId } =
      answers filter.gatewayId offered case context

/-- The same request from another origin, with the same action and the same case. -/
def NavigationRequest.startingAt (request : NavigationRequest) (originId : String) :
    NavigationRequest :=
  { request with originId := originId }

/-- Two failed selections that differ in the origin which they name, and in nothing else. -/
inductive NavigationError.SameButOrigin (first second : String) :
    NavigationError → NavigationError → Prop where
  | zeroPaths (gatewayId : String) :
    SameButOrigin first second (.zeroPaths first gatewayId) (.zeroPaths second gatewayId)
  | multiplePaths (nodeId : String) (candidates : List String) :
    SameButOrigin first second (.multiplePaths first nodeId candidates)
      (.multiplePaths second nodeId candidates)
  | filterFailed (error : FilterError) :
    SameButOrigin first second (.filterFailed error) (.filterFailed error)

namespace Navigator

/-- Two results that are the same but for the origins of the navigations and for which gateway of a
cycle is named. Of a cycle both gateways must be on it. -/
inductive Corresponds (navigator : Navigator) (answers : String → AnswerFunction)
    (request : NavigationRequest) (first second : String) :
    Except NavigationError (Option Node) → Except NavigationError (Option Node) → Prop where
  /-- The same element is found, or none. -/
  | found (element : Option Node) :
    Corresponds navigator answers request first second (.ok element) (.ok element)
  /-- The same selection fails. -/
  | failed {error other : NavigationError} (hsame : error.SameButOrigin first second other) :
    Corresponds navigator answers request first second (.error error) (.error other)
  /-- Two gateways are named from each of which the selections lead to the other. -/
  | cycle {gateway other : Node}
    (honward : Relation.TransGen (navigator.Enters answers request) gateway other)
    (hback : Relation.TransGen (navigator.Enters answers request) other gateway) :
    Corresponds navigator answers request first second
      (.error (.cycleDetected first gateway.id)) (.error (.cycleDetected second other.id))

variable {navigator : Navigator} {answers : String → AnswerFunction}
  {request : NavigationRequest} {originId : String} {token : Token}

/-- Filters that do not use the origin leave the same candidates from another origin, or fail with
the same error. -/
theorem candidates_startingAt (hignores : navigator.registry.IgnoresOrigin answers) (node : Node) :
    navigator.candidates answers (request.startingAt originId) node =
      navigator.candidates answers request node := by
  unfold candidates
  dsimp only
  split
  · next hasked =>
    obtain ⟨filter, hmem, hid⟩ := List.mem_map.mp hasked.2
    have hanswer := hignores filter hmem (navigator.graph.outgoingFlows node.id) request.case
      (request.context node.id) originId
    rw [hid] at hanswer
    have hcontext : (request.startingAt originId).context node.id =
        { request.context node.id with originId := originId } := rfl
    rw [hcontext, NavigationRequest.startingAt, hanswer]
  · rfl

/-- From another origin the same candidate is taken, or the decision fails in the same way, as only
its error mentions the origin. -/
theorem decision_startingAt (node : Node) (candidates : List SequenceFlow) :
    (∃ flow, navigator.decision request node candidates = .ok flow ∧
        navigator.decision (request.startingAt originId) node candidates = .ok flow) ∨
      ∃ error other, navigator.decision request node candidates = .error error ∧
        navigator.decision (request.startingAt originId) node candidates = .error other ∧
        error.SameButOrigin request.originId originId other := by
  match candidates with
  | [] => exact .inr ⟨_, _, rfl, rfl, .zeroPaths _⟩
  | [only] => exact .inl ⟨only, rfl, rfl⟩
  | first :: second :: rest =>
    unfold decision
    cases navigator.graph.defaultFlow? node.id with
    | none => exact .inr ⟨_, _, rfl, rfl, .multiplePaths _ _⟩
    | some default =>
      by_cases hmem : default ∈ first :: second :: rest
      · simp only [if_pos hmem]
        exact .inl ⟨default, rfl, rfl⟩
      · simp only [if_neg hmem]
        exact .inr ⟨_, _, rfl, rfl, .multiplePaths _ _⟩

/-- From another origin the same flow is selected, or the selection fails in the same way, be it by
a filter or by what is left. -/
theorem selection_startingAt (hignores : navigator.registry.IgnoresOrigin answers)
    (request : NavigationRequest) (originId : String) (node : Node) :
    (∃ flow, navigator.selection answers request node = .ok flow ∧
        navigator.selection answers (request.startingAt originId) node = .ok flow) ∨
      ∃ error other, navigator.selection answers request node = .error error ∧
        navigator.selection answers (request.startingAt originId) node = .error other ∧
        error.SameButOrigin request.originId originId other := by
  unfold selection
  rw [candidates_startingAt hignores]
  split
  · next only honly => exact .inl ⟨only, rfl, rfl⟩
  · cases navigator.candidates answers request node with
    | error failure => exact .inr ⟨_, _, rfl, rfl, .filterFailed failure⟩
    | ok candidates => exact decision_startingAt node candidates

/-- Selections lead to the same gateways from another origin, so that paths from there are paths of
the first navigation too. -/
theorem enters_startingAt (hignores : navigator.registry.IgnoresOrigin answers) :
    navigator.Enters answers (request.startingAt originId) = navigator.Enters answers request := by
  funext node gateway
  unfold Enters
  rcases selection_startingAt hignores request originId node with
    ⟨flow, hflow, hother⟩ | ⟨error, other, herror, hother, -⟩
  · rw [hflow, hother]
  · rw [herror, hother]
    simp

/-- What concludes a path that enters no gateway at its end concludes it from another origin, but
for the origin that is named. -/
theorem Concludes.startingAt (hignores : navigator.registry.IgnoresOrigin answers) {last : Node}
    {outcome : Except NavigationError (Option Node)}
    (h : navigator.Concludes answers request last outcome)
    (hends : ∀ gateway, ¬navigator.Enters answers request last gateway) (originId : String) :
    ∃ other, navigator.Concludes answers (request.startingAt originId) last other ∧
      navigator.Corresponds answers request request.originId originId outcome other := by
  cases h with
  | deadEnd hnone => exact ⟨_, .deadEnd hnone, .found none⟩
  | failed hsome hfailed =>
    rcases selection_startingAt hignores request originId last with
      ⟨flow, hflow, -⟩ | ⟨error, other, herror, hother, hsame⟩
    · rw [hfailed] at hflow
      cases hflow
    · rw [hfailed, Except.error.injEq] at herror
      exact ⟨_, .failed hsome hother, .failed (herror ▸ hsame)⟩
  | arrived hselected htarget hplain =>
    rcases selection_startingAt hignores request originId last with
      ⟨flow, hflow, hother⟩ | ⟨error, other, herror, -⟩
    · rw [hselected, Except.ok.injEq] at hflow
      exact ⟨_, .arrived (hflow ▸ hother) htarget hplain, .found _⟩
    · rw [hselected] at herror
      cases herror
  | cycle henters => exact absurd henters (hends _)

section Built

variable {definition : ProcessDefinition} {registry : FilterRegistry}

/-- A navigation of a built graph from a known origin has a result, which concludes a maximal path
of gateways. Filters that answer by functions answer with enough patience. -/
theorem exists_resolution (hwell : definition.WellFormed) (hregistry : registry.Realizes answers)
    (htoken : registry.Spares token) {origin : Node}
    (horigin : definition.image.node? request.originId = some origin) :
    ∃ path last result,
      IsMaximalChain ((Navigator.mk definition.image registry).Enters answers request) origin
        path ∧
      path.getLast? = some last ∧
      (Navigator.mk definition.image registry).Concludes answers request last result ∧
      (Navigator.mk definition.image registry).Returns request token result := by
  have hends : ∃ result, (Navigator.mk definition.image registry).Returns request token result :=
    exists_returns fun _ _ _ _ _ => exists_answer_of_realizes hregistry
  obtain ⟨result, patience, houtcome⟩ := hends
  have hreturns : (Navigator.mk definition.image registry).Returns request token result :=
    ⟨patience, houtcome⟩
  have hknown : definition.image.node? origin.id = some origin := by
    rwa [(ProcessGraph.mem_of_node? horigin).2]
  rw [nextElement_of_known horigin] at houtcome
  obtain ⟨last, outcome, hresolves⟩ := walk_resolves_of_ended hwell hregistry htoken origin _
    origin .start (.start hknown) (.of_spares htoken)
    (Option.ne_none_iff_exists'.mpr ⟨_, houtcome⟩)
  have hconcludes := hresolves.concludes
  rw [hresolves.outcome_eq, Option.some.injEq] at houtcome
  rw [houtcome] at hconcludes
  exact ⟨_, last, result, hresolves.maximal, hresolves.last_eq, hconcludes, hreturns⟩

section Onward

variable {node gateway last final : Node} {rest path : List Node}
  {result other : Except NavigationError (Option Node)}
  (hignores : registry.IgnoresOrigin answers)
  (hpath : IsMaximalChain ((Navigator.mk definition.image registry).Enters answers request) node
    (node :: rest))
  (hlast : (node :: rest).getLast? = some last)
  (henters : (Navigator.mk definition.image registry).Enters answers request node gateway)
  (hresult : (Navigator.mk definition.image registry).Concludes answers request last result)
  (honward : IsMaximalChain ((Navigator.mk definition.image registry).Enters answers request)
    gateway path)
  (hfinal : path.getLast? = some final)
  (hother : (Navigator.mk definition.image registry).Concludes answers
    (request.startingAt gateway.id) final other)

include hignores hpath hlast henters hresult honward hfinal hother

/-- If the path of a navigation comes back to the origin, the navigation from the gateway behind the
origin goes round the same cycle and names this gateway: its path is the other one, turned by one
step. -/
theorem corresponds_of_back
    (hback : (Navigator.mk definition.image registry).Enters answers request last node) :
    (Navigator.mk definition.image registry).Corresponds answers request request.originId gateway.id
      result other := by
  obtain rfl := (hpath.rotate enters_rightUnique henters hlast hback).unique enters_rightUnique
    honward
  rw [List.getLast?_concat, Option.some.injEq] at hfinal
  subst hfinal
  have hreturned : (Navigator.mk definition.image registry).Enters answers
      (request.startingAt gateway.id) node gateway := by
    rwa [enters_startingAt hignores]
  obtain rfl := hresult.unique (.cycle hback)
  obtain rfl := hother.unique (.cycle hreturned)
  have hmem : last ∈ rest ++ [node] :=
    (List.perm_append_singleton node rest).mem_iff.mpr (List.mem_of_getLast? hlast)
  exact .cycle (.single henters) (.tail' (honward.reaches hmem) hback)

/-- If the path of a navigation does not come back to the origin, the navigation from the gateway
behind the origin is concluded at the same node: its path is the rest of the other one. -/
theorem corresponds_of_not_back
    (hback : ¬(Navigator.mk definition.image registry).Enters answers request last node) :
    (Navigator.mk definition.image registry).Corresponds answers request request.originId gateway.id
      result other := by
  obtain rfl := (hpath.onward enters_rightUnique henters hlast hback).unique enters_rightUnique
    honward
  obtain rfl : final = last := by
    rwa [List.getLast?_cons, hfinal, Option.getD_some, Option.some.injEq] at hlast
  by_cases hends : ∃ closing,
      (Navigator.mk definition.image registry).Enters answers request final closing
  · obtain ⟨closing, hclosing⟩ := hends
    have hreturned : (Navigator.mk definition.image registry).Enters answers
        (request.startingAt gateway.id) final closing := by
      rwa [enters_startingAt hignores]
    obtain rfl := hresult.unique (.cycle hclosing)
    obtain rfl := hother.unique (.cycle hreturned)
    have hcycle := hpath.closes hlast hclosing (hpath.closed final hlast closing hclosing)
    exact .cycle hcycle hcycle
  · obtain ⟨found, hfound, hsame⟩ :=
      hresult.startingAt hignores (fun closing h => hends ⟨closing, h⟩) gateway.id
    rwa [hother.unique hfound]

end Onward

/-- A navigation of a built graph in which the flow selected at the origin leads to a gateway comes
to the same as a navigation from this gateway, where filters answer by functions that do not use the
origin and nobody cancels the calls. -/
theorem nextElement_through_gateway {graph : ProcessGraph}
    (hbuild : ProcessGraph.build definition = .ok graph) (hregistry : registry.Realizes answers)
    (hignores : registry.IgnoresOrigin answers) {other : Token} (htoken : registry.Spares token)
    (hother : registry.Spares other) {node gateway : Node}
    (hnode : graph.node? request.originId = some node)
    (henters : (Navigator.mk graph registry).Enters answers request node gateway) :
    ∃ result found, (Navigator.mk graph registry).Returns request token result ∧
      (Navigator.mk graph registry).Returns (request.startingAt gateway.id) other found ∧
      (Navigator.mk graph registry).Corresponds answers request request.originId gateway.id result
        found := by
  obtain ⟨hwell, rfl⟩ := ProcessGraph.build_eq_ok_iff.mp hbuild
  obtain ⟨path, last, result, hpath, hlast, hresult, hreturns⟩ :=
    exists_resolution hwell hregistry htoken hnode
  have hgateway : definition.image.node? (request.startingAt gateway.id).originId = some gateway :=
    henters.known.1
  obtain ⟨onward, final, found, honward, hfinal, hfound, hfoundReturns⟩ :=
    exists_resolution hwell hregistry hother hgateway
  rw [enters_startingAt hignores] at honward
  refine ⟨result, found, hreturns, hfoundReturns, ?_⟩
  obtain ⟨rest, rfl⟩ := List.head?_eq_some_iff.mp hpath.starts
  by_cases hback : (Navigator.mk definition.image registry).Enters answers request last node
  · exact corresponds_of_back hignores hpath hlast henters hresult honward hfinal hfound hback
  · exact corresponds_of_not_back hignores hpath hlast henters hresult honward hfinal hfound hback

/-- Two gateways that lead to each other, with a way out at the first one, which is no default. -/
def ringProcess : ProcessDefinition :=
  ⟨"ring", none, [.gateway "Left", .gateway "Right", .endEvent "End"],
    [.between "forth" "Left" "Right", .between "leave" "Left" "End",
      .between "back" "Right" "Left"]⟩

/-- The way out of the ring is not taken, as the filter of the first gateway drops it. -/
def ringFilters : FilterRegistry := ⟨[.byFlowIds "Left" ["forth"]], List.nodup_singleton _⟩

/-- The filter of the ring as a function, which uses neither the case nor the context. -/
def ringAnswers : String → AnswerFunction := fun _ offered _ _ =>
  .ok (offered.filter fun flow => flow.id ∈ ["forth"])

/-- The navigations from both gateways of a ring come to a cycle, for which each of them names the
gateway where it has started. -/
theorem nextElement_through_gateway_ringProcess :
    let navigator : Navigator := ⟨ringProcess.image, ringFilters⟩
    let request : NavigationRequest := ⟨"Left", none, .blank⟩
    ProcessGraph.build ringProcess = .ok ringProcess.image ∧ ringFilters.Realizes ringAnswers ∧
      ringFilters.IgnoresOrigin ringAnswers ∧ ringFilters.Spares .fresh ∧
      navigator.Enters ringAnswers request (ringProcess.imageNode (.gateway "Left"))
        (ringProcess.imageNode (.gateway "Right")) ∧
      navigator.Returns request .fresh (.error (.cycleDetected "Left" "Left")) ∧
      navigator.Returns (request.startingAt "Right") .fresh
        (.error (.cycleDetected "Right" "Right")) ∧
      navigator.Corresponds ringAnswers request "Left" "Right"
        (.error (.cycleDetected "Left" "Left")) (.error (.cycleDetected "Right" "Right")) := by
  intro navigator request
  have hbuild : ProcessGraph.build ringProcess = .ok ringProcess.image := rfl
  have hcomputes : ringFilters.Computes 1 ringAnswers := .single (List.nodup_singleton _) 0
  have hregistry : ringFilters.Realizes ringAnswers := hcomputes.realizes
  have hignores : ringFilters.IgnoresOrigin ringAnswers := fun _ _ _ _ _ _ => rfl
  have hspares : ringFilters.Spares .fresh := hcomputes.spares fun _ => rfl
  have henters : navigator.Enters ringAnswers request (ringProcess.imageNode (.gateway "Left"))
      (ringProcess.imageNode (.gateway "Right")) := ⟨_, rfl, rfl, rfl⟩
  have hleft : navigator.Returns request .fresh (.error (.cycleDetected "Left" "Left")) :=
    ⟨1, by decide +kernel⟩
  have hright : navigator.Returns (request.startingAt "Right") .fresh
      (.error (.cycleDetected "Right" "Right")) := ⟨1, by decide +kernel⟩
  obtain ⟨result, found, hresult, hfound, hsame⟩ :=
    nextElement_through_gateway hbuild hregistry hignores hspares hspares rfl henters
  obtain rfl := hresult.unique hleft
  obtain rfl := hfound.unique hright
  exact ⟨hbuild, hregistry, hignores, hspares, henters, hleft, hright, hsame⟩

end Built

end Navigator

end CaseRouting
