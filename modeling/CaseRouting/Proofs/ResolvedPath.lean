import CaseRouting.Proofs.MaximalChain
import CaseRouting.Proofs.Patience

/-!
# The resolved path of a navigation

From a node the selection may enter a gateway. The resolved path follows these gateways from the
origin until it cannot be continued to a new one, and what happens at its last node concludes the
navigation. Where filters answer by functions and nobody cancels the call, every navigation of a
built graph follows this path and has its conclusion as outcome.
-/

namespace CaseRouting

namespace Navigator

/-- The selection at a node leads to a gateway, so that a navigation would go on from there. -/
def Enters (navigator : Navigator) (answers : String → AnswerFunction)
    (request : NavigationRequest) (node gateway : Node) : Prop :=
  ∃ flow, navigator.selection answers request node = .ok flow ∧
    navigator.graph.node? flow.target = some gateway ∧ gateway.isGateway = true

/-- The outcome of a navigation that follows its path to a last node, by the four ways in which a
path can end. -/
inductive Concludes (navigator : Navigator) (answers : String → AnswerFunction)
    (request : NavigationRequest) (last : Node) :
    Except NavigationError (Option Node) → Prop where
  /-- No flow leaves the node. -/
  | deadEnd (hnone : navigator.graph.outgoingFlows last.id = []) :
    Concludes navigator answers request last (.ok none)
  /-- No flow can be selected. -/
  | failed {error : NavigationError} (hsome : navigator.graph.outgoingFlows last.id ≠ [])
    (hfailed : navigator.selection answers request last = .error error) :
    Concludes navigator answers request last (.error error)
  /-- The flow selected leads to a node that is no gateway. -/
  | arrived {flow : SequenceFlow} {target : Node}
    (hselected : navigator.selection answers request last = .ok flow)
    (htarget : navigator.graph.node? flow.target = some target)
    (hplain : target.isGateway = false) :
    Concludes navigator answers request last (.ok (some target))
  /-- The flow selected leads to a gateway. If nothing continues the path, it is a gateway that
  the path has visited. -/
  | cycle {gateway : Node} (henters : navigator.Enters answers request last gateway) :
    Concludes navigator answers request last
      (.error (.cycleDetected request.originId gateway.id))

/-- What a pass comes to where filters answer by functions and nobody cancels the call: a function
of the node alone. -/
def resolution (navigator : Navigator) (answers : String → AnswerFunction)
    (request : NavigationRequest) (node : Node) : PassEnd :=
  if (navigator.graph.outgoingFlows node.id).isEmpty then .stopped (some (.ok none))
  else navigator.follow (some (navigator.selection answers request node))

/-- The gateways visited so far are those of the path from the origin. This is what a walk keeps
from node to node. -/
structure Explored (navigator : Navigator) (answers : String → AnswerFunction)
    (request : NavigationRequest) (origin : Node) (visited : List String) (path : List Node) :
    Prop where
  /-- The path enters gateway after gateway and none of them twice. -/
  simple : IsSimpleChain (navigator.Enters answers request) origin path
  /-- The ids of its gateways are the visited ones. -/
  visited_iff : ∀ id, id ∈ visited ↔ ∃ gateway ∈ path, gateway.isGateway = true ∧ gateway.id = id
  /-- The path consists of nodes of the graph. -/
  known : ∀ node ∈ path, navigator.graph.node? node.id = some node

/-- A run that follows the resolved path from the origin and has its conclusion as outcome. There is
no such run but one, as path and conclusion are determined. -/
structure Resolves (navigator : Navigator) (answers : String → AnswerFunction)
    (request : NavigationRequest) (origin : Node) (run : NavigationRun) (last : Node)
    (outcome : Except NavigationError (Option Node)) : Prop where
  /-- The trail enters gateways as long as it can. -/
  maximal : IsMaximalChain (navigator.Enters answers request) origin run.trail
  /-- The trail ends at the last node. -/
  last_eq : run.trail.getLast? = some last
  /-- What happens at the last node concludes the navigation. -/
  concludes : navigator.Concludes answers request last outcome
  /-- The run returns this conclusion. -/
  outcome_eq : run.outcome = some outcome

variable {navigator : Navigator} {answers : String → AnswerFunction}
  {request : NavigationRequest}

/-- The candidate that is taken is one of the candidates, also where it is taken by default. -/
theorem mem_of_decision {node : Node} {candidates : List SequenceFlow} {flow : SequenceFlow}
    (h : navigator.decision request node candidates = .ok flow) : flow ∈ candidates := by
  unfold decision at h
  split at h
  · cases h
  · cases h
    exact List.mem_cons_self
  · split at h
    · cases h
    · split at h
      · next hdefault =>
        cases h
        exact hdefault
      · cases h

/-- The flow selected at a node leaves the node, whatever a filter answers there. -/
theorem mem_outgoingFlows_of_selection {node : Node} {flow : SequenceFlow}
    (h : navigator.selection answers request node = .ok flow) :
    flow ∈ navigator.graph.outgoingFlows node.id := by
  unfold selection at h
  split at h
  · next only honly =>
    cases h
    rw [honly]
    exact List.mem_cons_self
  · split at h
    · cases h
    · next candidates hcandidates =>
      exact mem_outgoingFlows_of_candidates hcandidates (mem_of_decision h)

/-- A node with a selected flow is left by some flow, namely the one selected. -/
theorem outgoingFlows_ne_nil_of_selection {node : Node} {flow : SequenceFlow}
    (h : navigator.selection answers request node = .ok flow) :
    navigator.graph.outgoingFlows node.id ≠ [] :=
  List.ne_nil_of_mem (mem_outgoingFlows_of_selection h)

/-- From a node one gateway is entered at most, since one flow is selected and a flow has one
target. -/
theorem enters_rightUnique : Relator.RightUnique (navigator.Enters answers request) := by
  rintro node first second ⟨flow, hflow, hfirst, -⟩ ⟨other, hother, hsecond, -⟩
  rw [hflow, Except.ok.injEq] at hother
  rw [hother, hsecond, Option.some.injEq] at hfirst
  exact hfirst.symm

/-- A gateway that is entered is a gateway of the graph, and is found by its own id. -/
theorem Enters.known {node gateway : Node} (h : navigator.Enters answers request node gateway) :
    navigator.graph.node? gateway.id = some gateway ∧ gateway.isGateway = true := by
  obtain ⟨flow, -, htarget, hgateway⟩ := h
  rw [(ProcessGraph.mem_of_node? htarget).2]
  exact ⟨htarget, hgateway⟩

/-- A pass comes to a gateway exactly when the selection enters it, so that passes and the path go
the same way. -/
theorem resolution_eq_entered_iff {node gateway : Node} :
    navigator.resolution answers request node = .entered gateway ↔
      navigator.Enters answers request node gateway := by
  constructor
  · intro h
    unfold resolution at h
    split at h
    · cases h
    · unfold follow at h
      split at h
      · cases h
      · cases h
      · next flow hflow =>
        split at h
        · cases h
        · next target htarget =>
          split at h
          · next hgateway =>
            cases h
            exact ⟨flow, Option.some.inj hflow,
              ProcessGraph.targetNode_eq_ok_iff.mp htarget, hgateway⟩
          · cases h
  · rintro ⟨flow, hflow, htarget, hgateway⟩
    have hsome := outgoingFlows_ne_nil_of_selection hflow
    unfold resolution
    rw [if_neg (mt List.isEmpty_iff.mp hsome), hflow, follow_of_found htarget, if_pos hgateway]

/-- A conclusion is what a pass comes to, if that is no gateway, and else the cycle there, named by
the gateway. -/
theorem Concludes.resolution_eq {node : Node} {outcome : Except NavigationError (Option Node)}
    (h : navigator.Concludes answers request node outcome) :
    navigator.resolution answers request node = .stopped (some outcome) ∨
      ∃ gateway, navigator.resolution answers request node = .entered gateway ∧
        outcome = .error (.cycleDetected request.originId gateway.id) := by
  cases h with
  | deadEnd hnone =>
    left
    unfold resolution
    rw [if_pos (List.isEmpty_iff.mpr hnone)]
  | failed hsome hfailed =>
    left
    unfold resolution follow
    rw [if_neg (mt List.isEmpty_iff.mp hsome), hfailed]
  | arrived hselected htarget hplain =>
    left
    have hsome := outgoingFlows_ne_nil_of_selection hselected
    unfold resolution
    rw [if_neg (mt List.isEmpty_iff.mp hsome), hselected, follow_of_found htarget,
      if_neg (Bool.eq_false_iff.mp hplain)]
  | cycle henters => exact .inr ⟨_, resolution_eq_entered_iff.mpr henters, rfl⟩

/-- A path is concluded at its last node in one way only, because the resolution of the node is
one. -/
theorem Concludes.unique {node : Node} {first second : Except NavigationError (Option Node)}
    (hfirst : navigator.Concludes answers request node first)
    (hsecond : navigator.Concludes answers request node second) : first = second := by
  rcases hfirst.resolution_eq with hstop | ⟨gateway, hgateway, rfl⟩ <;>
    rcases hsecond.resolution_eq with hother | ⟨other, hother, rfl⟩
  · rw [hstop, PassEnd.stopped.injEq, Option.some.injEq] at hother
    exact hother
  · rw [hstop] at hother
    cases hother
  · rw [hgateway] at hother
    cases hother
  · rw [hgateway, PassEnd.entered.injEq] at hother
    rw [hother]

/-- In a built graph, a pass that comes to no gateway concludes the path. A flow without a target,
which would be a fifth way to end, does not occur. -/
theorem exists_concludes_of_resolution {definition : ProcessDefinition}
    {registry : FilterRegistry} (hwell : definition.WellFormed) {node : Node}
    {stop : Option (Except NavigationError (Option Node))}
    (h : (Navigator.mk definition.image registry).resolution answers request node =
      .stopped stop) :
    ∃ outcome, stop = some outcome ∧
      (Navigator.mk definition.image registry).Concludes answers request node outcome := by
  unfold resolution at h
  split at h
  · next hnone =>
    cases h
    exact ⟨_, rfl, .deadEnd (List.isEmpty_iff.mp hnone)⟩
  · next hsome =>
    cases hselection :
      (Navigator.mk definition.image registry).selection answers request node with
    | error error =>
      rw [hselection] at h
      cases h
      exact ⟨_, rfl, .failed (mt List.isEmpty_iff.mpr hsome) hselection⟩
    | ok flow =>
      obtain ⟨target, htarget⟩ :=
        hwell.target_known (mem_outgoingFlows_of_selection hselection)
      rw [hselection, follow_of_found htarget] at h
      split at h
      · cases h
      · next hplain =>
        cases h
        exact ⟨_, rfl, .arrived hselection htarget (Bool.eq_false_iff.mpr hplain)⟩

namespace Explored

variable {origin : Node} {visited : List String} {trail : List Node} {last gateway : Node}

/-- Nothing but the origin has been visited at the start, and the path is the origin alone. -/
theorem start (horigin : navigator.graph.node? origin.id = some origin) :
    navigator.Explored answers request origin (if origin.isGateway then [origin.id] else [])
      [origin] where
  simple := .singleton _ origin
  visited_iff := by
    intro id
    by_cases hgateway : origin.isGateway = true
    · simp only [hgateway, if_true, List.mem_singleton, exists_eq_left, true_and]
      exact eq_comm
    · simp [hgateway]
  known := by
    intro node hnode
    rwa [List.mem_singleton.mp hnode]

/-- Entering a gateway that has not been visited continues the path, which then has the gateway as
its last node. -/
theorem enter (h : navigator.Explored answers request origin visited (trail ++ [last]))
    (henters : navigator.Enters answers request last gateway) (hnew : gateway.id ∉ visited) :
    navigator.Explored answers request origin (gateway.id :: visited)
      (trail ++ [last] ++ [gateway]) where
  simple := by
    refine h.simple.snoc henters fun hmem => hnew ?_
    exact (h.visited_iff gateway.id).mpr ⟨gateway, hmem, henters.known.2, rfl⟩
  visited_iff := by
    intro id
    rw [List.mem_cons, h.visited_iff]
    constructor
    · rintro (rfl | ⟨other, hother, hgateway, hid⟩)
      · exact ⟨gateway, List.mem_append_right _ List.mem_cons_self, henters.known.2, rfl⟩
      · exact ⟨other, List.mem_append_left _ hother, hgateway, hid⟩
    · rintro ⟨other, hother, hgateway, hid⟩
      rcases List.mem_append.mp hother with hother | hother
      · exact .inr ⟨other, hother, hgateway, hid⟩
      · rw [List.mem_singleton.mp hother] at hid
        exact .inl hid.symm
  known := by
    intro node hnode
    rcases List.mem_append.mp hnode with hnode | hnode
    · exact h.known node hnode
    · rw [List.mem_singleton.mp hnode]
      exact henters.known.1

/-- A gateway that is entered again is on the path, because a node of the graph is determined by its
id. -/
theorem mem_of_visited (h : navigator.Explored answers request origin visited trail)
    (henters : navigator.Enters answers request last gateway) (hvisited : gateway.id ∈ visited) :
    gateway ∈ trail := by
  obtain ⟨other, hother, -, hid⟩ := (h.visited_iff gateway.id).mp hvisited
  have hknown := h.known other hother
  rw [hid, henters.known.1, Option.some.injEq] at hknown
  rwa [hknown]

/-- A journey that has explored a path resolves it where nothing continues the path: all that can be
entered from its last node is on it. -/
theorem resolves (h : navigator.Explored answers request origin visited (trail ++ [last]))
    (hclosed : ∀ gateway, navigator.Enters answers request last gateway →
      gateway ∈ trail ++ [last])
    {outcome : Except NavigationError (Option Node)}
    (hconcludes : navigator.Concludes answers request last outcome) {journey : Journey}
    (hjourney : journey.trail = trail ++ [last]) :
    navigator.Resolves answers request origin (journey.ending (some outcome)) last outcome := by
  have hlast : (journey.ending (some outcome)).trail.getLast? = some last := by
    rw [Journey.ending, hjourney, List.getLast?_concat]
  refine ⟨⟨?_, ?_⟩, hlast, hconcludes, rfl⟩
  · rw [Journey.ending, hjourney]
    exact h.simple
  · intro final hfinal gateway henters
    rw [hlast, Option.some.injEq] at hfinal
    rw [← hfinal] at henters
    rw [Journey.ending, hjourney]
    exact hclosed gateway henters

end Explored

section Runs

variable {definition : ProcessDefinition} {registry : FilterRegistry} {token : Token}
  {patience : Nat}

/-- Where filters answer by functions and nobody cancels the call, a pass comes to what its
resolution says, unless a filter is still suspended, and leaves the node on the trail. The token
stays live for the next pass. -/
theorem resolution_of_pass (hwell : definition.WellFormed)
    (hregistry : registry.Realizes answers) (htoken : registry.Spares token) {node : Node}
    {journey next : Journey} (hclock : token.StaysLive journey.clock.polls) {ended : PassEnd}
    (hpass : (Navigator.mk definition.image registry).pass request token patience node journey =
      (ended, next)) :
    (ended = .stopped none ∨
        (Navigator.mk definition.image registry).resolution answers request node = ended) ∧
      next.trail = journey.trail ++ [node] ∧ token.StaysLive next.clock.polls := by
  unfold pass at hpass
  unfold resolution
  dsimp only at hpass ⊢
  split at hpass
  · next hnone =>
    cases hpass
    rw [if_pos hnone]
    exact ⟨.inr rfl, rfl, hclock⟩
  · next hsome =>
    have hvisit : token.StaysLive (journey.visit node).clock.polls := hclock
    obtain ⟨selected, clock, calls, hselect, hlive, hselected⟩ :=
      select_eq_selection hwell hregistry htoken patience node hvisit
    rw [hselect] at hpass
    cases hpass
    rw [if_neg hsome]
    rcases hselected with rfl | rfl
    · exact ⟨.inl rfl, rfl, hlive⟩
    · exact ⟨.inr rfl, rfl, hlive⟩

/-- A walk that has explored a path goes on to resolve it, unless a filter is still suspended. The
induction is along the walk, and the path explored grows with it. -/
theorem walk_resolves_of_ended (hwell : definition.WellFormed)
    (hregistry : registry.Realizes answers) (htoken : registry.Spares token)
    (origin : Node) (visited : List String) (node : Node) (journey : Journey) :
    (Navigator.mk definition.image registry).Explored answers request origin visited
        (journey.trail ++ [node]) →
      token.StaysLive journey.clock.polls →
      ((Navigator.mk definition.image registry).walk request token patience visited node
        journey).outcome ≠ none →
      ∃ last outcome, (Navigator.mk definition.image registry).Resolves answers request origin
        ((Navigator.mk definition.image registry).walk request token patience visited node
          journey) last outcome := by
  refine walk_induction ?_ ?_ ?_ visited node journey
  · intro visited node journey stop next hpass hexplored hclock hended
    obtain ⟨hstop, htrail, -⟩ := resolution_of_pass hwell hregistry htoken hclock hpass
    rcases hstop with hpending | hstop
    · exact absurd (PassEnd.stopped.inj hpending) hended
    · obtain ⟨outcome, rfl, hconcludes⟩ := exists_concludes_of_resolution hwell hstop
      refine ⟨node, outcome, hexplored.resolves (fun gateway henters => ?_) hconcludes htrail⟩
      rw [resolution_eq_entered_iff.mpr henters] at hstop
      cases hstop
  · intro visited node journey gateway next hpass hvisited hexplored hclock _
    obtain ⟨hentered, htrail, -⟩ := resolution_of_pass hwell hregistry htoken hclock hpass
    have henters := resolution_eq_entered_iff.mp (hentered.resolve_left (by simp))
    refine ⟨node, _, hexplored.resolves (fun other hother => ?_) (.cycle henters) htrail⟩
    rw [enters_rightUnique hother henters]
    exact hexplored.mem_of_visited henters hvisited
  · intro visited node journey gateway next hpass hnew ih hexplored hclock hended
    obtain ⟨hentered, htrail, hlive⟩ := resolution_of_pass hwell hregistry htoken hclock hpass
    have henters := resolution_eq_entered_iff.mp (hentered.resolve_left (by simp))
    refine ih ?_ hlive hended
    rw [htrail]
    exact hexplored.enter henters hnew

/-- A walk that has explored a path goes on to resolve it, where the filters answer within the
patience of the walk. -/
theorem walk_resolves (hwell : definition.WellFormed)
    (hregistry : registry.Computes patience answers) (htoken : token.NeverCancelled)
    (origin : Node) (visited : List String) (node : Node) (journey : Journey)
    (hexplored : (Navigator.mk definition.image registry).Explored answers request origin visited
      (journey.trail ++ [node]))
    (hclock : journey.clock.cancelled = false) :
    ∃ last outcome, (Navigator.mk definition.image registry).Resolves answers request origin
      ((Navigator.mk definition.image registry).walk request token patience visited node
        journey) last outcome := by
  refine walk_resolves_of_ended hwell hregistry.realizes (hregistry.spares htoken) origin visited
    node journey hexplored (.of_not_cancelled htoken hclock) (walk_ne_pending ?_ _ _ _)
  intro filter hfilter count offered case context
  exact ⟨_, (hregistry filter hfilter).answered count offered case context⟩

/-- Where filters answer by functions and nobody cancels the call, a navigation of a built graph
fails at an unknown origin. From a known origin there is exactly one maximal path of gateways, what
happens at its last node concludes it in exactly one way, and the navigation follows the path and
returns the conclusion. -/
theorem nextElement_follows_resolvedPath {graph : ProcessGraph}
    (hbuild : ProcessGraph.build definition = .ok graph)
    (hregistry : registry.Computes patience answers) (htoken : token.NeverCancelled) :
    (graph.node? request.originId = none →
      ((Navigator.mk graph registry).nextElement request token patience).outcome =
        some (.error (.nodeNotFound request.originId))) ∧
    ∀ origin, graph.node? request.originId = some origin →
      ∃ path last outcome,
        (∀ other, IsMaximalChain ((Navigator.mk graph registry).Enters answers request) origin
          other ↔ other = path) ∧
        path.getLast? = some last ∧
        (∀ other, (Navigator.mk graph registry).Concludes answers request last other ↔
          other = outcome) ∧
        ((Navigator.mk graph registry).nextElement request token patience).trail = path ∧
        ((Navigator.mk graph registry).nextElement request token patience).outcome =
          some outcome := by
  obtain ⟨hwell, rfl⟩ := ProcessGraph.build_eq_ok_iff.mp hbuild
  constructor
  · intro hnone
    exact congrArg NavigationRun.outcome (nextElement_of_unknown hnone)
  · intro origin horigin
    have hknown : definition.image.node? origin.id = some origin := by
      rwa [(ProcessGraph.mem_of_node? horigin).2]
    have hexplored : (Navigator.mk definition.image registry).Explored answers request origin
        (if origin.isGateway then [origin.id] else []) [origin] := .start hknown
    obtain ⟨last, outcome, hresolves⟩ :=
      walk_resolves hwell hregistry htoken origin _ origin .start hexplored rfl
    have hrun : (Navigator.mk definition.image registry).nextElement request token patience =
        (Navigator.mk definition.image registry).walk request token patience
          (if origin.isGateway then [origin.id] else []) origin .start :=
      nextElement_of_known horigin
    rw [hrun]
    refine ⟨_, last, outcome, fun other => ⟨fun hother => ?_, ?_⟩, hresolves.last_eq,
      fun other => ⟨fun hother => hother.unique hresolves.concludes, ?_⟩, rfl,
      hresolves.outcome_eq⟩
    · exact hother.unique enters_rightUnique hresolves.maximal
    · rintro rfl
      exact hresolves.maximal
    · rintro rfl
      exact hresolves.concludes

end Runs

section Requests

/-- Requests are checked by the action of the caller; behind the check there is only the default
flow. -/
def requestFilters : FilterRegistry := ⟨[.byAction "Check"], List.nodup_singleton _⟩

/-- The filter of checks as a function, which is that of every filter by the action of the
caller. -/
def requestAnswers : String → AnswerFunction := fun _ offered _ context =>
  .ok (offered.filter fun flow => flow.condition = context.action)

/-- A request is filed without an action, in a case about which nothing is known. -/
def fileRequest : NavigationRequest := ⟨"File", none, .blank⟩

/-- What becomes of a request is decided by the action of the caller, behind its check. -/
def routeFilters : FilterRegistry := ⟨[.byAction "Route"], List.nodup_singleton _⟩

/-- A request is filed with the action that asks for a message, as the condition of one flow names
it. -/
def messageRequest : NavigationRequest := ⟨"File", some "message", .blank⟩

/-- From the filing of a request the path enters both gateways, the first by the default flow among
several. At the second one the filter leaves a single flow, which is not the default, and leads to
the message; where no filter is asked there, the default flow ends the case. -/
theorem nextElement_follows_resolvedPath_requestProcess :
    ProcessGraph.build requestProcess = .ok requestProcess.image ∧
      routeFilters.Computes 1 requestAnswers ∧ Token.fresh.NeverCancelled ∧
      ((Navigator.mk requestProcess.image routeFilters).nextElement messageRequest .fresh 1).trail =
        [requestProcess.imageNode (.task "File" "data"),
          requestProcess.imageNode (.gateway "Check"),
          requestProcess.imageNode (.gateway "Route")] ∧
      ((Navigator.mk requestProcess.image routeFilters).nextElement messageRequest .fresh
        1).outcome = some (.ok (some (requestProcess.imageNode (.task "Notify" "message")))) ∧
      ((Navigator.mk requestProcess.image .empty).nextElement messageRequest .fresh 1).outcome =
        some (.ok (some (requestProcess.imageNode (.endEvent "End")))) := by
  have hbuild : ProcessGraph.build requestProcess = .ok requestProcess.image := rfl
  have hcomputes : routeFilters.Computes 1 requestAnswers := by
    intro filter hfilter
    rw [List.mem_singleton.mp hfilter]
    exact .answering "Route" _ 0
  have htoken : Token.fresh.NeverCancelled := fun _ => rfl
  have horigin : requestProcess.image.node? messageRequest.originId =
      some (requestProcess.imageNode (.task "File" "data")) := rfl
  obtain ⟨path, last, outcome, hpath, hlast, houtcome, htrail, hrun⟩ :=
    (nextElement_follows_resolvedPath hbuild hcomputes htoken).2 _ horigin
  have hmaximal : IsMaximalChain
      ((Navigator.mk requestProcess.image routeFilters).Enters requestAnswers messageRequest)
      (requestProcess.imageNode (.task "File" "data"))
      [requestProcess.imageNode (.task "File" "data"),
        requestProcess.imageNode (.gateway "Check"),
        requestProcess.imageNode (.gateway "Route")] := by
    refine ⟨⟨rfl, ?_, by decide⟩, ?_⟩
    · rw [List.isChain_cons_cons, List.isChain_cons_cons]
      exact ⟨⟨_, rfl, rfl, rfl⟩, ⟨_, rfl, rfl, rfl⟩, List.isChain_singleton _⟩
    · rintro _ ⟨rfl⟩ next ⟨flow, hflow, htarget, hgateway⟩
      cases hflow
      cases htarget
      cases hgateway
  obtain rfl := (hpath _).mp hmaximal
  cases hlast
  have hend : (.ok (some (requestProcess.imageNode (.task "Notify" "message")))) = outcome :=
    (houtcome _).mp (.arrived rfl rfl rfl)
  rw [← hend] at hrun
  exact ⟨hbuild, hcomputes, htoken, htrail, hrun, by decide +kernel⟩

end Requests

end Navigator

end CaseRouting
