import CaseRouting.Proofs.FailureCauses
import CaseRouting.Proofs.ResolvedPath
import CaseRouting.Proofs.RoutingRules

/-!
# How rules decide at gateways

A gateway with several flows whose filter follows a rule is decided in one way, by the graph and the
request alone. The rule by a text of the case takes the flow of that id and leaves no choice open;
the other rules take what the flows they keep determine, with the help of the default flow of the
gateway. Every navigation that visits the gateway goes on as decided there, unless it is cancelled
when it is about to poll the filter.
-/

namespace CaseRouting

/-- How a run goes on behind a node that it visits, if the pass over the node ends so. It is told
from the trail and the outcome of the run. -/
inductive NavigationRun.GoesOn (originId : String) (run : NavigationRun) (node : Node) :
    PassEnd → Prop where
  /-- The node is the last one, and the run ends as the pass does. -/
  | stopped (hlast : run.trail.getLast? = some node) :
      GoesOn originId run node (.stopped run.outcome)
  /-- The gateway is visited next. -/
  | entered {gateway : Node} (hnext : [node, gateway] <:+: run.trail) :
    GoesOn originId run node (.entered gateway)
  /-- The node is the last one, as the gateway has been visited before. -/
  | closed {gateway : Node} (hlast : run.trail.getLast? = some node)
    (hvisited : gateway.id ∈ run.trail.map Node.id)
    (hcycle : run.outcome = some (.error (.cycleDetected originId gateway.id))) :
    GoesOn originId run node (.entered gateway)

/-- What is decided at a node by the flows that its filter has kept. There is one case for each
number of flows, and two for several. -/
inductive Ruling (graph : ProcessGraph) (originId : String) (node : Node)
    (kept : List SequenceFlow) : Except NavigationError SequenceFlow → Prop where
  /-- Without any flow there is no way on, even if the node has a default flow. -/
  | nothing (hkept : kept = []) :
    Ruling graph originId node kept (.error (.zeroPaths originId node.id))
  /-- A single flow is taken, even if another one is the default. -/
  | single {flow : SequenceFlow} (hkept : kept = [flow]) :
      Ruling graph originId node kept (.ok flow)
  /-- Of several flows the default flow of the node is taken. -/
  | preferred {flow : SequenceFlow} (hseveral : 2 ≤ kept.length) (hkept : flow ∈ kept)
    (hdefault : graph.defaultFlow? node.id = some flow) : Ruling graph originId node kept (.ok flow)
  /-- Several flows without the default flow leave the choice open. -/
  | undecided (hseveral : 2 ≤ kept.length)
    (hdefault : ∀ flow ∈ kept, graph.defaultFlow? node.id ≠ some flow) :
    Ruling graph originId node kept
      (.error (.multiplePaths originId node.id (kept.map SequenceFlow.id)))

/-- Navigations are decided at a node in one way, in which they select and in which they go on. -/
structure Navigator.Decides (navigator : Navigator) (request : NavigationRequest) (node : Node)
    (decision : Except NavigationError SequenceFlow) : Prop where
  /-- The selection at the node is the decision whenever the token is not cancelled. -/
  selected : ∀ token patience journey, 0 < patience →
    journey.clock.isCancelled token = false →
      (navigator.select request token patience node (navigator.graph.outgoingFlows node.id)
        journey).1 = some decision
  /-- A navigation that visits the node goes on as decided, unless it is cancelled there. -/
  followed : ∀ token patience, 0 < patience →
    node ∈ (navigator.nextElement request token patience).trail →
      (navigator.nextElement request token patience).GoesOn request.originId node
          (navigator.follow (some decision)) ∨
        (navigator.nextElement request token patience).GoesOn request.originId node
            (.stopped (some (.error .cancelled))) ∧ ¬navigator.registry.Spares token

/-- Behind a pass that stops, the run ends at its node and as the pass does, since nothing comes
behind it. -/
theorem NavigationRun.GoesOn.of_stopped {originId : String} {run : NavigationRun} {node : Node}
    {outcome : Option (Except NavigationError (Option Node))}
    (h : run.GoesOn originId node (.stopped outcome)) :
    run.trail.getLast? = some node ∧ run.outcome = outcome := by
  cases h with
  | stopped hlast => exact ⟨hlast, rfl⟩

namespace Navigator

variable {navigator : Navigator} {request : NavigationRequest} {token : Token} {patience : Nat}

/-- A node is decided in one way at most, for a decision is what is selected there with a token that
nobody cancels. -/
theorem Decides.unique {node : Node} {first second : Except NavigationError SequenceFlow}
    (hfirst : navigator.Decides request node first)
    (hsecond : navigator.Decides request node second) : first = second := by
  have hselected := hfirst.selected .detached 1 .start Nat.one_pos rfl
  rw [hsecond.selected .detached 1 .start Nat.one_pos rfl] at hselected
  exact (Option.some.inj hselected).symm

/-- Every node that a walk visits is passed over, and the walk goes on as the pass ends. The pass
over a gateway that is entered is recorded right behind that over the node. -/
theorem walk_goesOn (visited : List String) (node : Node) (journey : Journey) :
    visited ⊆ (journey.trail ++ [node]).map Node.id →
      ∀ passed ∈ (navigator.walk request token patience visited node journey).trail,
        passed ∈ journey.trail ∨ ∃ earlier ended next,
          navigator.pass request token patience passed earlier = (ended, next) ∧
            (navigator.walk request token patience visited node journey).GoesOn request.originId
              passed ended := by
  refine walk_induction ?_ ?_ ?_ visited node journey
  · intro visited node journey outcome next hpass _ passed hpassed
    have htrail : (next.ending outcome).trail = journey.trail ++ [node] := (pass_follows hpass).1
    rw [htrail] at hpassed
    refine (List.mem_append.mp hpassed).imp_right fun hlast => ?_
    rw [List.mem_singleton.mp hlast]
    refine ⟨journey, _, next, hpass, .stopped ?_⟩
    rw [htrail, List.getLast?_concat]
  · intro visited node journey gateway next hpass hvisited hsubset passed hpassed
    have htrail := (pass_follows hpass).1
    dsimp only [Journey.ending] at hpassed ⊢
    rw [htrail] at hpassed
    refine (List.mem_append.mp hpassed).imp_right fun hlast => ?_
    rw [List.mem_singleton.mp hlast]
    refine ⟨journey, _, next, hpass, .closed ?_ ?_ rfl⟩
    · rw [htrail, List.getLast?_concat]
    · rw [htrail]
      exact hsubset hvisited
  · intro visited node journey gateway next hpass hnew ih hsubset passed hpassed
    have htrail := (pass_follows hpass).1
    have hvisited : gateway.id :: visited ⊆ (next.trail ++ [gateway]).map Node.id := by
      rw [htrail, List.map_append, List.map_singleton]
      intro id hid
      rcases List.mem_cons.mp hid with rfl | hid
      · exact List.mem_append_right _ (List.mem_singleton_self _)
      · exact List.mem_append_left _ (hsubset hid)
    rcases ih hvisited passed hpassed with hearlier | hlater
    · rw [htrail] at hearlier
      refine (List.mem_append.mp hearlier).imp_right fun hlast => ?_
      rw [List.mem_singleton.mp hlast]
      refine ⟨journey, _, next, hpass, .entered ?_⟩
      match hentered : navigator.pass request token patience gateway next with
      | (ended, further) =>
        have hfurther := (pass_follows hentered).1
        rw [htrail, List.append_assoc] at hfurther
        obtain ⟨rest, hrest⟩ := (continues_walk_of_pass (gateway.id :: visited) hentered).trail
        rw [hfurther] at hrest
        exact ⟨journey.trail, rest, hrest⟩
    · exact .inr hlater

/-- Every node that a navigation visits is passed over, and the navigation goes on as the pass ends.
Earlier nodes leave their journey to the pass. -/
theorem nextElement_goesOn {node : Node}
    (hnode : node ∈ (navigator.nextElement request token patience).trail) :
    ∃ earlier ended next, navigator.pass request token patience node earlier = (ended, next) ∧
      (navigator.nextElement request token patience).GoesOn request.originId node ended := by
  cases horigin : navigator.graph.node? request.originId with
  | none =>
    rw [nextElement_of_unknown horigin] at hnode
    cases hnode
  | some origin =>
    rw [nextElement_of_known horigin] at hnode ⊢
    refine (walk_goesOn _ origin .start ?_ node hnode).resolve_left (List.not_mem_nil)
    split
    · exact List.Subset.refl _
    · exact List.nil_subset _

/-- A navigation from a node of the graph visits it, before anything can end the navigation. -/
theorem origin_mem_trail {origin : Node}
    (horigin : navigator.graph.node? request.originId = some origin) :
    origin ∈ (navigator.nextElement request token patience).trail := by
  have hrouted : navigator.Routed origin (navigator.nextElement request token patience) :=
    nextElement_routed horigin
  exact List.mem_of_mem_head? (Option.mem_def.mpr hrouted.route.starts)

/-- Several flows are decided by the default flow of the node, if it is one of them, and otherwise
not at all. -/
theorem decision_of_several {node : Node} {kept : List SequenceFlow} (hseveral : 2 ≤ kept.length) :
    navigator.decision request node kept =
      match navigator.graph.defaultFlow? node.id with
      | none => .error (.multiplePaths request.originId node.id (kept.map SequenceFlow.id))
      | some default =>
        if default ∈ kept then .ok default
        else .error (.multiplePaths request.originId node.id (kept.map SequenceFlow.id)) := by
  match kept with
  | [] => cases hseveral
  | [only] => exact absurd hseveral (by simp)
  | first :: second :: rest => rfl

/-- There is one ruling on the flows that have been kept, and this is the decision about them. -/
theorem ruling_iff {node : Node} {kept : List SequenceFlow}
    {decision : Except NavigationError SequenceFlow} :
    Ruling navigator.graph request.originId node kept decision ↔
      decision = navigator.decision request node kept := by
  constructor
  · intro h
    cases h with
    | nothing hkept => rw [hkept, Navigator.decision]
    | single hkept => rw [hkept, Navigator.decision]
    | preferred hseveral hkept hdefault =>
      rw [decision_of_several hseveral, hdefault]
      exact (if_pos hkept).symm
    | undecided hseveral hdefault =>
      rw [decision_of_several hseveral]
      cases hsome : navigator.graph.defaultFlow? node.id with
      | none => rfl
      | some default => exact (if_neg fun hkept => hdefault default hkept hsome).symm
  · rintro rfl
    match hlength : kept with
    | [] => exact .nothing rfl
    | [only] => exact .single rfl
    | first :: second :: rest =>
      have hseveral : 2 ≤ (first :: second :: rest).length := by simp
      rw [decision_of_several hseveral]
      cases hsome : navigator.graph.defaultFlow? node.id with
      | none => exact .undecided hseveral fun flow _ => by simp [hsome]
      | some default =>
        by_cases hkept : default ∈ first :: second :: rest
        · simp only [if_pos hkept]
          exact .preferred hseveral hkept hsome
        · simp only [if_neg hkept]
          refine .undecided hseveral fun flow hflow hflowDefault => hkept ?_
          rw [hsome, Option.some.injEq] at hflowDefault
          rwa [hflowDefault]

section Built

variable {definition : ProcessDefinition} {registry : FilterRegistry}

/-- With a rule at a gateway, the selection is decided by the flows that the rule keeps, unless the
token is cancelled when the filter is due. -/
theorem select_of_rule (hwell : definition.WellFormed) {gateway : Node}
    (hgateway : gateway.isGateway = true)
    (hseveral : 2 ≤ (definition.image.outgoingFlows gateway.id).length) {rule : RoutingRule}
    (hrule : registry.resolve gateway.id = .custom (rule.filter gateway.id))
    (hpatience : 0 < patience) (journey : Journey) :
    ((Navigator.mk definition.image registry).select request token patience gateway
        (definition.image.outgoingFlows gateway.id) journey).1 =
      some (if journey.clock.isCancelled token = true then .error .cancelled
        else (Navigator.mk definition.image registry).decision request gateway
          (rule.kept (definition.image.outgoingFlows gateway.id) request.case
            (request.context gateway.id))) := by
  have hmany (only : SequenceFlow) : definition.image.outgoingFlows gateway.id ≠ [only] := by
    intro honly
    rw [honly] at hseveral
    exact absurd hseveral (by simp)
  have hfilter : (Navigator.mk definition.image registry).filterAt? gateway =
      some (rule.filter gateway.id) := by
    unfold filterAt?
    rw [if_pos hgateway, hrule]
  obtain ⟨rest, rfl⟩ : ∃ rest, patience = rest + 1 := ⟨patience - 1, by omega⟩
  rw [select_of_filterAt?_some hmany hfilter, ask, waitFor, RoutingRule.start_filter]
  dsimp only
  by_cases hcancelled : journey.clock.isCancelled token = true
  · rw [if_pos hcancelled, awaitReply_of_cancelled hcancelled]
    rfl
  · rw [if_neg hcancelled, awaitReply_of_not_cancelled (Bool.eq_false_iff.mpr hcancelled)]
    dsimp only [Activity.done, settle, RoutingRule.kept]
    rw [keptOf_filter (hwell.outgoingFlows_ids_nodup gateway.id)]
    exact congrArg some
      (decideFlow_eq_decision hwell gateway fun flow => List.mem_of_mem_filter)

/-- With a rule at a gateway, a pass goes on as decided by the flows that the rule keeps, or ends as
cancelled, whatever the journey before it. -/
theorem pass_of_rule (hwell : definition.WellFormed) {gateway : Node}
    (hgateway : gateway.isGateway = true)
    (hseveral : 2 ≤ (definition.image.outgoingFlows gateway.id).length) {rule : RoutingRule}
    (hrule : registry.resolve gateway.id = .custom (rule.filter gateway.id))
    (hpatience : 0 < patience) {journey next : Journey} {ended : PassEnd}
    (hpass : (Navigator.mk definition.image registry).pass request token patience gateway journey =
      (ended, next)) :
    ended = (Navigator.mk definition.image registry).follow
        (some ((Navigator.mk definition.image registry).decision request gateway
          (rule.kept (definition.image.outgoingFlows gateway.id) request.case
            (request.context gateway.id)))) ∨
      ended = .stopped (some (.error .cancelled)) := by
  have hsome : ¬(definition.image.outgoingFlows gateway.id).isEmpty = true := by
    rw [List.isEmpty_iff_length_eq_zero]
    omega
  unfold pass at hpass
  dsimp only at hpass
  rw [if_neg hsome, select_of_rule hwell hgateway hseveral hrule hpatience, Prod.mk.injEq] at hpass
  rw [← hpass.1]
  split
  · exact .inr rfl
  · exact .inl rfl

/-- With a rule at a gateway, navigations are decided there by the flows that the rule keeps. Only a
cancellation keeps them from it, and that needs somebody who cancels. -/
theorem decides_of_rule (hwell : definition.WellFormed) {gateway : Node}
    (hgateway : gateway.isGateway = true)
    (hseveral : 2 ≤ (definition.image.outgoingFlows gateway.id).length) {rule : RoutingRule}
    (hrule : registry.resolve gateway.id = .custom (rule.filter gateway.id)) :
    (Navigator.mk definition.image registry).Decides request gateway
      ((Navigator.mk definition.image registry).decision request gateway
        (rule.kept (definition.image.outgoingFlows gateway.id) request.case
          (request.context gateway.id))) where
  selected := fun token patience journey hpatience hlive => by
    rw [select_of_rule hwell hgateway hseveral hrule hpatience, if_neg (by simp [hlive])]
  followed := fun token patience hpatience hvisited => by
    obtain ⟨earlier, ended, next, hpass, hgoesOn⟩ := nextElement_goesOn hvisited
    rcases pass_of_rule hwell hgateway hseveral hrule hpatience hpass with rfl | rfl
    · exact .inl hgoesOn
    · refine .inr ⟨hgoesOn, fun hspares => ?_⟩
      exact nextElement_ne_cancelled (nextElement_staysLive hspares) hgoesOn.of_stopped.2

/-- With a rule at a gateway, the decision about the flows that the rule keeps is the only one, so
that each decision can be told from the flows. -/
theorem decides_iff_of_rule (rule : RoutingRule) (hwell : definition.WellFormed) {gateway : Node}
    (hgateway : gateway.isGateway = true)
    (hseveral : 2 ≤ (definition.image.outgoingFlows gateway.id).length)
    (hrule : registry.resolve gateway.id = .custom (rule.filter gateway.id))
    {decision : Except NavigationError SequenceFlow} :
    (Navigator.mk definition.image registry).Decides request gateway decision ↔
      decision = (Navigator.mk definition.image registry).decision request gateway
        (rule.kept (definition.image.outgoingFlows gateway.id) request.case
          (request.context gateway.id)) := by
  have hdecides : (Navigator.mk definition.image registry).Decides request gateway _ :=
    decides_of_rule hwell hgateway hseveral hrule
  exact ⟨fun h => h.unique hdecides, fun h => h ▸ hdecides⟩

/-- With the rule by a text of the case, the flow of that id is taken, or there is no way on; a
default flow does not help. -/
theorem decision_dataValue (registry : FilterRegistry) (hwell : definition.WellFormed)
    (gateway : Node) (key : String) :
    (∃ flow ∈ definition.image.outgoingFlows gateway.id,
      request.case.dataValue? key = some flow.id ∧
        (Navigator.mk definition.image registry).decision request gateway
          ((RoutingRule.dataValue key).kept (definition.image.outgoingFlows gateway.id) request.case
            (request.context gateway.id)) = .ok flow) ∨
      (∀ flow ∈ definition.image.outgoingFlows gateway.id,
        request.case.dataValue? key ≠ some flow.id) ∧
        (Navigator.mk definition.image registry).decision request gateway
          ((RoutingRule.dataValue key).kept (definition.image.outgoingFlows gateway.id) request.case
            (request.context gateway.id)) = .error (.zeroPaths request.originId gateway.id) := by
  by_cases hsome : ∃ flow ∈ definition.image.outgoingFlows gateway.id,
      request.case.dataValue? key = some flow.id
  · obtain ⟨flow, hflow, hvalue⟩ := hsome
    refine .inl ⟨flow, hflow, hvalue, ?_⟩
    rw [RoutingRule.kept_dataValue_of_mem (hwell.outgoingFlows_ids_nodup gateway.id) hflow hvalue,
      Navigator.decision]
  · push Not at hsome
    refine .inr ⟨hsome, ?_⟩
    rw [RoutingRule.kept_dataValue_of_forall_ne hsome, Navigator.decision]

/-- A navigation that leaves the choice open at a node has passed over the node, and ended there
with this error. -/
theorem exists_pass_of_multiplePaths (hwell : definition.WellFormed) {originId nodeId : String}
    {candidates : List String}
    (houtcome : ((Navigator.mk definition.image registry).nextElement request token
      patience).outcome = some (.error (.multiplePaths originId nodeId candidates))) :
    ∃ node earlier next, definition.image.node? nodeId = some node ∧ node.id = nodeId ∧
      (Navigator.mk definition.image registry).pass request token patience node earlier =
        (.stopped (some (.error (.multiplePaths originId nodeId candidates))), next) := by
  cases horigin : definition.image.node? request.originId with
  | none =>
    rw [nextElement_of_unknown horigin] at houtcome
    cases houtcome
  | some origin =>
    obtain ⟨last, earlier, ended, next, hlast, hpass, hended⟩ :=
      walk_ends (Navigator.mk definition.image registry) request token patience
        (if origin.isGateway then [origin.id] else []) origin .start (by
          split
          · exact List.Subset.refl _
          · exact List.nil_subset _)
    rw [← nextElement_of_known horigin, houtcome] at hended
    rw [← nextElement_of_known horigin] at hlast
    rcases hended with rfl | ⟨gateway, -, -, hcycle⟩
    · have hknown : definition.image.node? last.id = some last :=
        known_of_mem_trail (List.mem_of_getLast? hlast)
      cases stuck_of_pass hwell hpass
      exact ⟨last, earlier, next, hknown, rfl, hpass⟩
    · cases hcycle

/-- With a rule at a gateway, a navigation leaves the choice open there only if the flows that the
rule keeps do. Without patience the filter is not polled, and with more patience the navigation is
the same. -/
theorem decision_of_multiplePaths (rule : RoutingRule) (hwell : definition.WellFormed)
    {gateway : Node} (hknown : definition.image.node? gateway.id = some gateway)
    (hgateway : gateway.isGateway = true)
    (hseveral : 2 ≤ (definition.image.outgoingFlows gateway.id).length)
    (hrule : registry.resolve gateway.id = .custom (rule.filter gateway.id)) {originId : String}
    {candidates : List String}
    (houtcome : ((Navigator.mk definition.image registry).nextElement request token
      patience).outcome = some (.error (.multiplePaths originId gateway.id candidates))) :
    (Navigator.mk definition.image registry).decision request gateway
        (rule.kept (definition.image.outgoingFlows gateway.id) request.case
          (request.context gateway.id)) =
      .error (.multiplePaths originId gateway.id candidates) := by
  obtain ⟨node, earlier, next, hnode, hid, hpass⟩ :=
    exists_pass_of_multiplePaths hwell (outcome_of_le (Nat.le_succ patience) houtcome)
  rw [hknown, Option.some.injEq] at hnode
  rw [← hnode] at hpass
  rcases pass_of_rule hwell hgateway hseveral hrule (Nat.succ_pos patience) hpass with
    hdecided | hcancelled
  · rcases follow_eq_error hdecided.symm with hdecision | ⟨id, hnotFound⟩
    · exact Option.some.inj hdecision
    · cases hnotFound
  · cases hcancelled

/-- The filters of the library decide navigations at a gateway with several flows, whatever other
gateways are decided by, whoever cancels the call and at whichever node it starts. With the filter
by a text of the case, the flow of that id is taken, there is no way on without such a flow, and the
choice is never left open. With the other filters the flows that have the action as their condition,
or one of the given ids, determine the ruling. -/
theorem nextElement_decided_by_rule {graph : ProcessGraph}
    (hbuild : ProcessGraph.build definition = .ok graph) {gateway : Node}
    (hknown : graph.node? gateway.id = some gateway) (hgateway : gateway.isGateway = true)
    (hseveral : 2 ≤ (graph.outgoingFlows gateway.id).length) (registry : FilterRegistry)
    (request : NavigationRequest) :
    (request.originId = gateway.id → ∀ token patience,
      gateway ∈ ((Navigator.mk graph registry).nextElement request token patience).trail) ∧
    (∀ key, registry.resolve gateway.id = .custom (.byDataValue gateway.id key) →
      (∀ flow, (Navigator.mk graph registry).Decides request gateway (.ok flow) ↔
        flow ∈ graph.outgoingFlows gateway.id ∧ request.case.dataValue? key = some flow.id) ∧
      ((∀ flow ∈ graph.outgoingFlows gateway.id, request.case.dataValue? key ≠ some flow.id) →
        (Navigator.mk graph registry).Decides request gateway
          (.error (.zeroPaths request.originId gateway.id))) ∧
      ∀ token patience originId candidates,
        ((Navigator.mk graph registry).nextElement request token patience).outcome ≠
          some (.error (.multiplePaths originId gateway.id candidates))) ∧
    (registry.resolve gateway.id = .custom (.byAction gateway.id) → ∀ decision,
      (Navigator.mk graph registry).Decides request gateway decision ↔
        Ruling graph request.originId gateway
          ((graph.outgoingFlows gateway.id).filter fun flow => flow.condition = request.action)
          decision) ∧
    ∀ flowIds, registry.resolve gateway.id = .custom (.byFlowIds gateway.id flowIds) → ∀ decision,
      (Navigator.mk graph registry).Decides request gateway decision ↔
        Ruling graph request.originId gateway
          ((graph.outgoingFlows gateway.id).filter fun flow => flow.id ∈ flowIds) decision := by
  obtain ⟨hwell, rfl⟩ := ProcessGraph.build_eq_ok_iff.mp hbuild
  have hruling (rule : RoutingRule)
      (hrule : registry.resolve gateway.id = .custom (rule.filter gateway.id))
      (decision : Except NavigationError SequenceFlow) :
      (Navigator.mk definition.image registry).Decides request gateway decision ↔
        Ruling definition.image request.originId gateway
          (rule.kept (definition.image.outgoingFlows gateway.id) request.case
            (request.context gateway.id)) decision :=
    (decides_iff_of_rule rule hwell hgateway hseveral hrule).trans ruling_iff.symm
  refine ⟨?_, fun key hrule => ⟨fun flow => ?_, fun hnone => ?_, ?_⟩,
    hruling .action,
    fun flowIds => hruling (.flowIds flowIds)⟩
  · intro horigin token patience
    exact origin_mem_trail (by rwa [horigin])
  · rw [decides_iff_of_rule (.dataValue key) hwell hgateway hseveral hrule]
    rcases decision_dataValue registry hwell gateway key with
      ⟨chosen, hchosen, hvalue, hdecision⟩ | ⟨hnone, hdecision⟩
    · rw [hdecision, hvalue, Except.ok.injEq, Option.some.injEq]
      constructor
      · rintro rfl
        exact ⟨hchosen, rfl⟩
      · rintro ⟨hflow, hid⟩
        exact List.inj_on_of_nodup_map (hwell.outgoingFlows_ids_nodup gateway.id) hflow hchosen
          hid.symm
    · rw [hdecision]
      exact ⟨fun h => (by cases h), fun ⟨hflow, hvalue⟩ => absurd hvalue (hnone flow hflow)⟩
  · rw [decides_iff_of_rule (.dataValue key) hwell hgateway hseveral hrule]
    rcases decision_dataValue registry hwell gateway key with
      ⟨chosen, hchosen, hvalue, -⟩ | ⟨-, hdecision⟩
    · exact absurd hvalue (hnone chosen hchosen)
    · exact hdecision.symm
  · intro token patience originId candidates houtcome
    have hopen := decision_of_multiplePaths (.dataValue key) hwell hknown hgateway hseveral
      hrule houtcome
    rcases decision_dataValue registry hwell gateway key with
      ⟨chosen, -, -, hdecision⟩ | ⟨-, hdecision⟩
    · rw [hdecision] at hopen
      cases hopen
    · rw [hdecision] at hopen
      cases hopen

/-- Checks are decided by a choice that is set on the case under a key of that name. -/
def choiceFilters : FilterRegistry := ⟨[.byDataValue "Check" "choice"], List.nodup_singleton _⟩

/-- The check of a request that is filed without an action is decided by its default flow, by the
choice that is set, by no flow where no choice is set, or is left open in the order of the
definition. -/
theorem nextElement_decided_by_rule_requestProcess :
    ProcessGraph.build requestProcess = .ok requestProcess.image ∧
      requestProcess.image.node? "Check" = some (requestProcess.imageNode (.gateway "Check")) ∧
      2 ≤ (requestProcess.image.outgoingFlows "Check").length ∧
      (Navigator.mk requestProcess.image requestFilters).Decides fileRequest
        (requestProcess.imageNode (.gateway "Check"))
        (.ok (FlowDefinition.between "pass" "Check" "Route").asDefault.toFlow) ∧
      (Navigator.mk requestProcess.image choiceFilters).Decides
        ⟨"Check", none, CaseData.blank.withValue "choice" "again"⟩
        (requestProcess.imageNode (.gateway "Check"))
        (.ok (FlowDefinition.between "again" "Check" "File").toFlow) ∧
      (Navigator.mk requestProcess.image choiceFilters).Decides fileRequest
        (requestProcess.imageNode (.gateway "Check")) (.error (.zeroPaths "File" "Check")) ∧
      (Navigator.mk requestProcess.image hesitatingFilters).Decides fileRequest
        (requestProcess.imageNode (.gateway "Check"))
        (.error (.multiplePaths "File" "Check" ["again", "recheck"])) := by
  have hbuild : ProcessGraph.build requestProcess = .ok requestProcess.image := rfl
  have hknown : requestProcess.image.node? (requestProcess.imageNode (.gateway "Check")).id =
      some (requestProcess.imageNode (.gateway "Check")) := rfl
  have hseveral : 2 ≤ (requestProcess.image.outgoingFlows
      (requestProcess.imageNode (.gateway "Check")).id).length := by decide +kernel
  have hdecided := nextElement_decided_by_rule hbuild hknown rfl hseveral
  refine ⟨hbuild, hknown, hseveral, ?_, ?_, ?_, ?_⟩
  · exact ((hdecided requestFilters fileRequest).2.2.1 rfl _).mpr
      (.preferred (by decide +kernel) (by decide +kernel) rfl)
  · exact (((hdecided choiceFilters _).2.1 "choice" rfl).1 _).mpr ⟨by decide +kernel, rfl⟩
  · exact ((hdecided choiceFilters fileRequest).2.1 "choice" rfl).2.1 (by decide +kernel)
  · exact ((hdecided hesitatingFilters fileRequest).2.2.2 ["recheck", "again"] rfl _).mpr
      (.undecided (by decide +kernel) (by decide +kernel))

end Built

end Navigator

end CaseRouting
