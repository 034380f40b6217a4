import CaseRouting.Proofs.ResolvedPath
import CaseRouting.Proofs.Route

/-!
# What a navigation depends on

A navigation reads of a graph the origin, the gateways that it enters, the flows that leave them and
which targets of these flows are gateways, and of a registry the filters of the gateways where there
is a choice. Where two graphs and two registries agree on that, the navigations keep in step: they
visit nodes of the same ids, make the same calls with the same polls and come to the same end.
Nothing else that a definition or a registry says has an effect.
-/

namespace CaseRouting

/-- Every flow that leaves a node leads to a node, as in the graph of a definition. -/
def ProcessGraph.Closed (graph : ProcessGraph) : Prop :=
  ∀ id, ∀ flow ∈ graph.outgoingFlows id, ∃ target, graph.node? flow.target = some target

/-- An outcome in which the element found is named by its id, which is all that two graphs need to
have in common. -/
def reportOf (outcome : Option (Except NavigationError (Option Node))) :
    Option (Except NavigationError (Option String)) :=
  outcome.map (Except.map (Option.map Node.id))

/-- The ids at which a navigation looks: that of the origin, also if no node has it, and those of
the nodes visited. -/
def NavigationRun.visitedIds (run : NavigationRun) (originId : String) : List String :=
  originId :: run.trail.map Node.id

/-- All that a navigation reads at an id is the same for two navigators. -/
structure Navigator.AgreesAt (first second : Navigator) (id : String) : Prop where
  /-- A node that has the id in one graph has it in the other, as a gateway in both or in none. -/
  status_eq : (second.graph.node? id).map Node.isGateway = (first.graph.node? id).map Node.isGateway
  /-- The same flows leave it. -/
  flows_eq : second.graph.outgoingFlows id = first.graph.outgoingFlows id
  /-- Each of these flows leads to a gateway in both graphs or in none. -/
  targets_eq : ∀ flow ∈ first.graph.outgoingFlows id,
    second.graph.isGateway flow.target = first.graph.isGateway flow.target
  /-- At a gateway with several flows, the flows are narrowed by the same filter or by none. -/
  resolve_eq : first.graph.isGateway id = true → 2 ≤ (first.graph.outgoingFlows id).length →
    second.registry.resolve id = first.registry.resolve id

/-- Two journeys that visited nodes of the same ids, with the same calls and polls. -/
structure Journey.SameRecord (first second : Journey) : Prop where
  /-- Nodes of the same ids have been visited. -/
  trail_eq : second.trail.map Node.id = first.trail.map Node.id
  /-- The same calls have been made. -/
  calls_eq : second.calls = first.calls
  /-- The same polls have taken place. -/
  clock_eq : second.clock = first.clock

/-- Two navigations with the same outcome that visited nodes of the same ids, with the same calls
and polls. -/
structure NavigationRun.SameRecord (first second : NavigationRun) : Prop where
  /-- Elements of the same id are found, or none, or the errors are equal. -/
  report_eq : reportOf second.outcome = reportOf first.outcome
  /-- Nodes of the same ids are visited. -/
  trail_eq : second.trail.map Node.id = first.trail.map Node.id
  /-- The same calls are made. -/
  calls_eq : second.calls = first.calls
  /-- The same polls take place. -/
  polls_eq : second.polls = first.polls

/-- Two passes that stop with the same outcome or enter gateways of the same id, be the gateways
otherwise different. -/
inductive PassEnd.SameIds : PassEnd → PassEnd → Prop where
  | stopped {outcome other : Option (Except NavigationError (Option Node))}
    (hreport : reportOf other = reportOf outcome) : SameIds (.stopped outcome) (.stopped other)
  | entered {gateway other : Node} (hid : other.id = gateway.id) :
    SameIds (.entered gateway) (.entered other)

/-- The graph of a definition leads nowhere else, as the ends of all its flows are known. -/
theorem ProcessDefinition.WellFormed.closed {definition : ProcessDefinition}
    (hwell : definition.WellFormed) : definition.image.Closed :=
  fun _ _ hflow => hwell.target_known hflow

/-- A gateway that is decided in the same way has the same filter, or none in both registries. -/
theorem FilterRegistry.filter?_eq_of_resolve_eq {first second : FilterRegistry}
    {gatewayId : String} (h : second.resolve gatewayId = first.resolve gatewayId) :
    second.filter? gatewayId = first.filter? gatewayId := by
  unfold resolve at h
  cases hfirst : first.filter? gatewayId <;> cases hsecond : second.filter? gatewayId <;>
    simp_all

namespace Journey.SameRecord

variable {journey later : Journey} (h : journey.SameRecord later)

include h

/-- Journeys with the same record have it when nodes of the same id are visited, as the trail is
compared by ids. -/
theorem visit {node other : Node} (hid : other.id = node.id) :
    (journey.visit node).SameRecord (later.visit other) where
  trail_eq := by
    rw [Journey.visit, Journey.visit, List.map_append, List.map_append, h.trail_eq,
      List.map_singleton, List.map_singleton, hid]
  calls_eq := h.calls_eq
  clock_eq := h.clock_eq

/-- Journeys with the same record have it behind the same call, for it counts in both or in
neither. -/
theorem consult (call : FilterCall) (clock : Clock) :
    (journey.consult call clock).SameRecord (later.consult call clock) where
  trail_eq := h.trail_eq
  calls_eq := by
    unfold Journey.consult
    rw [h.calls_eq, h.clock_eq]
  clock_eq := rfl

/-- Journeys with the same record that end alike are navigations with the same record, of which
nothing is missing. -/
theorem ending {outcome other : Option (Except NavigationError (Option Node))}
    (hreport : reportOf other = reportOf outcome) :
    (journey.ending outcome).SameRecord (later.ending other) where
  report_eq := hreport
  trail_eq := h.trail_eq
  calls_eq := h.calls_eq
  polls_eq := congrArg Clock.polls h.clock_eq

end Journey.SameRecord

namespace Navigator

variable {first second : Navigator} {request : NavigationRequest} {token : Token} {patience : Nat}
  {node other : Node} {journey later next : Journey} {ended : PassEnd}

/-- Nodes of an id at which navigators agree are gateways both or neither, whatever their names and
details are. -/
theorem AgreesAt.isGateway_eq (h : first.AgreesAt second node.id)
    (hnode : first.graph.node? node.id = some node)
    (hother : second.graph.node? node.id = some other) : other.isGateway = node.isGateway := by
  have hstatus := h.status_eq
  rw [hnode, hother] at hstatus
  exact Option.some.inj hstatus

/-- Where navigators agree, the same call is due, with the same flows offered; or none is in
either. -/
theorem AgreesAt.dueCall?_eq (h : first.AgreesAt second node.id)
    (hnode : first.graph.node? node.id = some node)
    (hother : second.graph.node? node.id = some other) :
    second.dueCall? request other = first.dueCall? request node := by
  have hid : other.id = node.id := (ProcessGraph.mem_of_node? hother).2
  unfold dueCall?
  dsimp only
  rw [hid, h.flows_eq, h.isGateway_eq hnode hother]
  by_cases hchoice : node.isGateway = true ∧ 2 ≤ (first.graph.outgoingFlows node.id).length
  · have hgateway : first.graph.isGateway node.id = true := by
      rw [ProcessGraph.isGateway, ProcessGraph.nodeHas, hnode, Option.any_some, hchoice.1]
    have hfilter := FilterRegistry.filter?_eq_of_resolve_eq (h.resolve_eq hgateway hchoice.2)
    have hregistered : node.id ∈ second.registry.filters.map GatewayFilter.gatewayId ↔
        node.id ∈ first.registry.filters.map GatewayFilter.gatewayId := by
      rw [← FilterRegistry.contains_iff_mem, ← FilterRegistry.contains_iff_mem,
        FilterRegistry.contains, FilterRegistry.contains, hfilter]
    simp only [hregistered]
  · rw [if_neg fun hdue => hchoice ⟨hdue.1, hdue.2.1⟩,
      if_neg fun hdue => hchoice ⟨hdue.1, hdue.2.1⟩]

/-- Where navigators agree, the call that is due starts the same activity, as it goes to the same
filter. -/
theorem AgreesAt.activity?_eq (h : first.AgreesAt second node.id)
    (hnode : first.graph.node? node.id = some node) {call : FilterCall}
    (hdue : first.dueCall? request node = some call) (number : Nat) :
    second.activity? number call = first.activity? number call := by
  have hgateway : first.graph.isGateway node.id = true := by
    rw [ProcessGraph.isGateway, ProcessGraph.nodeHas, hnode, Option.any_some,
      (gatewayId_of_dueCall? hdue).2.1]
  have hfilter := FilterRegistry.filter?_eq_of_resolve_eq
    (h.resolve_eq hgateway (two_le_of_dueCall? hdue))
  rw [activity?, activity?, (gatewayId_of_dueCall? hdue).1, hfilter]

/-- Where navigators agree, a selection leads to nodes of the same id, which are gateways both or
neither. -/
theorem AgreesAt.follow {id : String} (h : first.AgreesAt second id)
    (hfirst : first.graph.Closed) (hsecond : second.graph.Closed)
    {selected : Option (Except NavigationError SequenceFlow)}
    (hselected : ∀ chosen, selected = some (.ok chosen) →
      chosen ∈ first.graph.outgoingFlows id) :
    (first.follow selected).SameIds (second.follow selected) := by
  match selected with
  | none => exact .stopped rfl
  | some (.error error) => exact .stopped rfl
  | some (.ok chosen) =>
    have hchosen := hselected chosen rfl
    obtain ⟨target, htarget⟩ := hfirst id chosen hchosen
    obtain ⟨found, hfound⟩ := hsecond id chosen (by rwa [h.flows_eq])
    have hstatus : found.isGateway = target.isGateway := by
      simpa [ProcessGraph.isGateway, ProcessGraph.nodeHas, htarget, hfound] using
        h.targets_eq chosen hchosen
    have hid : found.id = target.id :=
      (ProcessGraph.mem_of_node? hfound).2.trans (ProcessGraph.mem_of_node? htarget).2.symm
    rw [Navigator.follow_of_found htarget, Navigator.follow_of_found hfound, hstatus]
    split
    · exact .entered hid
    · exact .stopped (by simp [reportOf, Except.map, hid])

/-- Where navigators agree, passes without a call lead to nodes of the same id, as the same flows
leave the node. -/
theorem AgreesAt.unasked (h : first.AgreesAt second node.id)
    (hfirst : first.graph.Closed) (hsecond : second.graph.Closed) (hid : other.id = node.id) :
    (first.unasked request node).SameIds (second.unasked request other) := by
  unfold Navigator.unasked
  rw [hid, h.flows_eq]
  split
  · exact .stopped rfl
  · next only honly =>
    refine h.follow hfirst hsecond fun chosen hchosen => ?_
    cases hchosen
    exact honly ▸ List.mem_singleton_self only
  · refine h.follow hfirst hsecond fun chosen hchosen => ?_
    exact mem_of_decideFlow (fun flow hflow => hflow) (Option.some.inj hchosen)

/-- Where navigators agree, passes of journeys with the same record end alike and keep the records
the same. -/
theorem AgreesAt.pass (h : first.AgreesAt second node.id)
    (hfirst : first.graph.Closed) (hsecond : second.graph.Closed)
    (hnode : first.graph.node? node.id = some node)
    (hother : second.graph.node? node.id = some other) (hsame : journey.SameRecord later)
    (hpass : first.pass request token patience node journey = (ended, next)) :
    ∃ reached final, second.pass request token patience other later = (reached, final) ∧
      ended.SameIds reached ∧ next.SameRecord final := by
  have hid : other.id = node.id := (ProcessGraph.mem_of_node? hother).2
  have hcall : second.dueCall? request other = first.dueCall? request node :=
    h.dueCall?_eq hnode hother
  cases hdue : first.dueCall? request node with
  | none =>
    rw [pass_of_dueCall?_none hdue, Prod.mk.injEq] at hpass
    obtain ⟨rfl, rfl⟩ := hpass
    exact ⟨_, _, pass_of_dueCall?_none (hcall.trans hdue) later, h.unasked hfirst hsecond hid,
      hsame.visit hid⟩
  | some call =>
    obtain ⟨activity, hactivity, hfirstPass⟩ := pass_of_dueCall?_some hdue journey
    obtain ⟨activity', hactivity', hsecondPass⟩ := pass_of_dueCall?_some (hcall.trans hdue) later
    rw [h.activity?_eq hnode hdue, hsame.calls_eq, hactivity, Option.some.injEq] at hactivity'
    subst hactivity'
    have hwait : waitFor token patience activity later =
        waitFor token patience activity journey := by
      rw [waitFor, waitFor, hsame.calls_eq, hsame.clock_eq]
    have hsettle (reply : Reply) : settle request other call.offered reply =
        settle request node call.offered reply := by
      unfold settle
      rw [hid]
    rw [hfirstPass token patience, Prod.mk.injEq] at hpass
    obtain ⟨rfl, rfl⟩ := hpass
    refine ⟨_, _, hsecondPass token patience, ?_, ?_⟩
    · rw [hwait, hsettle]
      refine h.follow hfirst hsecond fun chosen hchosen => ?_
      rw [← offered_of_dueCall? hdue]
      exact mem_of_settle hchosen
    · rw [hwait]
      exact (hsame.visit hid).consult call _

/-- Walks keep in step as long as the navigators agree at the nodes that the first one visits, by
induction along the first walk. -/
theorem walk_sameRecord (hfirst : first.graph.Closed) (hsecond : second.graph.Closed)
    (visited : List String) (node : Node) (journey : Journey) :
    (∀ seen ∈ (first.walk request token patience visited node journey).trail,
        first.AgreesAt second seen.id) →
      ∀ other later, first.graph.node? node.id = some node →
        second.graph.node? node.id = some other → journey.SameRecord later →
        (first.walk request token patience visited node journey).SameRecord
          (second.walk request token patience visited other later) := by
  refine walk_induction ?_ ?_ ?_ visited node journey
  · intro visited node journey outcome next hpass hagrees other later hnode hother hsame
    obtain ⟨reached, final, hreached, hends, hrecord⟩ :=
      (hagrees node (mem_trail_of_pass hpass)).pass hfirst hsecond hnode hother hsame hpass
    rw [walk_eq visited other later, hreached]
    cases hends with
    | stopped hreport => exact hrecord.ending hreport
  · intro visited node journey gateway next hpass hvisited hagrees other later hnode hother hsame
    obtain ⟨reached, final, hreached, hends, hrecord⟩ :=
      (hagrees node (mem_trail_of_pass hpass)).pass hfirst hsecond hnode hother hsame hpass
    rw [walk_eq visited other later, hreached]
    cases hends with
    | entered hid =>
      rw [resume, hid, if_pos hvisited]
      exact hrecord.ending rfl
  · intro visited node journey gateway next hpass hnew ih hagrees other later hnode hother hsame
    have hvisit : node ∈ (first.walk request token patience (gateway.id :: visited) gateway
        next).trail :=
      (walk_progress (gateway.id :: visited) gateway next).1.trail.subset (mem_trail_of_pass hpass)
    obtain ⟨reached, final, hreached, hends, hrecord⟩ :=
      (hagrees node hvisit).pass hfirst hsecond hnode hother hsame hpass
    rw [walk_eq visited other later, hreached]
    cases hends with
    | entered hid =>
      have hknown := (pass_entered hreached).1
      rw [hid] at hknown
      rw [resume, hid, if_neg hnew]
      exact ih hagrees _ final (pass_entered hpass).1 hknown hrecord

section Built

variable {definition otherDefinition : ProcessDefinition} {graph otherGraph : ProcessGraph}
  {registry otherRegistry : FilterRegistry}

/-- A navigation depends only on what it looks at. Where two built graphs and two registries agree
at the origin and at the gateways that the navigation of the first enters, the navigation of the
second has the same outcome, visits nodes of the same ids and makes the same calls with the same
polls. -/
theorem nextElement_depends_on_visited (hbuild : ProcessGraph.build definition = .ok graph)
    (hotherBuild : ProcessGraph.build otherDefinition = .ok otherGraph)
    (hagrees : ∀ id ∈ ((Navigator.mk graph registry).nextElement request token patience).visitedIds
      request.originId, (Navigator.mk graph registry).AgreesAt ⟨otherGraph, otherRegistry⟩ id) :
    ((Navigator.mk graph registry).nextElement request token patience).SameRecord
      ((Navigator.mk otherGraph otherRegistry).nextElement request token patience) := by
  obtain ⟨hwell, rfl⟩ := ProcessGraph.build_eq_ok_iff.mp hbuild
  obtain ⟨hotherWell, rfl⟩ := ProcessGraph.build_eq_ok_iff.mp hotherBuild
  have hstatus := (hagrees request.originId List.mem_cons_self).status_eq
  have hstart : Journey.start.SameRecord Journey.start := ⟨rfl, rfl, rfl⟩
  cases horigin : definition.image.node? request.originId with
  | none =>
    rw [horigin, Option.map_none, Option.map_eq_none_iff] at hstatus
    rw [nextElement_of_unknown horigin, nextElement_of_unknown hstatus]
    exact hstart.ending rfl
  | some origin =>
    rw [horigin, Option.map_some, Option.map_eq_some_iff] at hstatus
    obtain ⟨other, hother, hgateway⟩ := hstatus
    have hid := (ProcessGraph.mem_of_node? horigin).2
    have hotherId := (ProcessGraph.mem_of_node? hother).2
    rw [nextElement_of_known horigin] at hagrees ⊢
    rw [nextElement_of_known hother, hgateway, hotherId, ← hid]
    refine walk_sameRecord hwell.closed hotherWell.closed _ origin .start ?_ other .start
      (by rwa [hid]) (by rwa [hid]) hstart
    exact fun seen hseen => hagrees seen.id (List.mem_cons_of_mem _ (List.mem_map_of_mem hseen))

end Built

/-- The process of requests with other names and details: requests begin where they are filed and
end with a task, and there is more behind the message. -/
def renamedProcess : ProcessDefinition :=
  ⟨"claim", some "Claims",
    [.gateway "Sort", .gateway "Route", (NodeDefinition.gateway "Check").named "Complete?",
      .task "End" "archive", (NodeDefinition.task "Notify" "letter").withActions ["send"],
      (NodeDefinition.startEvent "File").named "File a claim"],
    [(FlowDefinition.between "notify" "Route" "Notify").withCondition "message",
      .between "submit" "File" "Check", .between "again" "Check" "File",
      .between "sort" "Notify" "Sort", .between "recheck" "Check" "Check",
      (FlowDefinition.between "close" "Route" "End").asDefault,
      (FlowDefinition.between "pass" "Check" "Route").asDefault, .between "keep" "Sort" "End",
      .between "repeat" "Sort" "Notify"]⟩

/-- Checks are made as for requests; the other filters belong to a gateway that is not visited, to a
node that is no gateway and to none. -/
def renamedFilters : FilterRegistry where
  filters := [.byFlowIds "Sort" ["keep"], .byAction "Check", .byFlowIds "File" [],
    .byFlowIds "Nowhere" ["close"]]
  distinct := by decide

/-- A request that is filed comes to the end in both processes, on the same way, although the
processes differ in all that is not on it. -/
theorem nextElement_depends_on_visited_requestProcess :
    let first : Navigator := ⟨requestProcess.image, requestFilters⟩
    let second : Navigator := ⟨renamedProcess.image, renamedFilters⟩
    ProcessGraph.build requestProcess = .ok requestProcess.image ∧
      ProcessGraph.build renamedProcess = .ok renamedProcess.image ∧
      (first.nextElement fileRequest .fresh 1).visitedIds "File" =
        ["File", "File", "Check", "Route"] ∧
      (∀ id ∈ ["File", "File", "Check", "Route"], first.AgreesAt second id) ∧
      reportOf (first.nextElement fileRequest .fresh 1).outcome = some (.ok (some "End")) ∧
      (first.nextElement fileRequest .fresh 1).SameRecord
        (second.nextElement fileRequest .fresh 1) := by
  intro first second
  have hbuild : ProcessGraph.build requestProcess = .ok requestProcess.image := rfl
  have hotherBuild : ProcessGraph.build renamedProcess = .ok renamedProcess.image := rfl
  have hvisited : (first.nextElement fileRequest .fresh 1).visitedIds "File" =
      ["File", "File", "Check", "Route"] := by
    decide +kernel
  have hagrees : ∀ id ∈ ["File", "File", "Check", "Route"], first.AgreesAt second id := by
    have hfile : first.AgreesAt second "File" :=
      ⟨by decide, by decide, by decide, fun hgateway => absurd hgateway (by decide)⟩
    have hcheck : first.AgreesAt second "Check" :=
      ⟨by decide, by decide, by decide, fun _ _ => rfl⟩
    have hroute : first.AgreesAt second "Route" :=
      ⟨by decide, by decide, by decide, fun _ _ => rfl⟩
    simp [hfile, hcheck, hroute]
  have hreport : reportOf (first.nextElement fileRequest .fresh 1).outcome =
      some (.ok (some "End")) := by
    decide +kernel
  have hsame : (first.nextElement fileRequest .fresh 1).SameRecord
      (second.nextElement fileRequest .fresh 1) :=
    nextElement_depends_on_visited hbuild hotherBuild fun id hid => hagrees id (hvisited ▸ hid)
  exact ⟨hbuild, hotherBuild, hvisited, hagrees, hreport, hsame⟩

end Navigator

end CaseRouting
