import CaseRouting.Proofs.Route
import CaseRouting.Proofs.WalkProgress

/-!
# The filter calls of a navigation

A navigation whose token stays live calls the filters that are due at the nodes it visits, in this
order, and no others. A call goes to the filter registered for its gateway, which is polled from its
first poll on. Every call but the last keeps some flows; if a filter fails, its call is the last one
and the navigation fails with it.
-/

namespace CaseRouting

/-- What stands in a list with one more entry stands in the list, or it is this entry, at the place
behind all others. -/
theorem getElem?_concat_eq_some {α : Type} {entries : List α} {last entry : α} {index : Nat}
    (h : (entries ++ [last])[index]? = some entry) :
    entries[index]? = some entry ∨ index = entries.length ∧ last = entry := by
  by_cases hindex : index < entries.length
  · rw [List.getElem?_append_left hindex] at h
    exact .inl h
  · have hbound := (List.getElem?_eq_some_iff.mp h).1
    rw [List.length_append, List.length_singleton] at hbound
    obtain rfl : index = entries.length := by omega
    rw [List.getElem?_concat_length, Option.some.injEq] at h
    exact .inr ⟨rfl, h⟩

/-- The polls of one activity all belong to its call, so that asking for those of a call gives all
of them or none. -/
theorem Activity.filter_pollsFrom (activity : Activity) (call number count index : Nat) :
    (activity.pollsFrom call number count).filter (fun taken => taken.call = index) =
      if call = index then activity.pollsFrom call number count else [] := by
  split
  · next heq =>
    refine List.filter_eq_self.mpr fun taken htaken => ?_
    rw [call_of_mem_pollsFrom htaken, heq, decide_eq_true rfl]
  · next hne =>
    refine List.filter_eq_nil_iff.mpr fun taken htaken => ?_
    rw [call_of_mem_pollsFrom htaken]
    simpa using hne

namespace Navigator

/-- What the filter of a call answers to it, if the answer comes in time. The number is that of the
call, for a filter may answer each call differently. -/
def answer? (navigator : Navigator) (patience number : Nat) (call : FilterCall) :
    Option FilterAnswer :=
  (navigator.activity? number call).bind fun activity => activity.answerWithin patience 0

/-- The calls of a journey are those that are due on its trail, and its polls are theirs. -/
structure Recorded (navigator : Navigator) (request : NavigationRequest) (journey : Journey) :
    Prop where
  /-- The calls are those due at the nodes of the trail, in order. -/
  calls_eq : journey.calls = journey.trail.filterMap (navigator.dueCall? request)
  /-- The polls of a call are the first ones of its activity. -/
  polls_eq : ∀ index call, journey.calls[index]? = some call →
    ∃ activity count, navigator.activity? index call = some activity ∧ 0 < count ∧
      journey.clock.polls.filter (fun taken => taken.call = index) =
        activity.pollsFrom index 0 count
  /-- Every poll belongs to a call. -/
  polls_lt : ∀ taken ∈ journey.clock.polls, taken.call < journey.calls.length

/-- Every call has been answered with the flows to keep, so that none of the filters has failed so
far. -/
def AllKept (navigator : Navigator) (patience : Nat) (calls : List FilterCall) : Prop :=
  ∀ index call, calls[index]? = some call →
    ∃ kept, navigator.answer? patience index call = some (.ok kept)

/-- Every call but the last has been answered with the flows to keep, and the outcome is the failure
of a filter exactly when the last call has been answered with it. -/
structure Judged (navigator : Navigator) (patience : Nat) (calls : List FilterCall)
    (outcome : Option (Except NavigationError (Option Node))) : Prop where
  /-- A call with a call behind it has been answered with the flows to keep. -/
  kept : ∀ index call, calls[index]? = some call → index + 1 < calls.length →
    ∃ kept, navigator.answer? patience index call = some (.ok kept)
  /-- The failure of the last call is the failure of the navigation. -/
  failed_iff : ∀ error, outcome = some (.error (.filterFailed error)) ↔
    ∃ index call, index + 1 = calls.length ∧ calls[index]? = some call ∧
      navigator.answer? patience index call = some (.error error)

variable {navigator : Navigator} {request : NavigationRequest} {token : Token} {patience : Nat}
  {node : Node} {journey next : Journey} {ended : PassEnd}

/-- The calls that are due on a trail are for nodes of the trail, in order, since a node has one
call at most. -/
theorem dueCalls_sublist (trail : List Node) :
    ((trail.filterMap (navigator.dueCall? request)).map FilterCall.gatewayId).Sublist
      (trail.map Node.id) := by
  induction trail with
  | nil => exact List.Sublist.slnil
  | cons node trail ih =>
    cases hdue : navigator.dueCall? request node with
    | none =>
      rw [List.filterMap_cons_none hdue, List.map_cons]
      exact ih.cons node.id
    | some call =>
      rw [List.filterMap_cons_some hdue, List.map_cons, List.map_cons,
        (gatewayId_of_dueCall? hdue).1]
      exact ih.cons_cons node.id

/-- A pass makes no call but the one that is due, and this one only if the filter is polled. -/
theorem calls_sublist_of_pass
    (hpass : navigator.pass request token patience node journey = (ended, next))
    (hcalls : journey.calls.Sublist (journey.trail.filterMap (navigator.dueCall? request))) :
    next.calls.Sublist (next.trail.filterMap (navigator.dueCall? request)) := by
  obtain ⟨hdue, -, rfl⟩ | ⟨call, activity, reply, count, hdue, -, -, rfl, -⟩ := pass_cases hpass
  · simpa [Journey.visit, List.filterMap_append, hdue] using hcalls
  · rw [List.filterMap_append, List.filterMap_cons_some hdue, List.filterMap_nil]
    dsimp only
    split
    · exact hcalls.trans (List.sublist_append_left _ _)
    · exact hcalls.append (List.Sublist.refl _)

/-- A navigation makes no calls but those that are due on its trail, whether it is cancelled or
not. -/
theorem nextElement_calls_sublist (navigator : Navigator) (request : NavigationRequest)
    (token : Token) (patience : Nat) :
    (navigator.nextElement request token patience).calls.Sublist
      ((navigator.nextElement request token patience).trail.filterMap
        (navigator.dueCall? request)) :=
  nextElement_keeps (fun _ _ _ _ => calls_sublist_of_pass) (List.Sublist.refl _)

/-- A navigation calls the filter of a gateway once at most, for it visits no node twice. -/
theorem nextElement_calls_nodup (navigator : Navigator) (request : NavigationRequest)
    (token : Token) (patience : Nat) :
    ((navigator.nextElement request token patience).calls.map FilterCall.gatewayId).Nodup := by
  have hcalls := ((navigator.nextElement_calls_sublist request token patience).map
    FilterCall.gatewayId).trans (dueCalls_sublist _)
  refine List.Nodup.sublist hcalls ?_
  cases horigin : navigator.graph.node? request.originId with
  | none =>
    rw [nextElement_of_unknown horigin]
    exact List.nodup_nil
  | some origin =>
    have hknown : navigator.graph.node? origin.id = some origin := by
      rwa [(ProcessGraph.mem_of_node? horigin).2]
    exact ProcessGraph.route_ids_nodup hknown (nextElement_routed horigin).route

/-- A pass that is cancelled leaves the token cancelled, as nothing but the token cancels it. -/
theorem isCancelled_of_pass
    (hpass : navigator.pass request token patience node journey =
      (.stopped (some (.error .cancelled)), next)) : next.clock.isCancelled token = true := by
  obtain ⟨-, hended, -⟩ | ⟨call, activity, reply, count, -, -, hended, -, hreply⟩ :=
    pass_cases hpass
  · rcases unasked_eq_error hended.symm with hambiguity | ⟨id, hid⟩
    · cases hambiguity
    · cases hid
  · rcases hreply with ⟨-, hcancelled⟩ | ⟨rfl, -⟩
    · exact hcancelled
    · rcases follow_eq_error hended.symm with hsettled | ⟨id, hid⟩
      · have hreply := settle_eq_cancelled_iff.mp hsettled
        cases hanswer : activity.answerWithin patience 0 with
        | none => simp [hanswer, Reply.ofAnswer] at hreply
        | some answer => simp [hanswer, Reply.ofAnswer] at hreply
      · cases hid

/-- A walk that is cancelled leaves the token cancelled, as the pass that ends it does. -/
theorem isCancelled_of_walk (visited : List String) (node : Node) (journey : Journey) :
    (navigator.walk request token patience visited node journey).outcome =
        some (.error .cancelled) →
      (navigator.walk request token patience visited node journey).halt.2.clock.isCancelled token =
        true := by
  refine walk_induction ?_ ?_ ?_ visited node journey
  · intro visited node journey outcome next hpass houtcome
    have hcancelled : outcome = some (.error .cancelled) := houtcome
    rw [hcancelled] at hpass
    exact isCancelled_of_pass hpass
  · intro visited node journey gateway next hpass hvisited houtcome
    cases houtcome
  · intro visited node journey gateway next hpass hnew ih
    exact ih

/-- A navigation whose token stays live is not cancelled, whatever else may end it. -/
theorem nextElement_ne_cancelled
    (htoken : token.StaysLive (navigator.nextElement request token patience).polls) :
    (navigator.nextElement request token patience).outcome ≠ some (.error .cancelled) := by
  have hpolls :
      token.StaysLive (navigator.nextElement request token patience).halt.2.clock.polls := htoken
  have hlive := hpolls.isCancelled
  cases horigin : navigator.graph.node? request.originId with
  | none =>
    rw [nextElement_of_unknown horigin]
    simp [Journey.ending]
  | some origin =>
    rw [nextElement_of_known horigin] at hlive ⊢
    intro houtcome
    rw [isCancelled_of_walk _ _ _ houtcome] at hlive
    cases hlive

/-- A pass keeps a token live that the filters spare, for the polls that it adds are polls of a
filter. -/
theorem staysLive_of_pass (htoken : navigator.registry.Spares token)
    (hpass : navigator.pass request token patience node journey = (ended, next))
    (hlive : token.StaysLive journey.clock.polls) : token.StaysLive next.clock.polls := by
  obtain ⟨-, -, rfl⟩ | ⟨call, activity, reply, count, -, hactivity, -, rfl, -⟩ := pass_cases hpass
  · exact hlive
  · obtain ⟨filter, hfilter, -, rfl⟩ := exists_filter_of_activity? hactivity
    exact hlive.append (htoken.pollsFrom hfilter _ _ _ _ _ _ _)

/-- A navigation keeps a token live that the filters and the caller spare, from its start to its
end. -/
theorem nextElement_staysLive (htoken : navigator.registry.Spares token) :
    token.StaysLive (navigator.nextElement request token patience).polls :=
  nextElement_keeps (fun _ _ _ _ => staysLive_of_pass htoken) (.of_spares htoken)

/-- The call that comes next has not been polled yet, for every poll belongs to a call that has been
made. -/
theorem Recorded.polls_of_next (h : navigator.Recorded request journey) :
    journey.clock.polls.filter (fun taken => taken.call = journey.calls.length) = [] := by
  refine List.filter_eq_nil_iff.mpr fun taken htaken => ?_
  have hless := h.polls_lt taken htaken
  simp only [decide_eq_true_eq]
  omega

/-- A call that is polled is recorded behind the others, with its polls, which are those of no other
call. -/
theorem Recorded.call {call : FilterCall} {activity : Activity} {count : Nat}
    (h : navigator.Recorded request journey)
    (hdue : navigator.dueCall? request node = some call)
    (hactivity : navigator.activity? journey.calls.length call = some activity)
    (hcount : 0 < count) :
    navigator.Recorded request ⟨journey.trail ++ [node], journey.calls ++ [call],
      ⟨journey.clock.polls ++ activity.pollsFrom journey.calls.length 0 count⟩⟩ where
  calls_eq := by simp [List.filterMap_append, h.calls_eq, hdue]
  polls_eq := by
    intro index other hother
    dsimp only at hother ⊢
    rw [List.filter_append, Activity.filter_pollsFrom]
    rcases getElem?_concat_eq_some hother with hearlier | ⟨rfl, rfl⟩
    · have hindex := (List.getElem?_eq_some_iff.mp hearlier).1
      rw [if_neg (by omega), List.append_nil]
      exact h.polls_eq index other hearlier
    · rw [if_pos rfl, h.polls_of_next, List.nil_append]
      exact ⟨activity, count, hactivity, hcount, rfl⟩
  polls_lt := by
    intro taken htaken
    simp only [List.length_append, List.length_singleton]
    rcases List.mem_append.mp htaken with htaken | htaken
    · exact Nat.lt_succ_of_lt (h.polls_lt taken htaken)
    · rw [Activity.call_of_mem_pollsFrom htaken]
      exact Nat.lt_succ_self _

/-- A pass that is not cancelled records the call that is due. If none is due, it only adds its node
to the trail. -/
theorem Recorded.pass (hpatience : 0 < patience) (h : navigator.Recorded request journey)
    (hpass : navigator.pass request token patience node journey = (ended, next))
    (hended : ended ≠ .stopped (some (.error .cancelled))) :
    navigator.Recorded request next := by
  obtain ⟨hdue, -, rfl⟩ | ⟨call, activity, reply, count, hdue, hactivity, rfl, rfl, hreply⟩ :=
    pass_cases hpass
  · refine ⟨?_, h.polls_eq, h.polls_lt⟩
    simp [Journey.visit, List.filterMap_append, h.calls_eq, hdue]
  · rcases hreply with ⟨rfl, -⟩ | ⟨-, hcount⟩
    · exact absurd rfl hended
    · have hpolled := hcount hpatience
      rw [if_neg (by omega)]
      exact h.call hdue hactivity hpolled

/-- Calls that have all been answered with the flows to keep are no failure of a filter, as long as
the outcome is none. -/
theorem AllKept.judged {calls : List FilterCall}
    {outcome : Option (Except NavigationError (Option Node))}
    (h : navigator.AllKept patience calls)
    (houtcome : ∀ error, outcome ≠ some (.error (.filterFailed error))) :
    navigator.Judged patience calls outcome where
  kept := fun index call hcall _ => h index call hcall
  failed_iff := by
    intro error
    refine ⟨fun hfailed => absurd hfailed (houtcome error), ?_⟩
    rintro ⟨index, call, -, hcall, hanswer⟩
    obtain ⟨kept, hkept⟩ := h index call hcall
    rw [hkept] at hanswer
    cases hanswer

/-- A further call decides about the failure of a navigation that ends with it, when all calls
before it have been answered with the flows to keep. -/
theorem AllKept.judged_concat {calls : List FilterCall} {call : FilterCall}
    {outcome : Option (Except NavigationError (Option Node))}
    (h : navigator.AllKept patience calls)
    (houtcome : ∀ error, outcome = some (.error (.filterFailed error)) ↔
      navigator.answer? patience calls.length call = some (.error error)) :
    navigator.Judged patience (calls ++ [call]) outcome where
  kept := by
    intro index other hother hindex
    rw [List.length_append, List.length_singleton] at hindex
    rw [List.getElem?_append_left (by omega)] at hother
    exact h index other hother
  failed_iff := by
    intro error
    rw [houtcome]
    constructor
    · intro hanswer
      exact ⟨calls.length, call, by simp, by simp, hanswer⟩
    · rintro ⟨index, other, hindex, hother, hanswer⟩
      rw [List.length_append, List.length_singleton] at hindex
      rcases getElem?_concat_eq_some hother with hearlier | ⟨rfl, rfl⟩
      · have hbound := (List.getElem?_eq_some_iff.mp hearlier).1
        omega
      · exact hanswer

/-- A further call that is answered with the flows to keep keeps all calls answered so, and the
navigation may go on. -/
theorem AllKept.concat {calls : List FilterCall} {call : FilterCall} {kept : List SequenceFlow}
    (h : navigator.AllKept patience calls)
    (hanswer : navigator.answer? patience calls.length call = some (.ok kept)) :
    navigator.AllKept patience (calls ++ [call]) := by
  intro index other hother
  rcases getElem?_concat_eq_some hother with hearlier | ⟨rfl, rfl⟩
  · exact h index other hearlier
  · exact ⟨kept, hanswer⟩

/-- Behind a pass either all calls have been answered with the flows to keep, and no filter has
failed, or the navigation ends and its last call decides about its failure. -/
theorem AllKept.pass (h : navigator.AllKept patience journey.calls)
    (hpatience : 0 < patience)
    (hpass : navigator.pass request token patience node journey = (ended, next))
    (hended : ended ≠ .stopped (some (.error .cancelled))) :
    (navigator.AllKept patience next.calls ∧
        ∀ error, ended ≠ .stopped (some (.error (.filterFailed error)))) ∨
      ∃ outcome, ended = .stopped outcome ∧ navigator.Judged patience next.calls outcome := by
  obtain ⟨-, rfl, rfl⟩ | ⟨call, activity, reply, count, -, hactivity, rfl, rfl, hreply⟩ :=
    pass_cases hpass
  · refine .inl ⟨h, fun error hfailed => ?_⟩
    rcases unasked_eq_error hfailed with hambiguity | ⟨id, hid⟩
    · cases hambiguity
    · cases hid
  · obtain ⟨rfl, -⟩ | ⟨rfl, hcount⟩ := hreply
    · exact absurd rfl hended
    have hpolled : ¬count = 0 := Nat.pos_iff_ne_zero.mp (hcount hpatience)
    have hanswer : navigator.answer? patience journey.calls.length call =
        activity.answerWithin patience 0 := by
      rw [answer?, hactivity, Option.bind_some]
    simp only [if_neg hpolled]
    match hreply : activity.answerWithin patience 0 with
    | none =>
      right
      refine ⟨none, rfl, h.judged_concat fun error => ?_⟩
      rw [hanswer, hreply]
      simp
    | some (.error failure) =>
      right
      refine ⟨some (.error (.filterFailed failure)), rfl, h.judged_concat fun error => ?_⟩
      rw [hanswer, hreply]
      simp
    | some (.ok kept) =>
      refine .inl ⟨h.concat (hanswer.trans hreply), fun error hfailed => ?_⟩
      rcases follow_eq_error hfailed with hsettled | ⟨id, hid⟩
      · cases settle_eq_filterFailed_iff.mp hsettled
      · cases hid

/-- A walk that is not cancelled records the calls that are due, and is judged by the last one. Both
hold of what has been recorded before and are kept by every pass. -/
theorem walk_recorded (hpatience : 0 < patience) (visited : List String) (node : Node)
    (journey : Journey) :
    navigator.Recorded request journey → navigator.AllKept patience journey.calls →
      (navigator.walk request token patience visited node journey).outcome ≠
        some (.error .cancelled) →
      navigator.Recorded request
          (navigator.walk request token patience visited node journey).halt.2 ∧
        navigator.Judged patience
          (navigator.walk request token patience visited node journey).calls
          (navigator.walk request token patience visited node journey).outcome := by
  refine walk_induction ?_ ?_ ?_ visited node journey
  · intro visited node journey outcome next hpass hrecorded hkept houtcome
    have hended : PassEnd.stopped outcome ≠ .stopped (some (.error .cancelled)) := by
      rw [ne_eq, PassEnd.stopped.injEq]
      exact houtcome
    refine ⟨hrecorded.pass hpatience hpass hended, ?_⟩
    rcases hkept.pass hpatience hpass hended with ⟨hall, hfailed⟩ | ⟨other, hother, hjudged⟩
    · exact hall.judged fun error herror => hfailed error (congrArg PassEnd.stopped herror)
    · rw [PassEnd.stopped.injEq] at hother
      rw [← hother] at hjudged
      exact hjudged
  · intro visited node journey gateway next hpass hvisited hrecorded hkept _
    have hended : PassEnd.entered gateway ≠ .stopped (some (.error .cancelled)) := by simp
    refine ⟨hrecorded.pass hpatience hpass hended, ?_⟩
    rcases hkept.pass hpatience hpass hended with ⟨hall, -⟩ | ⟨other, hother, -⟩
    · exact hall.judged fun error herror => by cases herror
    · cases hother
  · intro visited node journey gateway next hpass hnew ih hrecorded hkept houtcome
    have hended : PassEnd.entered gateway ≠ .stopped (some (.error .cancelled)) := by simp
    rcases hkept.pass hpatience hpass hended with ⟨hall, -⟩ | ⟨other, hother, -⟩
    · exact ih (hrecorded.pass hpatience hpass hended) hall houtcome
    · cases hother

/-- The filter calls of a run are those that are due at the nodes of a definition that it visits.
What is due is told from the definition and the registry alone. -/
structure Consults (navigator : Navigator) (definition : ProcessDefinition)
    (request : NavigationRequest) (patience : Nat) (run : NavigationRun) : Prop where
  /-- From an unknown node nothing is visited. -/
  trail_eq_nil : navigator.graph.node? request.originId = none → run.trail = []
  /-- The first node visited is the origin, and flows lead from node to node through gateways. -/
  route : ∀ origin, navigator.graph.node? request.originId = some origin →
    IsSimpleChain navigator.graph.Leads origin run.trail
  /-- A call is made for each node visited, in order, that is a gateway with several flows for
  which a filter is registered. It offers these flows in the order of the definition. -/
  calls_eq : run.calls = run.trail.filterMap fun node =>
    if node.isGateway = true ∧ 2 ≤ (definition.flowsFrom node.id).length ∧
        node.id ∈ navigator.registry.filters.map GatewayFilter.gatewayId then
      some ⟨node.id, ⟨node.id, request.originId, request.action⟩,
        (definition.flowsFrom node.id).map FlowDefinition.toFlow, request.case⟩
    else none
  /-- A call goes to the filter registered for its gateway, which is polled from its first poll on,
  being given what the call says. -/
  polled : ∀ index call, run.calls[index]? = some call →
    ∃ filter ∈ navigator.registry.filters, filter.gatewayId = call.gatewayId ∧
      ∃ count, 0 < count ∧ run.polls.filter (fun taken => taken.call = index) =
        (filter.start index call.offered call.case call.context).pollsFrom index 0 count
  /-- The calls end with the first one that fails. -/
  judged : navigator.Judged patience run.calls run.outcome
  /-- No gateway is called for twice. -/
  distinct : (run.calls.map FilterCall.gatewayId).Nodup

/-- Before anything has happened, nothing has been called, and so all calls are recorded. -/
theorem recorded_start (navigator : Navigator) (request : NavigationRequest) :
    navigator.Recorded request .start where
  calls_eq := rfl
  polls_eq := fun index call hcall => by cases hcall
  polls_lt := fun taken htaken => by cases htaken

/-- A navigation that is not cancelled records the calls that are due, and is judged by the last
one. Where the origin is unknown there are no calls at all. -/
theorem nextElement_recorded (hpatience : 0 < patience)
    (hcancelled : (navigator.nextElement request token patience).outcome ≠
      some (.error .cancelled)) :
    navigator.Recorded request (navigator.nextElement request token patience).halt.2 ∧
      navigator.Judged patience (navigator.nextElement request token patience).calls
        (navigator.nextElement request token patience).outcome := by
  have hkept : navigator.AllKept patience [] := fun index call hcall => by cases hcall
  have hrecorded := navigator.recorded_start request
  cases horigin : navigator.graph.node? request.originId with
  | none =>
    rw [nextElement_of_unknown horigin]
    exact ⟨hrecorded, hkept.judged fun error herror => by cases herror⟩
  | some origin =>
    rw [nextElement_of_known horigin] at hcancelled ⊢
    exact walk_recorded hpatience _ origin .start hrecorded hkept hcancelled

/-- In a built graph, the call that is due at a node offers the flows that the definition lists for
the node. -/
theorem dueCall?_image {definition : ProcessDefinition} (hwell : definition.WellFormed)
    (registry : FilterRegistry) (request : NavigationRequest) (node : Node) :
    (Navigator.mk definition.image registry).dueCall? request node =
      if node.isGateway = true ∧ 2 ≤ (definition.flowsFrom node.id).length ∧
          node.id ∈ registry.filters.map GatewayFilter.gatewayId then
        some ⟨node.id, ⟨node.id, request.originId, request.action⟩,
          (definition.flowsFrom node.id).map FlowDefinition.toFlow, request.case⟩
      else none := by
  unfold dueCall?
  simp only [hwell.outgoingFlows_image, List.length_map]

/-- A navigation of a built graph whose token stays live consults, from node to node, the filter of
each gateway that has several flows and a filter, up to the first filter that fails, and no other.
A filter is given all flows of its gateway, the case and the context of the navigation. -/
theorem nextElement_consults_due_filters {definition : ProcessDefinition} {graph : ProcessGraph}
    (hbuild : ProcessGraph.build definition = .ok graph) {registry : FilterRegistry}
    (hpatience : 0 < patience)
    (htoken : token.StaysLive
      ((Navigator.mk graph registry).nextElement request token patience).polls) :
    (Navigator.mk graph registry).Consults definition request patience
      ((Navigator.mk graph registry).nextElement request token patience) := by
  obtain ⟨hwell, rfl⟩ := ProcessGraph.build_eq_ok_iff.mp hbuild
  obtain ⟨hrecorded, hjudged⟩ := nextElement_recorded hpatience (nextElement_ne_cancelled htoken)
  exact {
    trail_eq_nil := fun horigin => by
      rw [nextElement_of_unknown horigin]
      rfl
    route := fun origin horigin => (nextElement_routed horigin).route
    calls_eq := hrecorded.calls_eq.trans
      (List.filterMap_congr fun node _ => dueCall?_image hwell registry request node)
    polled := fun index call hcall => by
      obtain ⟨activity, count, hactivity, hcount, hpolls⟩ := hrecorded.polls_eq index call hcall
      obtain ⟨filter, hfilter, hid, rfl⟩ := exists_filter_of_activity? hactivity
      exact ⟨filter, hfilter, hid, count, hcount, hpolls⟩
    judged := hjudged
    distinct := nextElement_calls_nodup _ _ _ _ }

/-- A filter for a task, a filter for a gateway that answers at its third poll, and a filter that
fails, registered in the order of the process. -/
def failingFilters : FilterRegistry where
  filters := [.byAction "File", ⟨"Check", fun _ offered _ _ => .delayed 2 (.done (.ok offered))⟩,
    .answering "Route" fun _ _ _ => .error ⟨"Route", "no route"⟩]
  distinct := by decide

/-- From the filing of a request the filters of both gateways are called, and that of the task is
not. The first filter takes three polls, and the navigation fails with the second one. -/
theorem nextElement_consults_due_filters_requestProcess :
    let navigator : Navigator := ⟨requestProcess.image, failingFilters⟩
    let run := navigator.nextElement ⟨"File", none, .blank⟩ .fresh 3
    ProcessGraph.build requestProcess = .ok requestProcess.image ∧
      Token.fresh.StaysLive run.polls ∧
      navigator.Consults requestProcess ⟨"File", none, .blank⟩ 3 run ∧
      run.calls.map FilterCall.gatewayId = ["Check", "Route"] ∧
      run.polls.map FilterPoll.call = [0, 0, 0, 1] ∧
      run.outcome = some (.error (.filterFailed ⟨"Route", "no route"⟩)) := by
  intro navigator run
  have hbuild : ProcessGraph.build requestProcess = .ok requestProcess.image := rfl
  have hpolls : ∀ taken ∈ run.polls, taken.poll.cancels = false := by decide +kernel
  have hlive : Token.fresh.StaysLive run.polls := ⟨fun _ => rfl, hpolls⟩
  have hcalls : run.calls.map FilterCall.gatewayId = ["Check", "Route"] := by decide +kernel
  have hnumbers : run.polls.map FilterPoll.call = [0, 0, 0, 1] := by decide +kernel
  have houtcome : run.outcome = some (.error (.filterFailed ⟨"Route", "no route"⟩)) := by
    decide +kernel
  exact ⟨hbuild, hlive, nextElement_consults_due_filters hbuild (by decide) hlive, hcalls, hnumbers,
    houtcome⟩

end Navigator

end CaseRouting
