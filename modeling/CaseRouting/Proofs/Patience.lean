import CaseRouting.Proofs.FilterCalls
import CaseRouting.Proofs.WalkProgress

/-!
# Patience for filters

A navigation polls each filter call as often as its patience allows. More patience changes nothing
about a navigation that has ended, so that the results of a navigation with enough patience agree.
A navigation ends with enough patience if every filter call that it makes does.
-/

namespace CaseRouting

namespace Navigator

/-- The navigation ends with a result if its filters are polled often enough. This is what a caller
sees, who waits as long as it takes. -/
def Returns (navigator : Navigator) (request : NavigationRequest) (token : Token)
    (result : Except NavigationError (Option Node)) : Prop :=
  ∃ patience, (navigator.nextElement request token patience).outcome = some result

variable {navigator : Navigator} {request : NavigationRequest} {token : Token}
  {patience more : Nat}

/-- A pass that calls no filter is not left pending, for there is nothing to wait for. -/
theorem unasked_ne_pending {node : Node} : navigator.unasked request node ≠ .stopped none := by
  unfold unasked
  split
  · simp
  · intro h
    cases follow_eq_pending h
  · intro h
    cases follow_eq_pending h

/-- A pass is not left pending by a filter that answers in time, nor by one that is not called. -/
theorem pass_ne_pending {node : Node} {journey : Journey}
    (hanswer : ∀ call, navigator.dueCall? request node = some call →
      ∀ activity, navigator.activity? journey.calls.length call = some activity →
        ∃ answer, activity.answerWithin patience 0 = some answer) :
    (navigator.pass request token patience node journey).1 ≠ .stopped none := by
  cases hdue : navigator.dueCall? request node with
  | none =>
    rw [pass_of_dueCall?_none hdue]
    exact unasked_ne_pending
  | some call =>
    obtain ⟨activity, hactivity, hpass⟩ := pass_of_dueCall?_some hdue journey
    obtain ⟨answer, hanswer⟩ := hanswer call hdue activity hactivity
    rw [hpass]
    intro hpending
    exact awaitReply_ne_pending hanswer (settle_eq_none_iff.mp (follow_eq_pending hpending))

/-- More patience changes nothing about a pass that has ended, neither its end nor what it has
recorded. -/
theorem pass_of_le {node : Node} {journey : Journey} (hle : patience ≤ more)
    (hended : (navigator.pass request token patience node journey).1 ≠ .stopped none) :
    navigator.pass request token more node journey =
      navigator.pass request token patience node journey := by
  cases hdue : navigator.dueCall? request node with
  | none => rw [pass_of_dueCall?_none hdue, pass_of_dueCall?_none hdue]
  | some call =>
    obtain ⟨activity, -, hpass⟩ := pass_of_dueCall?_some hdue journey
    have hreply : (waitFor token patience activity journey).1 ≠ .pending := by
      intro hpending
      refine hended ?_
      rw [hpass, hpending]
      rfl
    have hsame : waitFor token more activity journey = waitFor token patience activity journey :=
      awaitReply_of_le hle hreply
    rw [hpass, hpass, hsame]

/-- A walk that enters a new gateway goes on from it, with more patience as well, for the pass that
enters it has ended. -/
theorem walk_of_entered (hle : patience ≤ more) {visited : List String} {node gateway : Node}
    {journey next : Journey}
    (hpass : navigator.pass request token patience node journey = (.entered gateway, next))
    (hnew : gateway.id ∉ visited) :
    navigator.walk request token more visited node journey =
      navigator.walk request token more (gateway.id :: visited) gateway next := by
  rw [walk_eq, pass_of_le hle (by simp [hpass]), hpass, resume, if_neg hnew]

/-- More patience changes nothing about a walk that has ended, as it changes none of its passes. -/
theorem walk_of_le (hle : patience ≤ more) (visited : List String) (node : Node)
    (journey : Journey) :
    (navigator.walk request token patience visited node journey).outcome ≠ none →
      navigator.walk request token more visited node journey =
        navigator.walk request token patience visited node journey := by
  refine walk_induction ?_ ?_ ?_ visited node journey
  · intro visited node journey outcome next hpass hended
    have hsame : navigator.pass request token more node journey = (.stopped outcome, next) := by
      rw [pass_of_le hle, hpass]
      rw [hpass]
      intro hpending
      exact hended (PassEnd.stopped.inj hpending)
    rw [walk_eq, hsame]
    rfl
  · intro visited node journey gateway next hpass hvisited _
    have hsame : navigator.pass request token more node journey = (.entered gateway, next) := by
      rw [pass_of_le hle, hpass]
      simp [hpass]
    rw [walk_eq, hsame, resume, if_pos hvisited]
  · intro visited node journey gateway next hpass hnew ih hended
    rw [walk_of_entered hle hpass hnew]
    exact ih hended

/-- More patience changes nothing about a navigation that has ended: its outcome, its trail, its
calls and its polls stay as they are. -/
theorem nextElement_of_le (hle : patience ≤ more)
    (hended : (navigator.nextElement request token patience).outcome ≠ none) :
    navigator.nextElement request token more = navigator.nextElement request token patience := by
  cases horigin : navigator.graph.node? request.originId with
  | none => rw [nextElement_of_unknown horigin, nextElement_of_unknown horigin]
  | some origin =>
    rw [nextElement_of_known horigin] at hended
    rw [nextElement_of_known horigin, nextElement_of_known horigin]
    exact walk_of_le hle _ _ _ hended

/-- A result is returned with more patience as well, so that results with different patiences can be
compared. -/
theorem outcome_of_le {result : Except NavigationError (Option Node)} (hle : patience ≤ more)
    (hresult : (navigator.nextElement request token patience).outcome = some result) :
    (navigator.nextElement request token more).outcome = some result := by
  have hended : (navigator.nextElement request token patience).outcome ≠ none := by
    rw [hresult]
    exact Option.some_ne_none result
  rw [nextElement_of_le hle hended, hresult]

/-- A navigation has one result at most, which it has with the greater of any two patiences. -/
theorem Returns.unique {first second : Except NavigationError (Option Node)}
    (hfirst : navigator.Returns request token first)
    (hsecond : navigator.Returns request token second) : first = second := by
  obtain ⟨patience, hfirst⟩ := hfirst
  obtain ⟨more, hsecond⟩ := hsecond
  have hlater := outcome_of_le (Nat.le_max_left patience more) hfirst
  rw [outcome_of_le (Nat.le_max_right patience more) hsecond] at hlater
  exact (Option.some.inj hlater).symm

/-- A walk is not left pending by filters that all answer in time, whatever their answers are. -/
theorem walk_ne_pending
    (hanswer : ∀ filter ∈ navigator.registry.filters, ∀ count offered case context,
      ∃ answer, (filter.start count offered case context).answerWithin patience 0 = some answer)
    (visited : List String) (node : Node) (journey : Journey) :
    (navigator.walk request token patience visited node journey).outcome ≠ none := by
  refine walk_induction ?_ ?_ ?_ visited node journey
  · intro visited node journey outcome next hpass hpending
    have hended : (navigator.pass request token patience node journey).1 ≠ .stopped none :=
      pass_ne_pending fun call _ activity hactivity => by
        obtain ⟨filter, hfilter, -, rfl⟩ := exists_filter_of_activity? hactivity
        exact hanswer filter hfilter _ _ _ _
    rw [hpass] at hended
    exact hended (congrArg PassEnd.stopped hpending)
  · intro visited node journey gateway next hpass hvisited
    simp [Journey.ending]
  · intro visited node journey gateway next hpass hnew ih
    exact ih

/-- A call that is due when the token is not cancelled is recorded once the filter is polled, and
stays on record to the end of the walk. -/
theorem calls_of_dueCall? {node : Node} {journey : Journey} {call : FilterCall}
    (hdue : navigator.dueCall? request node = some call)
    (hclock : journey.clock.isCancelled token = false) (visited : List String) :
    (navigator.walk request token (patience + 1) visited node journey).calls[
      journey.calls.length]? = some call := by
  obtain ⟨activity, -, hpass⟩ := pass_of_dueCall?_some hdue journey
  have hpolls : journey.clock.polls.length <
      (waitFor token (patience + 1) activity journey).2.polls.length := by
    have hfirst := (advance_polls_of_not_cancelled hclock journey.calls.length activity patience
      0).length_le
    rw [Clock.advance, List.length_append, List.length_singleton] at hfirst
    exact hfirst
  obtain ⟨rest, hrest⟩ :=
    (continues_walk_of_pass visited (hpass token (patience + 1))).calls
  have hcalls : ((journey.visit node).consult call
      (waitFor token (patience + 1) activity journey).2).calls = journey.calls ++ [call] :=
    if_neg (by simp only [Journey.visit]; omega)
  rw [hcalls] at hrest
  have hat : (journey.calls ++ [call] ++ rest)[journey.calls.length]? = some call := by simp
  rwa [hrest] at hat

/-- A pass ends with enough patience if the filter call that is due does, or is never made because
the token is cancelled. -/
theorem exists_pass_ne_pending {node : Node} {journey : Journey}
    (hends : journey.clock.isCancelled token = false → ∀ call,
      navigator.dueCall? request node = some call →
        ∀ activity, navigator.activity? journey.calls.length call = some activity →
          ∃ answer, activity.Returns answer) :
    ∃ enough, (navigator.pass request token enough node journey).1 ≠ .stopped none := by
  cases hdue : navigator.dueCall? request node with
  | none =>
    refine ⟨0, ?_⟩
    rw [pass_of_dueCall?_none hdue]
    exact unasked_ne_pending
  | some call =>
    obtain ⟨activity, hactivity, hpass⟩ := pass_of_dueCall?_some hdue journey
    by_cases hclock : journey.clock.isCancelled token = true
    · refine ⟨1, ?_⟩
      rw [hpass, waitFor, awaitReply_of_cancelled hclock]
      simp [settle, follow]
    · obtain ⟨answer, enough, hanswer⟩ :=
        hends (Bool.eq_false_iff.mpr hclock) call hdue activity hactivity
      refine ⟨enough, ?_⟩
      rw [hpass]
      intro hpending
      exact awaitReply_ne_pending hanswer (settle_eq_none_iff.mp (follow_eq_pending hpending))

/-- A walk ends with enough patience if the filter calls that it makes do. What is assumed of the
calls is used from `least` on only: the calls behind a gateway are those of the whole walk once
there is enough patience to enter it. -/
theorem exists_walk_ne_pending {visited : List String} {node : Node} {journey : Journey}
    (least : Nat)
    (hends : ∀ patience, least ≤ patience → ∀ index call, journey.calls.length ≤ index →
      (navigator.walk request token patience visited node journey).calls[index]? = some call →
        ∀ activity, navigator.activity? index call = some activity →
          ∃ answer, activity.Returns answer) :
    ∃ enough, (navigator.walk request token enough visited node journey).outcome ≠ none := by
  induction visited using ProcessGraph.visited_induction navigator.graph
    generalizing node journey least with
  | step visited ih =>
    obtain ⟨enough, hended⟩ : ∃ enough,
        (navigator.pass request token enough node journey).1 ≠ .stopped none := by
      refine exists_pass_ne_pending fun hclock call hdue => ?_
      exact hends (least + 1) (Nat.le_succ least) _ call (Nat.le_refl _)
        (calls_of_dueCall? hdue hclock visited)
    match hpass : navigator.pass request token enough node journey with
    | (.stopped outcome, next) =>
      refine ⟨enough, ?_⟩
      rw [walk_eq, hpass]
      intro hpending
      rw [hpass] at hended
      exact hended (congrArg PassEnd.stopped hpending)
    | (.entered gateway, next) =>
      by_cases hvisited : gateway.id ∈ visited
      · refine ⟨enough, ?_⟩
        rw [walk_eq, hpass, resume, if_pos hvisited]
        simp [Journey.ending]
      · have honward (patience : Nat) (hle : enough ≤ patience) :
            navigator.walk request token patience visited node journey =
              navigator.walk request token patience (gateway.id :: visited) gateway next :=
          walk_of_entered hle hpass hvisited
        have hlater : journey.calls.length ≤ next.calls.length :=
          (pass_progress hpass).1.calls.length_le
        obtain ⟨rest, hrest⟩ := ih gateway (pass_entered hpass).1 hvisited (max least enough)
          fun patience hle index call hindex hcall => by
            rw [← honward patience (by omega)] at hcall
            exact hends patience (by omega) index call (by omega) hcall
        refine ⟨max rest enough, ?_⟩
        rw [honward _ (Nat.le_max_right _ _), walk_of_le (Nat.le_max_left _ _) _ _ _ hrest]
        exact hrest

/-- A navigation ends with enough patience if the filter calls that it makes do; nothing is asked of
filters that it does not call. -/
theorem exists_returns
    (hends : ∀ patience index call,
      (navigator.nextElement request token patience).calls[index]? = some call →
        ∀ activity, navigator.activity? index call = some activity →
          ∃ answer, activity.Returns answer) :
    ∃ result, navigator.Returns request token result := by
  unfold Returns
  cases horigin : navigator.graph.node? request.originId with
  | none =>
    simp only [nextElement_of_unknown horigin]
    exact ⟨_, 0, rfl⟩
  | some origin =>
    simp only [nextElement_of_known horigin] at hends ⊢
    obtain ⟨enough, hended⟩ := exists_walk_ne_pending 0
      fun patience _ index call _ hcall => hends patience index call hcall
    obtain ⟨result, hresult⟩ := Option.ne_none_iff_exists'.mp hended
    exact ⟨result, enough, hresult⟩

end Navigator

end CaseRouting
