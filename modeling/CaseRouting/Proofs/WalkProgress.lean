import CaseRouting.Proofs.FlowSelection
import CaseRouting.Proofs.WalkPasses

/-!
# What a walk keeps

Whatever the filters do and whoever cancels the call, a walk only adds to the trail, the calls and
the polls that have been recorded, and the calls that it records are those whose polls took place: a
filter that is not polled has not been called.
-/

namespace CaseRouting

namespace Journey

/-- A journey that goes on from an earlier one: nothing of what has been recorded is changed or
lost. -/
structure Continues (earlier later : Journey) : Prop where
  /-- The trail goes on. -/
  trail : earlier.trail <+: later.trail
  /-- Further filters are called. -/
  calls : earlier.calls <+: later.calls
  /-- Further polls take place. -/
  polls : earlier.clock.polls <+: later.clock.polls

/-- The calls of a journey are the ones that its polls belong to, so that no call has been recorded
without a poll. -/
def Counted (journey : Journey) : Prop :=
  ∀ call, call < journey.calls.length ↔ ∃ taken ∈ journey.clock.polls, taken.call = call

/-- A journey goes on from itself, with nothing added. -/
theorem Continues.refl (journey : Journey) : journey.Continues journey :=
  ⟨List.prefix_rfl, List.prefix_rfl, List.prefix_rfl⟩

/-- A journey goes on from what an earlier one goes on from, so that steps may be put together. -/
theorem Continues.trans {first second third : Journey} (hfirst : first.Continues second)
    (hsecond : second.Continues third) : first.Continues third :=
  ⟨hfirst.trail.trans hsecond.trail, hfirst.calls.trans hsecond.calls,
    hfirst.polls.trans hsecond.polls⟩

/-- Reaching a node adds it to the trail and leaves the calls and the polls. -/
theorem continues_visit (journey : Journey) (node : Node) :
    journey.Continues (journey.visit node) :=
  ⟨List.prefix_append _ _, List.prefix_rfl, List.prefix_rfl⟩

/-- At the start nothing has been called or polled, and so every call is counted. -/
theorem counted_start : Journey.start.Counted := by
  intro call
  simp [Journey.start, Clock.start]

end Journey

/-- The outcome of a run with the journey that led to it, which is what steps are compared by. -/
def NavigationRun.halt (run : NavigationRun) :
    Option (Except NavigationError (Option Node)) × Journey :=
  (run.outcome, ⟨run.trail, run.calls, ⟨run.polls⟩⟩)

/-- The halt of a run says all about it, so that runs with the same halt are the same. -/
theorem NavigationRun.halt_injective {first second : NavigationRun}
    (h : first.halt = second.halt) : first = second := by
  cases first
  cases second
  simpa [halt] using h

/-- Waiting for a filter adds polls of its call and no others, behind those that have taken
place. -/
theorem awaitReply_polls (token : Token) (call : Nat) (activity : Activity)
    (patience number : Nat) (clock : Clock) :
    ∃ added, (awaitReply token call activity patience number clock).2.polls =
        clock.polls ++ added ∧ ∀ taken ∈ added, taken.call = call := by
  obtain ⟨count, hafter, -⟩ := awaitReply_spec token call activity patience number clock
  exact ⟨activity.pollsFrom call number count, by rw [hafter],
    fun taken => Activity.call_of_mem_pollsFrom⟩

/-- Waiting begins with a poll unless the token is cancelled, and this poll stays on record. -/
theorem advance_polls_of_not_cancelled {token : Token} {clock : Clock}
    (hclock : clock.isCancelled token = false) (call : Nat) (activity : Activity)
    (patience number : Nat) :
    (clock.advance call (activity number)).polls <+:
      (awaitReply token call activity (patience + 1) number clock).2.polls := by
  rw [awaitReply_of_not_cancelled hclock]
  split
  · exact List.prefix_rfl
  · obtain ⟨added, hadded, -⟩ := awaitReply_polls token call activity patience (number + 1)
      (clock.advance call (activity number))
    exact ⟨added, hadded.symm⟩

namespace Navigator

variable {navigator : Navigator} {request : NavigationRequest} {token : Token} {patience : Nat}

/-- The journey behind a call that has been polled records the call, and goes on from the one
before. -/
theorem continues_asked {node : Node} {flows : List SequenceFlow} {filter : GatewayFilter}
    {journey : Journey} {clock : Clock} (hpolls : journey.clock.polls <+: clock.polls) :
    journey.Continues (asked request node flows filter journey clock) := by
  refine ⟨List.prefix_rfl, ?_, hpolls⟩
  unfold asked Journey.consult
  split
  · exact List.prefix_rfl
  · exact List.prefix_append _ _

/-- A call is counted if polls of it have taken place; and if none has, it is not recorded. -/
theorem counted_asked {node : Node} {flows : List SequenceFlow} {filter : GatewayFilter}
    {journey : Journey} (hcounted : journey.Counted) {clock : Clock} {added : List FilterPoll}
    (hpolls : clock.polls = journey.clock.polls ++ added)
    (hadded : ∀ taken ∈ added, taken.call = journey.calls.length) :
    (asked request node flows filter journey clock).Counted := by
  intro call
  unfold asked Journey.consult
  dsimp only
  rw [hpolls, List.length_append]
  by_cases hnone : added = []
  · rw [hnone, if_pos (by simp), List.append_nil]
    exact hcounted call
  · have hpositive := List.length_pos_iff.mpr hnone
    rw [if_neg (by omega), List.length_append, List.length_singleton, Nat.lt_succ_iff_lt_or_eq,
      hcounted call]
    simp only [List.mem_append, or_and_right, exists_or]
    refine or_congr_right ⟨?_, ?_⟩
    · rintro rfl
      obtain ⟨taken, htaken⟩ := List.exists_mem_of_ne_nil added hnone
      exact ⟨taken, htaken, hadded taken htaken⟩
    · rintro ⟨taken, htaken, rfl⟩
      exact hadded taken htaken

/-- What a selection records goes on from what was recorded, and its calls are counted. Only asking
a filter records anything. -/
theorem select_progress (navigator : Navigator) (request : NavigationRequest) (token : Token)
    (patience : Nat) (node : Node) (flows : List SequenceFlow) (journey : Journey) :
    journey.Continues (navigator.select request token patience node flows journey).2 ∧
      (journey.Counted →
        (navigator.select request token patience node flows journey).2.Counted) := by
  rcases navigator.select_cases request node flows with ⟨result, -, hselect⟩ | ⟨filter, hselect⟩
  · rw [hselect]
    exact ⟨.refl journey, id⟩
  · obtain ⟨added, hpolls, hadded⟩ := awaitReply_polls token journey.calls.length
      (filter.start journey.calls.length flows request.case (request.context node.id)) patience 0
      journey.clock
    rw [hselect]
    exact ⟨continues_asked ⟨added, hpolls.symm⟩, fun h => counted_asked h hpolls hadded⟩

/-- What a pass records goes on from what was recorded, and its calls are counted, as they are in
its selection. -/
theorem pass_progress {node : Node} {journey next : Journey} {ended : PassEnd}
    (hpass : navigator.pass request token patience node journey = (ended, next)) :
    journey.Continues next ∧ (journey.Counted → next.Counted) := by
  unfold pass at hpass
  dsimp only at hpass
  split at hpass
  · cases hpass
    exact ⟨journey.continues_visit node, id⟩
  · cases hpass
    obtain ⟨hcontinues, hcounted⟩ := select_progress navigator request token patience node
      (navigator.graph.outgoingFlows node.id) (journey.visit node)
    exact ⟨(journey.continues_visit node).trans hcontinues, hcounted⟩

/-- A walk keeps what every pass keeps, by induction along the walk. -/
theorem walk_keeps {property : Journey → Prop}
    (hkeeps : ∀ node journey ended next,
      navigator.pass request token patience node journey = (ended, next) →
      property journey → property next)
    (visited : List String) (node : Node) (journey : Journey) :
    property journey →
      property (navigator.walk request token patience visited node journey).halt.2 := by
  refine walk_induction ?_ ?_ ?_ visited node journey
  · intro visited node journey outcome next hpass
    exact hkeeps node journey _ next hpass
  · intro visited node journey gateway next hpass hvisited
    exact hkeeps node journey _ next hpass
  · intro visited node journey gateway next hpass hnew ih h
    exact ih (hkeeps node journey _ next hpass h)

/-- A navigation has what the start has and every pass keeps, also where it does not find its
origin. -/
theorem nextElement_keeps {property : Journey → Prop}
    (hkeeps : ∀ node journey ended next,
      navigator.pass request token patience node journey = (ended, next) →
      property journey → property next)
    (hstart : property .start) :
    property (navigator.nextElement request token patience).halt.2 := by
  unfold nextElement
  split
  · exact hstart
  · exact walk_keeps hkeeps _ _ .start hstart

/-- What a walk records goes on from what was recorded, and its calls are counted, as both are kept
by every pass. -/
theorem walk_progress (visited : List String) (node : Node) (journey : Journey) :
    journey.Continues
        (navigator.walk request token patience visited node journey).halt.2 ∧
      (journey.Counted →
        (navigator.walk request token patience visited node journey).halt.2.Counted) := by
  refine ⟨walk_keeps ?_ visited node journey (.refl journey), walk_keeps ?_ visited node journey⟩
  · intro node earlier ended next hpass hcontinues
    exact hcontinues.trans (pass_progress hpass).1
  · intro node earlier ended next hpass
    exact (pass_progress hpass).2

/-- What a pass records is recorded by its walk, which goes on from there. -/
theorem continues_walk_of_pass (visited : List String) {node : Node} {journey next : Journey}
    {ended : PassEnd}
    (hpass : navigator.pass request token patience node journey = (ended, next)) :
    next.Continues (navigator.walk request token patience visited node journey).halt.2 := by
  rw [walk_eq, hpass]
  cases ended with
  | stopped outcome => exact .refl next
  | entered gateway =>
    unfold resume
    dsimp only
    split
    · exact .refl next
    · exact (walk_progress _ _ _).1

/-- The calls of a navigation are those that its polls belong to: a filter that is never polled has
not been called. -/
theorem nextElement_counted (navigator : Navigator) (request : NavigationRequest) (token : Token)
    (patience : Nat) : (navigator.nextElement request token patience).halt.2.Counted := by
  refine nextElement_keeps ?_ Journey.counted_start
  intro node journey ended next hpass
  exact (pass_progress hpass).2

end Navigator

end CaseRouting
