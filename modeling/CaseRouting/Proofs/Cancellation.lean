import CaseRouting.Proofs.WalkProgress

/-!
# Cancelled navigations

A navigation with a token is compared with the same navigation that nobody can cancel. Up to the
first poll before which the token is cancelled both take the same course; there the navigation with
the token ends. If there is no such poll, both are the same.
-/

namespace CaseRouting

variable {cancelledBy : Nat → Bool}

/-- The token is cancelled when the poll with a number is due: the caller has cancelled it by then,
or a filter has at an earlier poll. -/
def CancelledBefore (cancelledBy : Nat → Bool) (polls : List FilterPoll) (number : Nat) : Prop :=
  cancelledBy number = true ∨ ∃ taken ∈ polls.take number, taken.poll.cancels = true

/-- The token is not cancelled when any of the polls from one number up to another is due. -/
def Undisturbed (cancelledBy : Nat → Bool) (polls : List FilterPoll) (since upTo : Nat) : Prop :=
  ∀ number, since ≤ number → number < upTo → ¬CancelledBefore cancelledBy polls number

/-- The first poll from a number on that is due when the token is cancelled. A navigation ends there
instead of polling. -/
structure FirstDisturbed (cancelledBy : Nat → Bool) (polls : List FilterPoll)
    (since number : Nat) : Prop where
  /-- The poll is not an earlier one. -/
  since_le : since ≤ number
  /-- The poll is one of the list. -/
  lt_length : number < polls.length
  /-- The token is cancelled when the poll is due. -/
  cancelled : CancelledBefore cancelledBy polls number
  /-- The token is not cancelled when the polls before it are due. -/
  undisturbed : Undisturbed cancelledBy polls since number

/-- How a call with a token ends and what it records, compared with a call that nobody can cancel,
when both come from the same number of polls. -/
inductive Interrupts {β : Type} (cancelledBy : Nat → Bool) (cancelled : β) (since : Nat)
    (free : β × Journey) : β × Journey → Prop where
  /-- The token is not cancelled when a poll is due, and the calls are the same. -/
  | never (hundisturbed : Undisturbed cancelledBy free.2.clock.polls since
      free.2.clock.polls.length) (hfree : free.1 ≠ cancelled) :
    Interrupts cancelledBy cancelled since free free
  /-- The call with the token ends when a poll is due, having recorded what the other one has
  recorded by then. -/
  | cut {number : Nat} {journey : Journey}
    (hfirst : FirstDisturbed cancelledBy free.2.clock.polls since number)
    (hpolls : journey.clock.polls = free.2.clock.polls.take number)
    (hcontinues : journey.Continues free.2) :
    Interrupts cancelledBy cancelled since free (cancelled, journey)

/-- Whether the token is cancelled at a poll depends on the polls before it only, and not on what
comes later. -/
theorem cancelledBefore_extend {earlier later : List FilterPoll} (hlater : earlier <+: later)
    {number : Nat} (hnumber : number ≤ earlier.length) :
    CancelledBefore cancelledBy later number ↔ CancelledBefore cancelledBy earlier number := by
  obtain ⟨rest, rfl⟩ := hlater
  unfold CancelledBefore
  rw [List.take_append_of_le_length hnumber]

/-- The token is cancelled at the poll that is due next if it is cancelled now, as a wait looks at
it. -/
theorem cancelledBefore_length {clock : Clock} {later : List FilterPoll}
    (hlater : clock.polls <+: later) :
    CancelledBefore cancelledBy later clock.polls.length ↔
      clock.isCancelled (.shared cancelledBy) = true := by
  rw [cancelledBefore_extend hlater (Nat.le_refl _)]
  unfold CancelledBefore Clock.isCancelled Clock.cancelled
  rw [List.take_length, Bool.or_eq_true, List.any_eq_true, or_comm]

/-- Stretches without a disturbance can be joined, where one ends and the other begins. -/
theorem Undisturbed.trans {polls : List FilterPoll} {first second third : Nat}
    (hfirst : Undisturbed cancelledBy polls first second)
    (hsecond : Undisturbed cancelledBy polls second third) :
    Undisturbed cancelledBy polls first third := by
  intro number hsince hupTo
  by_cases hnumber : number < second
  · exact hfirst number hsince hnumber
  · exact hsecond number (by omega) hupTo

/-- Later polls disturb no earlier ones, so that a stretch stays undisturbed when the navigation
goes on. -/
theorem Undisturbed.extend {earlier later : List FilterPoll} (hlater : earlier <+: later)
    {since : Nat} (h : Undisturbed cancelledBy earlier since earlier.length) :
    Undisturbed cancelledBy later since earlier.length := by
  intro number hsince hupTo
  rw [cancelledBefore_extend hlater (by omega)]
  exact h number hsince hupTo

/-- The first disturbance stays the first one when later polls take place, for these come behind
it. -/
theorem FirstDisturbed.extend {earlier later : List FilterPoll} (hlater : earlier <+: later)
    {since number : Nat} (h : FirstDisturbed cancelledBy earlier since number) :
    FirstDisturbed cancelledBy later since number where
  since_le := h.since_le
  lt_length := Nat.lt_of_lt_of_le h.lt_length hlater.length_le
  cancelled := (cancelledBefore_extend hlater (Nat.le_of_lt h.lt_length)).mpr h.cancelled
  undisturbed := by
    intro other hsince hupTo
    rw [cancelledBefore_extend hlater (Nat.le_of_lt (Nat.lt_trans hupTo h.lt_length))]
    exact h.undisturbed other hsince hupTo

/-- The first disturbance behind a stretch without one is the first with the stretch, too. -/
theorem FirstDisturbed.of_undisturbed {polls : List FilterPoll} {since first number : Nat}
    (hle : since ≤ first) (hundisturbed : Undisturbed cancelledBy polls since first)
    (h : FirstDisturbed cancelledBy polls first number) :
    FirstDisturbed cancelledBy polls since number where
  since_le := Nat.le_trans hle h.since_le
  lt_length := h.lt_length
  cancelled := h.cancelled
  undisturbed := hundisturbed.trans h.undisturbed

/-- Only one poll is the first that is due when the token is cancelled, as the polls before it are
undisturbed. -/
theorem FirstDisturbed.unique {polls : List FilterPoll} {since first second : Nat}
    (hfirst : FirstDisturbed cancelledBy polls since first)
    (hsecond : FirstDisturbed cancelledBy polls since second) : first = second := by
  rcases Nat.lt_trichotomy first second with hless | heq | hless
  · exact absurd hfirst.cancelled (hsecond.undisturbed first hfirst.since_le hless)
  · exact heq
  · exact absurd hsecond.cancelled (hfirst.undisturbed second hsecond.since_le hless)

/-- No poll is due between a number and itself, and so none is disturbed. -/
theorem undisturbed_self (polls : List FilterPoll) (since : Nat) :
    Undisturbed cancelledBy polls since since := by
  intro number hsince hupTo
  omega

/-- Waiting for a filter with a token is waiting without one, up to the first poll that is due when
the token is cancelled. The induction is on the patience, and each round polls once. -/
theorem awaitReply_interrupts (cancelledBy : Nat → Bool) (call : Nat) (activity : Activity)
    (patience number : Nat) (clock : Clock) {free : Reply × Clock}
    (hfree : awaitReply .detached call activity patience number clock = free) :
    (Undisturbed cancelledBy free.2.polls clock.polls.length free.2.polls.length ∧
      free.1 ≠ .cancelled ∧
      awaitReply (.shared cancelledBy) call activity patience number clock = free) ∨
    ∃ cut, FirstDisturbed cancelledBy free.2.polls clock.polls.length cut ∧
      awaitReply (.shared cancelledBy) call activity patience number clock =
        (.cancelled, ⟨free.2.polls.take cut⟩) := by
  induction patience generalizing number clock with
  | zero =>
    subst hfree
    exact .inl ⟨undisturbed_self _ _, by simp [awaitReply], rfl⟩
  | succ patience ih =>
    have hlater : (clock.advance call (activity number)).polls <+: free.2.polls := by
      rw [← hfree]
      exact advance_polls_of_not_cancelled rfl call activity patience number
    have hclock : clock.polls <+: free.2.polls := (List.prefix_append _ _).trans hlater
    have hlength : (clock.advance call (activity number)).polls.length =
        clock.polls.length + 1 := List.length_append
    by_cases hdue : clock.isCancelled (.shared cancelledBy) = true
    · right
      refine ⟨clock.polls.length, ⟨Nat.le_refl _, ?_, ?_, undisturbed_self _ _⟩, ?_⟩
      · have hle := hlater.length_le
        omega
      · exact (cancelledBefore_length hclock).mpr hdue
      · rw [awaitReply_of_cancelled hdue, ← List.prefix_iff_eq_take.mp hclock]
    · have hstep : Undisturbed cancelledBy free.2.polls clock.polls.length
          (clock.advance call (activity number)).polls.length := by
        intro other hsince hupTo
        obtain rfl : other = clock.polls.length := by omega
        rwa [cancelledBefore_length hclock]
      rw [awaitReply_of_not_cancelled (Bool.eq_false_iff.mpr hdue)]
      rw [awaitReply_of_not_cancelled rfl] at hfree
      cases hpoll : (activity number).answer with
      | some answer =>
        rw [hpoll] at hfree
        subst hfree
        exact .inl ⟨hstep, by simp, rfl⟩
      | none =>
        rw [hpoll] at hfree
        rcases ih (number + 1) _ hfree with ⟨hundisturbed, hreply, hsame⟩ | ⟨cut, hfirst, hcut⟩
        · exact .inl ⟨hstep.trans hundisturbed, hreply, hsame⟩
        · exact .inr ⟨cut, hfirst.of_undisturbed (by omega) hstep, hcut⟩

namespace Interrupts

variable {β γ : Type} {cancelled : β} {since : Nat} {free shared : β × Journey}

/-- Where no poll is due, a token makes no difference, be it cancelled or not. -/
theorem of_no_polls (hpolls : free.2.clock.polls.length = since) (hfree : free.1 ≠ cancelled) :
    Interrupts cancelledBy cancelled since free free := by
  refine .never ?_ hfree
  rw [hpolls]
  exact undisturbed_self _ _

/-- What becomes of the ends of both calls compares as the ends do, if nothing else becomes what a
cancellation becomes. -/
theorem map {f : β → γ} (hf : ∀ b, f b = f cancelled → b = cancelled)
    (h : Interrupts cancelledBy cancelled since free shared) :
    Interrupts cancelledBy (f cancelled) since (f free.1, free.2) (f shared.1, shared.2) := by
  cases h with
  | never hundisturbed hfree => exact .never hundisturbed fun h => hfree (hf free.1 h)
  | cut hfirst hpolls hcontinues => exact .cut hfirst hpolls hcontinues

/-- The two ways in which calls compare: they are the same, or the one with the token ends at a
first disturbance. -/
theorem same_or_cut (h : Interrupts cancelledBy cancelled since free shared) :
    (Undisturbed cancelledBy free.2.clock.polls since free.2.clock.polls.length ∧
      free.1 ≠ cancelled ∧ shared = free) ∨
    ∃ number, FirstDisturbed cancelledBy free.2.clock.polls since number ∧
      shared.1 = cancelled ∧ shared.2.clock.polls = free.2.clock.polls.take number ∧
      shared.2.Continues free.2 := by
  cases h with
  | never hundisturbed hfree => exact .inl ⟨hundisturbed, hfree, rfl⟩
  | cut hfirst hpolls hcontinues => exact .inr ⟨_, hfirst, rfl, hpolls, hcontinues⟩

/-- A call that ends early ends early in whatever the other call goes on to, since what it has
recorded is recorded there as well. -/
theorem cut_of_continues {later : γ × Journey} {ended : γ} {number : Nat} {journey : Journey}
    (hlater : free.2.Continues later.2)
    (hfirst : FirstDisturbed cancelledBy free.2.clock.polls since number)
    (hpolls : journey.clock.polls = free.2.clock.polls.take number)
    (hcontinues : journey.Continues free.2) :
    Interrupts cancelledBy ended since later (ended, journey) := by
  refine .cut (hfirst.extend hlater.polls) ?_ (hcontinues.trans hlater)
  obtain ⟨rest, hrest⟩ := hlater.polls
  rw [hpolls, ← hrest, List.take_append_of_le_length (Nat.le_of_lt hfirst.lt_length)]

/-- Calls compare as they do behind a stretch without a disturbance, in which both take the same
course. -/
theorem of_undisturbed {first : Journey}
    (h : Interrupts cancelledBy cancelled first.clock.polls.length free shared)
    (hle : since ≤ first.clock.polls.length)
    (hundisturbed : Undisturbed cancelledBy first.clock.polls since first.clock.polls.length)
    (hcontinues : first.Continues free.2) :
    Interrupts cancelledBy cancelled since free shared := by
  have hstretch := hundisturbed.extend hcontinues.polls
  cases h with
  | never hrest hfree => exact .never (hstretch.trans hrest) hfree
  | cut hfirst hpolls hshared =>
    exact .cut (hfirst.of_undisturbed hle hstretch) hpolls hshared

end Interrupts

namespace Navigator

variable {navigator : Navigator} {request : NavigationRequest} {patience : Nat}

/-- Only a cancelled selection leads to a cancelled walk, for following a flow does not cancel
anything. -/
theorem follow_eq_cancelled {selected : Option (Except NavigationError SequenceFlow)}
    (h : navigator.follow selected = .stopped (some (.error .cancelled))) :
    selected = some (.error .cancelled) := by
  refine (follow_eq_error h).resolve_right ?_
  rintro ⟨id, hid⟩
  cases hid

/-- A wait that goes on records what it has recorded before, the call included. -/
theorem asked_continues_asked {node : Node} {flows : List SequenceFlow} {filter : GatewayFilter}
    {journey : Journey} {clock later : Clock} (hpolls : journey.clock.polls <+: clock.polls)
    (hlater : clock.polls <+: later.polls) :
    (asked request node flows filter journey clock).Continues
      (asked request node flows filter journey later) := by
  refine ⟨List.prefix_rfl, ?_, hlater⟩
  have hle := hpolls.length_le
  have hlaterLe := hlater.length_le
  unfold asked Journey.consult
  dsimp only
  split
  · split
    · exact List.prefix_rfl
    · exact List.prefix_append _ _
  · have hmore : ¬later.polls.length = journey.clock.polls.length := by omega
    simp only [if_neg hmore, List.prefix_rfl]

/-- A selection with a token compares with one that nobody can cancel, as the waits for their filter
do. -/
theorem select_interrupts (navigator : Navigator) (request : NavigationRequest)
    (cancelledBy : Nat → Bool) (patience : Nat) (node : Node) (flows : List SequenceFlow)
    (journey : Journey) :
    Interrupts cancelledBy (some (.error .cancelled)) journey.clock.polls.length
      (navigator.select request .detached patience node flows journey)
      (navigator.select request (.shared cancelledBy) patience node flows journey) := by
  rcases navigator.select_cases request node flows with ⟨result, hresult, hselect⟩ |
    ⟨filter, hselect⟩
  · rw [hselect, hselect]
    exact .of_no_polls rfl (by simpa using hresult)
  · rw [hselect, hselect]
    unfold ask waitFor
    rcases awaitReply_interrupts cancelledBy journey.calls.length
        (filter.start journey.calls.length flows request.case (request.context node.id)) patience 0
        journey.clock rfl with ⟨hundisturbed, hreply, hsame⟩ | ⟨cut, hfirst, hcut⟩
    · rw [hsame]
      exact .never hundisturbed (mt settle_eq_cancelled_iff.mp hreply)
    · rw [hcut]
      refine .cut hfirst rfl (asked_continues_asked ?_ (List.take_prefix _ _))
      obtain ⟨added, hadded, -⟩ := awaitReply_polls .detached journey.calls.length
        (filter.start journey.calls.length flows request.case (request.context node.id)) patience 0
        journey.clock
      exact List.prefix_take_iff.mpr ⟨⟨added, hadded.symm⟩, hfirst.since_le⟩

/-- A pass with a token compares with one that nobody can cancel, as their selections do. -/
theorem pass_interrupts (navigator : Navigator) (request : NavigationRequest)
    (cancelledBy : Nat → Bool) (patience : Nat) (node : Node) (journey : Journey) :
    Interrupts cancelledBy (.stopped (some (.error .cancelled))) journey.clock.polls.length
      (navigator.pass request .detached patience node journey)
      (navigator.pass request (.shared cancelledBy) patience node journey) := by
  unfold pass
  dsimp only
  split
  · exact .of_no_polls rfl (by simp)
  · exact (navigator.select_interrupts request cancelledBy patience node
      (navigator.graph.outgoingFlows node.id) (journey.visit node)).map
        (f := navigator.follow) fun _ => follow_eq_cancelled

/-- A walk with a token compares with one that nobody can cancel if what follows the first pass
does. A pass that is cut ends the walk with the token, and one that is not is the same for both. -/
theorem interrupts_of_pass {visited : List String} {node : Node} {journey next : Journey}
    {ended : PassEnd} {free : NavigationRun}
    (hpass : navigator.pass request .detached patience node journey = (ended, next))
    (hcontinues : next.Continues free.halt.2)
    (hresume : ended ≠ .stopped (some (.error .cancelled)) →
      Interrupts cancelledBy (some (.error .cancelled)) next.clock.polls.length free.halt
        (navigator.resume request (.shared cancelledBy) patience visited (ended, next)).halt) :
    Interrupts cancelledBy (some (.error .cancelled)) journey.clock.polls.length free.halt
      (navigator.walk request (.shared cancelledBy) patience visited node journey).halt := by
  have hinterrupts := navigator.pass_interrupts request cancelledBy patience node journey
  rw [walk_eq]
  generalize navigator.pass request (.shared cancelledBy) patience node journey = shared
    at hinterrupts
  rw [hpass] at hinterrupts
  cases hinterrupts with
  | never hundisturbed hended =>
    exact (hresume hended).of_undisturbed (pass_progress hpass).1.polls.length_le hundisturbed
      hcontinues
  | cut hfirst hpolls hbefore => exact .cut_of_continues hcontinues hfirst hpolls hbefore

/-- A walk with a token compares with one that nobody can cancel, by induction along the walk that
nobody can cancel. -/
theorem walk_interrupts (cancelledBy : Nat → Bool) (visited : List String) (node : Node)
    (journey : Journey) :
    Interrupts cancelledBy (some (.error .cancelled)) journey.clock.polls.length
      (navigator.walk request .detached patience visited node journey).halt
      (navigator.walk request (.shared cancelledBy) patience visited node journey).halt := by
  refine walk_induction ?_ ?_ ?_ visited node journey
  · intro visited node journey outcome next hpass
    refine interrupts_of_pass hpass (.refl next) fun hended => ?_
    exact .of_no_polls rfl fun houtcome => hended (congrArg PassEnd.stopped houtcome)
  · intro visited node journey gateway next hpass hvisited
    refine interrupts_of_pass hpass (.refl next) fun _ => ?_
    rw [resume, if_pos hvisited]
    exact .of_no_polls rfl (by simp [NavigationRun.halt, Journey.ending])
  · intro visited node journey gateway next hpass hnew ih
    refine interrupts_of_pass hpass (walk_progress _ _ _).1 fun _ => ?_
    rw [resume, if_neg hnew]
    exact ih

/-- A navigation with a token compares with one that nobody can cancel, from its first poll on. -/
theorem nextElement_interrupts (navigator : Navigator) (request : NavigationRequest)
    (cancelledBy : Nat → Bool) (patience : Nat) :
    Interrupts cancelledBy (some (.error .cancelled)) 0
      (navigator.nextElement request .detached patience).halt
      (navigator.nextElement request (.shared cancelledBy) patience).halt := by
  unfold nextElement
  split
  · exact .of_no_polls rfl (by simp [NavigationRun.halt, Journey.ending])
  · exact walk_interrupts cancelledBy _ _ .start

/-- If the caller does not cancel and at most the last poll does, no poll is due when the token is
cancelled, for none comes behind the last. -/
theorem not_cancelledBefore_of_dropLast {polls : List FilterPoll}
    (hcaller : ∀ number < polls.length, cancelledBy number = false)
    (hfilters : ∀ taken ∈ polls.dropLast, taken.poll.cancels = false) {number : Nat}
    (hnumber : number < polls.length) : ¬CancelledBefore cancelledBy polls number := by
  rintro (hcancelled | ⟨taken, htaken, hcancels⟩)
  · rw [hcaller number hnumber] at hcancelled
    cases hcancelled
  · have hmem : taken ∈ polls.dropLast := by
      rw [List.dropLast_eq_take]
      exact List.take_subset_take_left polls (by omega) htaken
    rw [hfilters taken hmem] at hcancels
    cases hcancels

/-- A navigation with a token takes the course of the navigation that nobody can cancel up to the
first poll that is due when the token is cancelled. It is cancelled exactly if there is such a poll.
Neither this poll nor a later one takes place then, and a filter has been called only if it has been
polled. Any other navigation with a token is the one that nobody can cancel, even if the last poll
cancels the token, and in particular if no filter is polled. -/
theorem nextElement_cancelled_at_due_poll (navigator : Navigator) (request : NavigationRequest)
    (cancelledBy : Nat → Bool) (patience : Nat) :
    let free := navigator.nextElement request .detached patience
    let run := navigator.nextElement request (.shared cancelledBy) patience
    (run.outcome = some (.error .cancelled) ↔
      ∃ number < free.polls.length, CancelledBefore cancelledBy free.polls number) ∧
    (∀ number, FirstDisturbed cancelledBy free.polls 0 number →
      run.polls = free.polls.take number ∧ run.calls <+: free.calls ∧ run.trail <+: free.trail) ∧
    (∀ call, call < run.calls.length ↔ ∃ taken ∈ run.polls, taken.call = call) ∧
    (run.outcome ≠ some (.error .cancelled) → run = free) ∧
    ((∀ number < free.polls.length, cancelledBy number = false) →
      (∀ taken ∈ free.polls.dropLast, taken.poll.cancels = false) → run = free) ∧
    (free.polls = [] → run = free) := by
  intro free run
  have hcounted : ∀ call, call < run.calls.length ↔ ∃ taken ∈ run.polls, taken.call = call :=
    navigator.nextElement_counted request (.shared cancelledBy) patience
  rcases (navigator.nextElement_interrupts request cancelledBy patience).same_or_cut with
    ⟨hundisturbed, hfree, hsame⟩ | ⟨number, hfirst, houtcome, hpolls, hcontinues⟩
  · have hrun : run = free := NavigationRun.halt_injective hsame
    have hnever (number : Nat) (hnumber : number < free.polls.length) :
        ¬CancelledBefore cancelledBy free.polls number :=
      hundisturbed number (Nat.zero_le _) hnumber
    refine ⟨⟨fun houtcome => ?_, ?_⟩, ?_, hcounted, fun _ => hrun, fun _ _ => hrun, fun _ => hrun⟩
    · rw [hrun] at houtcome
      exact absurd houtcome hfree
    · rintro ⟨number, hnumber, hcancelled⟩
      exact absurd hcancelled (hnever number hnumber)
    · intro number hfirst
      exact absurd hfirst.cancelled (hnever number hfirst.lt_length)
  · have hcancelled : run.outcome = some (.error .cancelled) := houtcome
    have hlength : number < free.polls.length := hfirst.lt_length
    refine ⟨⟨fun _ => ⟨number, hlength, hfirst.cancelled⟩, fun _ => hcancelled⟩, ?_, hcounted,
      fun hother => absurd hcancelled hother, fun hcaller hfilters => ?_, fun hnone => ?_⟩
    · intro other hother
      obtain rfl := hfirst.unique hother
      exact ⟨hpolls, hcontinues.calls, hcontinues.trail⟩
    · exact absurd hfirst.cancelled (not_cancelledBefore_of_dropLast hcaller hfilters hlength)
    · rw [hnone] at hlength
      cases hlength

section Requests

/-- Checks never come to an answer, so that a request waits there until it is cancelled. -/
def stalledFilters : FilterRegistry :=
  ⟨[⟨"Check", fun _ _ _ _ => .stalled⟩], List.nodup_singleton _⟩

/-- Checks cancel the navigation at their first poll, at which they pass every flow, and what
becomes of the request is decided by the action. -/
def cancellingFilters : FilterRegistry :=
  ⟨[⟨"Check", fun _ offered _ _ => .cancelling (.done (.ok offered))⟩, .byAction "Route"],
    by decide⟩

/-- Checks do so, and nothing else is asked. -/
def cancellingCheck : FilterRegistry :=
  ⟨[⟨"Check", fun _ offered _ _ => .cancelling (.done (.ok offered))⟩], List.nodup_singleton _⟩

/-- A request that has been filed is cancelled at a check that never answers: before its filter is
called, if the token has been cancelled before, and with one call behind it, if the token is
cancelled between the first poll and the second. A check that answers at the poll at which it
cancels the token counts, and the next filter is not called any more; without a next filter the case
ends as it would otherwise. Where no filter is registered a cancelled token does not count. -/
theorem nextElement_cancelled_at_due_poll_requestProcess :
    let request : NavigationRequest := ⟨"File", none, .blank⟩
    let run (registry : FilterRegistry) (cancelledBy : Nat → Bool) :=
      (Navigator.mk requestProcess.image registry).nextElement request (.shared cancelledBy) 3
    let element := requestProcess.imageNode (.endEvent "End")
    ((run stalledFilters fun _ => true).outcome = some (.error .cancelled) ∧
      (run stalledFilters fun _ => true).calls.length = 0) ∧
    ((run stalledFilters fun poll => 1 ≤ poll).outcome = some (.error .cancelled) ∧
      (run stalledFilters fun poll => 1 ≤ poll).calls.map FilterCall.gatewayId = ["Check"] ∧
      (run stalledFilters fun poll => 1 ≤ poll).polls.length = 1) ∧
    ((run cancellingFilters fun _ => false).outcome = some (.error .cancelled) ∧
      (run cancellingFilters fun _ => false).calls.map FilterCall.gatewayId = ["Check"]) ∧
    ((run cancellingCheck fun _ => false).outcome = some (.ok (some element)) ∧
      (run cancellingCheck fun _ => false).calls.map FilterCall.gatewayId = ["Check"]) ∧
    (run .empty fun _ => true).outcome = some (.ok (some element)) := by
  intro request run element
  obtain ⟨hspent, -⟩ := nextElement_cancelled_at_due_poll ⟨requestProcess.image, stalledFilters⟩
    request (fun _ => true) 3
  obtain ⟨hbetween, -⟩ := nextElement_cancelled_at_due_poll ⟨requestProcess.image, stalledFilters⟩
    request (fun poll => 1 ≤ poll) 3
  obtain ⟨hnext, -⟩ := nextElement_cancelled_at_due_poll
    ⟨requestProcess.image, cancellingFilters⟩ request (fun _ => false) 3
  obtain ⟨-, -, -, -, hlast, -⟩ := nextElement_cancelled_at_due_poll
    ⟨requestProcess.image, cancellingCheck⟩ request (fun _ => false) 3
  obtain ⟨-, -, -, -, -, hnone⟩ := nextElement_cancelled_at_due_poll
    ⟨requestProcess.image, .empty⟩ request (fun _ => true) 3
  refine ⟨⟨?_, by decide +kernel⟩, ⟨?_, by decide +kernel, by decide +kernel⟩,
    ⟨?_, by decide +kernel⟩, ⟨?_, by decide +kernel⟩, ?_⟩
  · exact hspent.mpr ⟨0, by decide +kernel, .inl rfl⟩
  · exact hbetween.mpr ⟨1, by decide +kernel, .inl rfl⟩
  · exact hnext.mpr ⟨1, by decide +kernel, .inr (by decide +kernel)⟩
  · have hfree : run cancellingCheck (fun _ => false) = _ :=
      hlast (fun _ _ => rfl) (by decide +kernel)
    rw [hfree]
    decide +kernel
  · have hfree : run .empty (fun _ => true) = _ :=
      hnone (List.length_eq_zero_iff.mp (by decide +kernel))
    rw [hfree]
    decide +kernel

end Requests

end Navigator

end CaseRouting
