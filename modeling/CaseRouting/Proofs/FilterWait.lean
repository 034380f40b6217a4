import CaseRouting.Navigation.Selection
import Mathlib.Tactic.Conv

/-!
# Waiting for a filter

A wait polls the activity of a filter call from a poll on. Unless the token is cancelled when a poll
is due, it ends with the answer of the activity, if the answer comes within the patience of the
wait. Every poll that takes place is recorded, and more patience changes nothing about a wait that
has ended.
-/

namespace CaseRouting

/-- The reply to a call that is not cancelled: its answer, if it comes in time, and otherwise none
as yet. -/
def Reply.ofAnswer : Option FilterAnswer → Reply
  | some answer => .answered answer
  | none => .pending

/-- So many polls of an activity from a number on, recorded as polls of a filter call, in order. -/
def Activity.pollsFrom (activity : Activity) (call number count : Nat) : List FilterPoll :=
  (List.range' number count).map fun poll => ⟨call, activity poll⟩

/-- An activity that answers if it is polled often enough, and what it answers then. -/
def Activity.Returns (activity : Activity) (answer : FilterAnswer) : Prop :=
  ∃ patience, activity.answerWithin patience 0 = some answer

/-- Neither the caller nor one of the polls cancels the token, at any time; a call without a token
is always live. -/
def Token.StaysLive (token : Token) (polls : List FilterPoll) : Prop :=
  match token with
  | .shared cancelledBy =>
    (∀ number, cancelledBy number = false) ∧ ∀ taken ∈ polls, taken.poll.cancels = false
  | .detached => True

/-- Neither the caller nor a filter of the registry ever cancels the token. -/
def FilterRegistry.Spares (registry : FilterRegistry) (token : Token) : Prop :=
  match token with
  | .shared cancelledBy =>
    (∀ number, cancelledBy number = false) ∧
      ∀ filter ∈ registry.filters, ∀ count offered case context number,
        (filter.start count offered case context number).cancels = false
  | .detached => True

/-- The polls of an activity carry the number of its call, so that the calls of a navigation can be
told apart by them. -/
theorem Activity.call_of_mem_pollsFrom {activity : Activity} {call number count : Nat}
    {taken : FilterPoll} (h : taken ∈ activity.pollsFrom call number count) :
    taken.call = call := by
  obtain ⟨poll, -, rfl⟩ := List.mem_map.mp h
  rfl

/-- So many polls of an activity take place as are counted. -/
theorem Activity.length_pollsFrom (activity : Activity) (call number count : Nat) :
    (activity.pollsFrom call number count).length = count := by
  rw [pollsFrom, List.length_map, List.length_range']

/-- An answer that comes in time comes in time for more patience, and it is the same answer. -/
theorem Activity.answerWithin_of_le {activity : Activity} {answer : FilterAnswer}
    {patience more number : Nat} (hle : patience ≤ more)
    (hanswer : activity.answerWithin patience number = some answer) :
    activity.answerWithin more number = some answer := by
  induction patience generalizing more number with
  | zero => cases hanswer
  | succ patience ih =>
    obtain ⟨rest, rfl⟩ : ∃ rest, more = rest + 1 := ⟨more - 1, by omega⟩
    unfold answerWithin at hanswer ⊢
    cases hpoll : (activity number).answer with
    | some found =>
      rw [hpoll] at hanswer
      exact hanswer
    | none =>
      rw [hpoll] at hanswer
      exact ih (by omega) hanswer

/-- An activity has one answer at most, for with the greater of two patiences both of its answers
would come. -/
theorem Activity.Returns.unique {activity : Activity} {first second : FilterAnswer}
    (hfirst : activity.Returns first) (hsecond : activity.Returns second) : first = second := by
  obtain ⟨patience, hfirst⟩ := hfirst
  obtain ⟨more, hsecond⟩ := hsecond
  have hlater := answerWithin_of_le (Nat.le_max_left patience more) hfirst
  rw [answerWithin_of_le (Nat.le_max_right patience more) hsecond] at hlater
  exact (Option.some.inj hlater).symm

namespace Token.StaysLive

/-- Before any poll, a token is live if the caller never cancels it, as a caller who spares it does
not. -/
theorem of_spares {registry : FilterRegistry} {token : Token} (h : registry.Spares token) :
    token.StaysLive [] := by
  cases token with
  | shared cancelledBy => exact ⟨h.1, by simp⟩
  | detached => trivial

/-- A token stays live while neither the polls so far nor further ones cancel it, one after the
other. -/
theorem append {token : Token} {polls further : List FilterPoll} (h : token.StaysLive polls)
    (hfurther : token.StaysLive further) : token.StaysLive (polls ++ further) := by
  cases token with
  | shared cancelledBy =>
    refine ⟨h.1, fun taken htaken => ?_⟩
    rcases List.mem_append.mp htaken with htaken | htaken
    · exact h.2 taken htaken
    · exact hfurther.2 taken htaken
  | detached => trivial

/-- A token that stays live is not cancelled when the next poll is due. -/
theorem isCancelled {token : Token} {clock : Clock} (h : token.StaysLive clock.polls) :
    clock.isCancelled token = false := by
  cases token with
  | shared cancelledBy =>
    have hpolls : clock.cancelled = false := by
      simpa [Clock.cancelled, List.any_eq_false] using h.2
    rw [Clock.isCancelled, hpolls, h.1, Bool.or_self]
  | detached => rfl

end Token.StaysLive

/-- A token that is spared by the filters stays live while one of them is polled, however often and
whatever it was given. -/
theorem FilterRegistry.Spares.pollsFrom {registry : FilterRegistry} {token : Token}
    (h : registry.Spares token) {filter : GatewayFilter} (hfilter : filter ∈ registry.filters)
    (started : Nat) (offered : List SequenceFlow) (case : CaseData) (context : GatewayContext)
    (call number count : Nat) :
    token.StaysLive ((filter.start started offered case context).pollsFrom call number count) := by
  cases token with
  | shared cancelledBy =>
    refine ⟨h.1, fun taken htaken => ?_⟩
    obtain ⟨poll, -, rfl⟩ := List.mem_map.mp htaken
    exact h.2 filter hfilter started offered case context poll
  | detached => trivial

/-- A poll that is due when the token is cancelled does not take place, and the wait is over. -/
theorem awaitReply_of_cancelled {token : Token} {clock : Clock}
    (hclock : clock.isCancelled token = true) (call : Nat) (activity : Activity)
    (patience number : Nat) :
    awaitReply token call activity (patience + 1) number clock = (.cancelled, clock) := by
  rw [awaitReply, if_pos hclock]

/-- A poll that is due when the token is not cancelled takes place, and its answer ends the wait. -/
theorem awaitReply_of_not_cancelled {token : Token} {clock : Clock}
    (hclock : clock.isCancelled token = false) (call : Nat) (activity : Activity)
    (patience number : Nat) :
    awaitReply token call activity (patience + 1) number clock =
      match (activity number).answer with
      | some answer => (.answered answer, clock.advance call (activity number))
      | none =>
        awaitReply token call activity patience (number + 1)
          (clock.advance call (activity number)) := by
  conv_lhs => rw [awaitReply]
  exact if_neg (Bool.eq_false_iff.mp hclock)

/-- What a wait does: it adds polls of the activity, and either the token is cancelled behind them,
or the reply is the answer of the activity. Each round either ends the wait or adds the poll that is
due, from which the rest goes on. -/
theorem awaitReply_spec (token : Token) (call : Nat) (activity : Activity)
    (patience number : Nat) (clock : Clock) :
    ∃ count, (awaitReply token call activity patience number clock).2 =
        ⟨clock.polls ++ activity.pollsFrom call number count⟩ ∧
      ((awaitReply token call activity patience number clock).1 = .cancelled ∧
          (awaitReply token call activity patience number clock).2.isCancelled token = true ∨
        (awaitReply token call activity patience number clock).1 =
            .ofAnswer (activity.answerWithin patience number) ∧
          (0 < patience → 0 < count)) := by
  induction patience generalizing number clock with
  | zero =>
    refine ⟨0, ?_, .inr ⟨rfl, by omega⟩⟩
    rw [Activity.pollsFrom, List.range'_zero, List.map_nil, List.append_nil]
    rfl
  | succ patience ih =>
    by_cases hclock : clock.isCancelled token = true
    · rw [awaitReply_of_cancelled hclock]
      refine ⟨0, ?_, .inl ⟨rfl, hclock⟩⟩
      rw [Activity.pollsFrom, List.range'_zero, List.map_nil, List.append_nil]
    · rw [awaitReply_of_not_cancelled (Bool.eq_false_iff.mpr hclock)]
      unfold Activity.answerWithin
      cases hpoll : (activity number).answer with
      | some answer => exact ⟨1, rfl, .inr ⟨rfl, by omega⟩⟩
      | none =>
        obtain ⟨count, hafter, hreply⟩ := ih (number + 1) (clock.advance call (activity number))
        refine ⟨count + 1, ?_, hreply.imp_right fun h => ⟨h.1, by omega⟩⟩
        dsimp only
        rw [hafter, Clock.advance, List.append_assoc, Activity.pollsFrom, Activity.pollsFrom,
          List.range'_succ, List.map_cons, List.singleton_append]

/-- Where the token stays live, the reply is the answer of the activity, or none if it does not come
in time. -/
theorem awaitReply_of_staysLive {token : Token} {call : Nat} {activity : Activity}
    {patience number : Nat} {clock : Clock}
    (hlive : token.StaysLive (awaitReply token call activity patience number clock).2.polls) :
    (awaitReply token call activity patience number clock).1 =
      .ofAnswer (activity.answerWithin patience number) := by
  obtain ⟨count, -, ⟨-, hcancelled⟩ | ⟨hreply, -⟩⟩ :=
    awaitReply_spec token call activity patience number clock
  · rw [hlive.isCancelled] at hcancelled
    cases hcancelled
  · exact hreply

/-- A wait is not left pending by an activity that answers in time, although it may be cancelled
before. -/
theorem awaitReply_ne_pending {token : Token} {call : Nat} {activity : Activity}
    {patience number : Nat} {clock : Clock} {answer : FilterAnswer}
    (hanswer : activity.answerWithin patience number = some answer) :
    (awaitReply token call activity patience number clock).1 ≠ .pending := by
  obtain ⟨count, -, ⟨hreply, -⟩ | ⟨hreply, -⟩⟩ :=
    awaitReply_spec token call activity patience number clock
  · simp [hreply]
  · simp [hreply, hanswer, Reply.ofAnswer]

/-- More patience changes nothing about a wait that has ended, neither its reply nor the polls that
it adds. -/
theorem awaitReply_of_le {token : Token} {call : Nat} {activity : Activity}
    {patience more number : Nat} {clock : Clock} (hle : patience ≤ more)
    (hended : (awaitReply token call activity patience number clock).1 ≠ .pending) :
    awaitReply token call activity more number clock =
      awaitReply token call activity patience number clock := by
  induction patience generalizing more number clock with
  | zero => exact absurd rfl hended
  | succ patience ih =>
    obtain ⟨rest, rfl⟩ : ∃ rest, more = rest + 1 := ⟨more - 1, by omega⟩
    by_cases hclock : clock.isCancelled token = true
    · rw [awaitReply_of_cancelled hclock, awaitReply_of_cancelled hclock]
    · rw [awaitReply_of_not_cancelled (Bool.eq_false_iff.mpr hclock)] at hended
      rw [awaitReply_of_not_cancelled (Bool.eq_false_iff.mpr hclock),
        awaitReply_of_not_cancelled (Bool.eq_false_iff.mpr hclock)]
      cases hpoll : (activity number).answer with
      | some answer => rfl
      | none =>
        rw [hpoll] at hended
        exact ih (by omega) hended

end CaseRouting
