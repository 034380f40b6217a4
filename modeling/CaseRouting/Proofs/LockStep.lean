import CaseRouting.Proofs.CallRecord
import CaseRouting.Proofs.Cancellation
import CaseRouting.Proofs.Patience

/-!
# Navigations in step

Two navigations are in step if their nodes can be related such that, at related nodes, either both
call no filter and come to the same, or both call one and every answer to the first call has an
answer to the second that comes to the same. Then the second navigation returns what the first one
returns, up to the relation. The filters may take their time: a navigation learns of the polls of a
call only that there has been the call.
-/

namespace CaseRouting

/-- Two passes that stop with related results or enter related gateways. A pass that is left pending
is like no other. -/
inductive PassEnd.Alike (nodes : Node → Node → Prop)
    (results : Except NavigationError (Option Node) → Except NavigationError (Option Node) → Prop) :
    PassEnd → PassEnd → Prop where
  | stopped {result other : Except NavigationError (Option Node)} (hresult : results result other) :
    Alike nodes results (.stopped (some result)) (.stopped (some other))
  | entered {gateway other : Node} (hgateway : nodes gateway other) :
    Alike nodes results (.entered gateway) (.entered other)

/-- Two navigators that come to related results, asked two requests, if the filters of the second
one can answer as it is needed. -/
structure Navigator.InStep (nodes : Node → Node → Prop)
    (results : Except NavigationError (Option Node) → Except NavigationError (Option Node) → Prop)
    (first second : Navigator) (request other : NavigationRequest) : Prop where
  /-- The relation of nodes is one of ids. -/
  ids_iff : ∀ {node node' gateway gateway' : Node}, nodes node node' → nodes gateway gateway' →
    (node'.id = gateway'.id ↔ node.id = gateway.id)
  /-- It relates gateways to gateways. -/
  kind_eq : ∀ {node node' : Node}, nodes node node' → node'.isGateway = node.isGateway
  /-- Origins are related. -/
  known : ∀ {origin : Node}, first.graph.node? request.originId = some origin →
    ∃ origin', second.graph.node? other.originId = some origin' ∧ nodes origin origin'
  /-- Origins that are not known are not known to either, which comes to the same. -/
  unknown : first.graph.node? request.originId = none →
    second.graph.node? other.originId = none ∧
      results (.error (.nodeNotFound request.originId)) (.error (.nodeNotFound other.originId))
  /-- Coming back to related gateways comes to the same. -/
  cycle : ∀ {gateway gateway' : Node}, nodes gateway gateway' →
    results (.error (.cycleDetected request.originId gateway.id))
      (.error (.cycleDetected other.originId gateway'.id))
  /-- Where no filter is called in one navigation, none is in the other, and passes end alike. -/
  unasked : ∀ {node node' : Node}, nodes node node' → first.dueCall? request node = none →
    second.dueCall? other node' = none ∧
      (first.unasked request node).Alike nodes results (second.unasked other node')
  /-- Where a filter is called in one navigation, one is called in the other, which for every answer
  of the first has an answer that lets the passes end alike. -/
  asked : ∀ {node node' : Node} {call : FilterCall}, nodes node node' →
    first.dueCall? request node = some call →
      ∃ call', second.dueCall? other node' = some call' ∧ ∀ number activity activity',
        first.activity? number call = some activity →
        second.activity? number call' = some activity' → ∀ answer, activity.Returns answer →
          ∃ answer', activity'.Returns answer' ∧
            (first.follow (settle request node call.offered (.answered answer))).Alike nodes results
              (second.follow (settle other node' call'.offered (.answered answer')))

/-- A pass that ends comes to the same as itself, where nodes and results are related only to
themselves. -/
theorem PassEnd.Alike.refl {ended : PassEnd} (hended : ended ≠ .stopped none) :
    ended.Alike Eq Eq ended := by
  match ended with
  | .stopped none => exact absurd rfl hended
  | .stopped (some result) => exact .stopped rfl
  | .entered gateway => exact .entered rfl

namespace Navigator

variable {request other : NavigationRequest} {token : Token} {patience : Nat}

section Answers

variable {navigator : Navigator} {node : Node} {journey : Journey} {call : FilterCall}

/-- An answer that comes in time settles a pass that nobody can cancel, and its call counts, for an
answer takes a poll. -/
theorem pass_of_answer {activity : Activity} {answer : FilterAnswer}
    (hdue : navigator.dueCall? request node = some call)
    (hactivity : navigator.activity? journey.calls.length call = some activity)
    (hanswer : activity.answerWithin patience 0 = some answer) :
    ∃ next, navigator.pass request .detached patience node journey =
        (navigator.follow (settle request node call.offered (.answered answer)), next) ∧
      next.calls.length = journey.calls.length + 1 := by
  obtain ⟨found, reply, count, hfound, hpass, ⟨-, hcancelled⟩ | ⟨rfl, hcount⟩⟩ :=
    pass_of_call hdue .detached patience journey
  · cases hcancelled
  · obtain rfl : activity = found := by
      rwa [hactivity, Option.some.injEq] at hfound
    have hpositive : 0 < patience := by
      cases patience with
      | zero => cases hanswer
      | succ patience => exact Nat.succ_pos patience
    have hpolled := hcount hpositive
    rw [if_neg (by omega), hanswer] at hpass
    exact ⟨_, hpass, List.length_append⟩

/-- A pass that has ended though nobody can cancel it has had its answer, as nothing else could have
ended it. -/
theorem exists_answer_of_pass (hdue : navigator.dueCall? request node = some call)
    (hended : (navigator.pass request .detached patience node journey).1 ≠ .stopped none) :
    ∃ activity answer, navigator.activity? journey.calls.length call = some activity ∧
      activity.answerWithin patience 0 = some answer := by
  obtain ⟨activity, reply, count, hactivity, hpass, ⟨-, hcancelled⟩ | ⟨rfl, -⟩⟩ :=
    pass_of_call hdue .detached patience journey
  · cases hcancelled
  · cases hanswer : activity.answerWithin patience 0 with
    | some answer => exact ⟨activity, answer, hactivity, hanswer⟩
    | none =>
      rw [hpass, hanswer] at hended
      exact absurd rfl hended

end Answers

section Tokens

variable {navigator : Navigator} {result : Except NavigationError (Option Node)}

/-- A token changes nothing about a navigation but that it may cancel it. Until then the same
filters are polled as without a token. -/
theorem nextElement_eq_detached_or_cancelled (navigator : Navigator) (request : NavigationRequest)
    (token : Token) (patience : Nat) :
    navigator.nextElement request token patience =
        navigator.nextElement request .detached patience ∨
      (navigator.nextElement request token patience).outcome = some (.error .cancelled) := by
  cases token with
  | detached => exact .inl rfl
  | shared cancelledBy =>
    rcases (navigator.nextElement_interrupts request cancelledBy patience).same_or_cut with
      ⟨-, -, hsame⟩ | ⟨-, -, hcancelled, -⟩
    · exact .inl (NavigationRun.halt_injective hsame)
    · exact .inr hcancelled

/-- A result other than a cancellation is returned to a caller who cannot cancel as well, so that
the token can be left out of consideration. -/
theorem Returns.detached (h : navigator.Returns request token result)
    (hresult : result ≠ .error .cancelled) : navigator.Returns request .detached result := by
  obtain ⟨patience, houtcome⟩ := h
  refine ⟨patience, ?_⟩
  rcases navigator.nextElement_eq_detached_or_cancelled request token patience with
    hsame | hcancelled
  · rw [← hsame, houtcome]
  · rw [hcancelled, Option.some.injEq] at houtcome
    exact absurd houtcome.symm hresult

/-- What is returned to a caller who cannot cancel is returned to any other, unless the call is
cancelled, which may happen before there is a result. -/
theorem Returns.of_detached (h : navigator.Returns request .detached result) (token : Token) :
    navigator.Returns request token result ∨
      navigator.Returns request token (.error .cancelled) := by
  obtain ⟨patience, houtcome⟩ := h
  rcases navigator.nextElement_eq_detached_or_cancelled request token patience with
    hsame | hcancelled
  · exact .inl ⟨patience, by rw [hsame, houtcome]⟩
  · exact .inr ⟨patience, hcancelled⟩

/-- A navigation whose token is spared is not cancelled, with however much patience. -/
theorem Returns.ne_cancelled (h : navigator.Returns request token result)
    (htoken : navigator.registry.Spares token) : result ≠ .error .cancelled := by
  rintro rfl
  obtain ⟨patience, houtcome⟩ := h
  exact nextElement_ne_cancelled (nextElement_staysLive htoken) houtcome

end Tokens

namespace InStep

variable {nodes : Node → Node → Prop}
  {results : Except NavigationError (Option Node) → Except NavigationError (Option Node) → Prop}
  {first second : Navigator} {result : Except NavigationError (Option Node)}
  (h : InStep nodes results first second request other)

include h

/-- At related nodes, passes that nobody can cancel end alike, if the second is given the time. Both
have then made the same number of calls. -/
theorem pass {node node' : Node} {journey journey' next : Journey} {ended : PassEnd}
    (hnode : nodes node node') (hcalls : journey'.calls.length = journey.calls.length)
    (hpass : first.pass request .detached patience node journey = (ended, next))
    (hended : ended ≠ .stopped none) :
    ∃ enough reached later,
      second.pass other .detached enough node' journey' = (reached, later) ∧
        ended.Alike nodes results reached ∧ later.calls.length = next.calls.length := by
  cases hdue : first.dueCall? request node with
  | none =>
    obtain ⟨hdue', halike⟩ := h.unasked hnode hdue
    rw [pass_of_dueCall?_none hdue, Prod.mk.injEq] at hpass
    obtain ⟨rfl, rfl⟩ := hpass
    exact ⟨0, _, _, pass_of_dueCall?_none hdue' journey', halike, hcalls⟩
  | some call =>
    obtain ⟨call', hdue', hanswers⟩ := h.asked hnode hdue
    have hfirst : (first.pass request .detached patience node journey).1 ≠ .stopped none := by
      rwa [hpass]
    obtain ⟨activity, answer, hactivity, hanswer⟩ := exists_answer_of_pass hdue hfirst
    obtain ⟨activity', hactivity', -⟩ := pass_of_dueCall?_some hdue' journey'
    obtain ⟨answer', ⟨enough, hanswer'⟩, halike⟩ :=
      hanswers _ activity activity' hactivity (hcalls ▸ hactivity') answer ⟨patience, hanswer⟩
    obtain ⟨reached, hreached, hcount⟩ := pass_of_answer hdue hactivity hanswer
    obtain ⟨later, hlater, hcount'⟩ := pass_of_answer hdue' hactivity' hanswer'
    rw [hreached, Prod.mk.injEq] at hpass
    obtain ⟨rfl, rfl⟩ := hpass
    exact ⟨enough, _, later, hlater, halike, by omega⟩

/-- From related nodes, with related gateways visited, walks that nobody can cancel come to the
same, if the second is given the time. The induction is along the first walk, and at each gateway
the second one needs the greater of the patience of its pass and that of what follows. -/
theorem walk (visited : List String) (node : Node) (journey : Journey) :
    ∀ result, (first.walk request .detached patience visited node journey).outcome = some result →
      ∀ visited' node' journey', nodes node node' →
        (∀ gateway gateway', nodes gateway gateway' →
          (gateway'.id ∈ visited' ↔ gateway.id ∈ visited)) →
        journey'.calls.length = journey.calls.length →
        ∃ enough found, (second.walk other .detached enough visited' node' journey').outcome =
          some found ∧ results result found := by
  refine walk_induction ?_ ?_ ?_ visited node journey
  · intro visited node journey outcome next hpass result houtcome visited' node' journey' hnode _
      hcalls
    obtain rfl : outcome = some result := houtcome
    obtain ⟨enough, reached, later, hreached, halike, -⟩ := h.pass hnode hcalls hpass (by simp)
    cases halike with
    | stopped hresult =>
      refine ⟨enough, _, ?_, hresult⟩
      rw [walk_eq, hreached]
      rfl
  · intro visited node journey gateway next hpass hvisited result houtcome visited' node' journey'
      hnode hsame hcalls
    cases houtcome
    obtain ⟨enough, reached, later, hreached, halike, -⟩ := h.pass hnode hcalls hpass (by simp)
    cases halike with
    | entered hgateway =>
      refine ⟨enough, _, ?_, h.cycle hgateway⟩
      rw [walk_eq, hreached, resume, if_pos ((hsame _ _ hgateway).mpr hvisited)]
      rfl
  · intro visited node journey gateway next hpass hnew ih result houtcome visited' node' journey'
      hnode hsame hcalls
    obtain ⟨enough, reached, later, hreached, halike, hcount⟩ :=
      h.pass hnode hcalls hpass (by simp)
    cases halike with
    | @entered _ gateway' hgateway =>
      have hnew' : gateway'.id ∉ visited' := fun hmem => hnew ((hsame _ _ hgateway).mp hmem)
      obtain ⟨rest, found, hfound, hresult⟩ :=
        ih result houtcome (gateway'.id :: visited') gateway' later hgateway
          (fun seen seen' hseen => by
            rw [List.mem_cons, List.mem_cons, h.ids_iff hseen hgateway, hsame seen seen' hseen])
          hcount
      refine ⟨max enough rest, found, ?_, hresult⟩
      rw [walk_of_entered (Nat.le_max_left _ _) hreached hnew',
        walk_of_le (Nat.le_max_right _ _) _ _ _ (by simp [hfound]), hfound]

/-- What one navigation returns to a caller who cannot cancel, the other returns, up to the
relation, as the walks from their origins do. -/
theorem returns_detached (hreturns : first.Returns request .detached result) :
    ∃ found, second.Returns other .detached found ∧ results result found := by
  obtain ⟨patience, houtcome⟩ := hreturns
  cases horigin : first.graph.node? request.originId with
  | none =>
    obtain ⟨horigin', hresult⟩ := h.unknown horigin
    rw [nextElement_of_unknown horigin] at houtcome
    cases houtcome
    refine ⟨_, ⟨0, ?_⟩, hresult⟩
    rw [nextElement_of_unknown horigin']
    rfl
  | some origin =>
    obtain ⟨origin', horigin', hnode⟩ := h.known horigin
    rw [nextElement_of_known horigin] at houtcome
    obtain ⟨enough, found, hfound, hresult⟩ :=
      h.walk _ origin .start result houtcome (if origin'.isGateway then [origin'.id] else [])
        origin' .start hnode
        (fun gateway gateway' hgateway => by
          rw [h.kind_eq hnode]
          split
          · rw [List.mem_singleton, List.mem_singleton, h.ids_iff hgateway hnode]
          · simp)
        rfl
    refine ⟨found, ⟨enough, ?_⟩, hresult⟩
    rw [nextElement_of_known horigin', hfound]

/-- A result other than a cancellation is returned by the other navigation, up to the relation, or
this is cancelled. -/
theorem returns_or_cancelled (hresult : result ≠ .error .cancelled)
    (hreturns : first.Returns request token result) (otherToken : Token) :
    (∃ found, second.Returns other otherToken found ∧ results result found) ∨
      second.Returns other otherToken (.error .cancelled) := by
  obtain ⟨found, hfound, hsame⟩ := h.returns_detached (hreturns.detached hresult)
  rcases hfound.of_detached otherToken with hfound | hcancelled
  · exact .inl ⟨found, hfound, hsame⟩
  · exact .inr hcancelled

/-- Where the tokens are spared, the other navigation returns the same, up to the relation, since
neither is cancelled. -/
theorem returns {otherToken : Token} (hfirst : first.registry.Spares token)
    (hsecond : second.registry.Spares otherToken) (hreturns : first.Returns request token result) :
    ∃ found, second.Returns other otherToken found ∧ results result found := by
  rcases h.returns_or_cancelled (hreturns.ne_cancelled hfirst) hreturns otherToken with
    hfound | hcancelled
  · exact hfound
  · exact absurd rfl (hcancelled.ne_cancelled hsecond)

end InStep

end Navigator

end CaseRouting
