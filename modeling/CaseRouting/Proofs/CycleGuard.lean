import CaseRouting.Proofs.ResolvedPath
import CaseRouting.Proofs.Termination

/-!
# The guard against cycles

A walk that comes back to a gateway ends with a cycle. It is compared here with the same walk
without this guard, which goes on for as many hops as it is allowed. Where filters answer by
functions and nobody cancels the call, the guard ends exactly the walks that would never end by
themselves, and changes nothing about the others.
-/

namespace CaseRouting

namespace Navigator

/-- Walks on from a node without looking whether a gateway has been visited. The walk is cut off
behind so many hops. -/
def roam (navigator : Navigator) (request : NavigationRequest) (token : Token) (patience : Nat) :
    Nat → Node → Journey → Option NavigationRun
  | 0, _, _ => none
  | hops + 1, node, journey =>
    match navigator.pass request token patience node journey with
    | (.stopped outcome, next) => some (next.ending outcome)
    | (.entered gateway, next) => navigator.roam request token patience hops gateway next

/-- The navigation without the guard, unless it is cut off. It looks for its origin as the
navigation with the guard does. -/
def unguarded (navigator : Navigator) (request : NavigationRequest) (token : Token)
    (patience hops : Nat) : Option NavigationRun :=
  match navigator.graph.node? request.originId with
  | none => some (Journey.start.ending (some (.error (.nodeNotFound request.originId))))
  | some origin => navigator.roam request token patience hops origin .start

/-- Without the guard, the navigation is cut off if its filters are polled often enough. With less
patience it may end before, as pending. -/
def CutOff (navigator : Navigator) (request : NavigationRequest) (token : Token) (hops : Nat) :
    Prop :=
  ∃ enough, ∀ patience, enough ≤ patience →
    navigator.unguarded request token patience hops = none

/-- Without the guard, the navigation ends by itself with a result if its filters are polled often
enough. -/
def UnguardedReturns (navigator : Navigator) (request : NavigationRequest) (token : Token)
    (hops : Nat) (result : Except NavigationError (Option Node)) : Prop :=
  ∃ enough, ∀ patience, enough ≤ patience →
    ∃ run, navigator.unguarded request token patience hops = some run ∧
      run.outcome = some result

variable {navigator : Navigator} {answers : String → AnswerFunction}
  {request : NavigationRequest} {token : Token} {patience : Nat}

/-- A walk without the guard makes a pass and goes on behind it, whether the gateway has been
visited or not. -/
theorem roam_succ (hops : Nat) (node : Node) (journey : Journey) :
    navigator.roam request token patience (hops + 1) node journey =
      match navigator.pass request token patience node journey with
      | (.stopped outcome, next) => some (next.ending outcome)
      | (.entered gateway, next) => navigator.roam request token patience hops gateway next := rfl

/-- A walk that the guard does not end is the same without it, if it is not cut off before. It takes
one hop for each node of its trail. -/
theorem roam_eq_walk (visited : List String) (node : Node) (journey : Journey) :
    (∀ origin gateway,
      (navigator.walk request token patience visited node journey).outcome ≠
        some (.error (.cycleDetected origin gateway))) →
      ∀ hops, (navigator.walk request token patience visited node journey).trail.length ≤
          journey.trail.length + hops →
        navigator.roam request token patience hops node journey =
          some (navigator.walk request token patience visited node journey) := by
  refine walk_induction ?_ ?_ ?_ visited node journey
  · intro visited node journey outcome next hpass _ hops hlength
    have htrail : next.trail.length = journey.trail.length + 1 := by
      rw [(pass_follows hpass).1, List.length_append, List.length_singleton]
    obtain ⟨rest, rfl⟩ : ∃ rest, hops = rest + 1 := by
      have hle : next.trail.length ≤ journey.trail.length + hops := hlength
      exact ⟨hops - 1, by omega⟩
    rw [roam_succ, hpass]
  · intro visited node journey gateway next hpass hvisited houtcome
    exact absurd rfl (houtcome request.originId gateway.id)
  · intro visited node journey gateway next hpass hnew ih houtcome hops hlength
    have htrail : next.trail.length = journey.trail.length + 1 := by
      rw [(pass_follows hpass).1, List.length_append, List.length_singleton]
    obtain ⟨rest, rfl⟩ : ∃ rest, hops = rest + 1 := by
      have hle : next.trail.length ≤ journey.trail.length + hops :=
        (walk_progress (gateway.id :: visited) gateway next).1.trail.length_le.trans hlength
      exact ⟨hops - 1, by omega⟩
    rw [roam_succ, hpass]
    exact ih houtcome rest (by omega)

/-- A navigation that the guard does not end is the same without it, if one hop more than there are
gateways in the table of nodes is allowed. -/
theorem unguarded_eq_nextElement
    (houtcome : ∀ origin gateway, (navigator.nextElement request token patience).outcome ≠
      some (.error (.cycleDetected origin gateway)))
    {hops : Nat} (hhops : navigator.graph.storedGatewayIds.length + 1 ≤ hops) :
    navigator.unguarded request token patience hops =
      some (navigator.nextElement request token patience) := by
  have hlength := (navigator.nextElement_trail_length_le request token patience).trans hhops
  unfold unguarded
  cases horigin : navigator.graph.node? request.originId with
  | none => rw [nextElement_of_unknown horigin]
  | some origin =>
    rw [nextElement_of_known horigin] at houtcome hlength ⊢
    exact roam_eq_walk _ origin .start houtcome hops (by simpa [Journey.start] using hlength)

/-- The activities of filters that answer by functions answer, each with enough patience. -/
theorem exists_answer_of_realizes (hregistry : navigator.registry.Realizes answers) {number : Nat}
    {call : FilterCall} {activity : Activity}
    (hactivity : navigator.activity? number call = some activity) :
    ∃ answer, activity.Returns answer := by
  obtain ⟨filter, hfilter, -, rfl⟩ := exists_filter_of_activity? hactivity
  exact ⟨_, hregistry filter hfilter number call.offered call.case call.context⟩

/-- A selection fails because of a filter or because it leaves the choice open, and never with a
cycle. -/
theorem selection_eq_error {node : Node} {error : NavigationError}
    (h : navigator.selection answers request node = .error error) :
    error.isAmbiguity = true ∨ ∃ failure, error = .filterFailed failure := by
  unfold selection at h
  split at h
  · cases h
  · split at h
    · next failure _ =>
      cases h
      exact .inr ⟨failure, rfl⟩
    · left
      unfold decision at h
      split at h
      · cases h
        rfl
      · cases h
      · split at h
        · cases h
          rfl
        · split at h
          · cases h
          · cases h
            rfl

/-- A path that is concluded by a cycle enters a gateway from its last node, and so can be gone
round. -/
theorem Concludes.exists_enters {last : Node} {origin gateway : String}
    (h : navigator.Concludes answers request last (.error (.cycleDetected origin gateway))) :
    ∃ entered, navigator.Enters answers request last entered := by
  cases h with
  | failed hsome hfailed =>
    rcases selection_eq_error hfailed with hambiguity | ⟨failure, hfailure⟩
    · cases hambiguity
    · cases hfailure
  | cycle henters => exact ⟨_, henters⟩

section Cycles

variable {definition : ProcessDefinition} {registry : FilterRegistry}

/-- A walk without the guard is cut off if it visits nodes at each of which the selection enters one
of them. The filters are called again in each round, under other numbers and with other polls
before, so that the induction on the hops is for every journey. -/
theorem exists_roam_eq_none (hwell : definition.WellFormed) (hregistry : registry.Realizes answers)
    (htoken : registry.Spares token) {path : List Node}
    (hclosed : ∀ node ∈ path, ∃ gateway ∈ path,
      (Navigator.mk definition.image registry).Enters answers request node gateway)
    (hops : Nat) {node : Node} (hnode : node ∈ path) {journey : Journey}
    (hlive : token.StaysLive journey.clock.polls) :
    ∃ enough, ∀ patience, enough ≤ patience →
      (Navigator.mk definition.image registry).roam request token patience hops node journey =
        none := by
  induction hops generalizing node journey with
  | zero => exact ⟨0, fun _ _ => rfl⟩
  | succ hops ih =>
    obtain ⟨gateway, hgateway, henters⟩ := hclosed node hnode
    obtain ⟨enough, hended⟩ : ∃ enough, ((Navigator.mk definition.image registry).pass request token
        enough node journey).1 ≠ .stopped none :=
      exists_pass_ne_pending fun _ _ _ _ => exists_answer_of_realizes hregistry
    match hpass :
      (Navigator.mk definition.image registry).pass request token enough node journey with
    | (ended, next) =>
      obtain ⟨hresolved, -, hnext⟩ := resolution_of_pass hwell hregistry htoken hlive hpass
      have hentered : ended = .entered gateway := by
        rw [← hresolved.resolve_left (by rwa [hpass] at hended),
          resolution_eq_entered_iff.mpr henters]
      obtain ⟨rest, hrest⟩ := ih hgateway hnext
      refine ⟨max enough rest, fun patience hle => ?_⟩
      obtain ⟨henough, hrestLe⟩ := Nat.max_le.mp hle
      rw [roam_succ, pass_of_le henough hended, hpass, hentered]
      exact hrest patience hrestLe

/-- Where the guard ends a navigation of a built graph, the navigation is cut off without it,
however many hops are allowed: its path leads from each of its nodes to one of its nodes. -/
theorem cutOff_of_cycleDetected (hwell : definition.WellFormed)
    (hregistry : registry.Realizes answers) (htoken : registry.Spares token)
    {originId gatewayId : String}
    (hcycle : (Navigator.mk definition.image registry).Returns request token
      (.error (.cycleDetected originId gatewayId)))
    (hops : Nat) : (Navigator.mk definition.image registry).CutOff request token hops := by
  obtain ⟨patience, houtcome⟩ := hcycle
  unfold CutOff unguarded
  dsimp only
  cases horigin : definition.image.node? request.originId with
  | none =>
    rw [nextElement_of_unknown horigin] at houtcome
    cases houtcome
  | some origin =>
    rw [nextElement_of_known horigin] at houtcome
    have hknown : definition.image.node? origin.id = some origin := by
      rwa [(ProcessGraph.mem_of_node? horigin).2]
    obtain ⟨last, outcome, hresolves⟩ := walk_resolves_of_ended hwell hregistry htoken origin _
      origin .start (.start hknown) (.of_spares htoken)
      (Option.ne_none_iff_exists'.mpr ⟨_, houtcome⟩)
    have hconcludes := hresolves.concludes
    obtain rfl := Option.some.inj (hresolves.outcome_eq.symm.trans houtcome)
    obtain ⟨entered, henters⟩ := hconcludes.exists_enters
    have hclosed := hresolves.maximal.exists_step hresolves.last_eq henters
    have horiginMem := List.mem_of_mem_head? (Option.mem_def.mpr hresolves.maximal.starts)
    exact exists_roam_eq_none hwell hregistry htoken hclosed hops horiginMem (.of_spares htoken)

/-- The guard against cycles is exact. Where filters answer by functions and nobody cancels the
call, a navigation of a built graph ends with a cycle exactly if without the guard it is cut off
however many hops are allowed. Any other navigation returns what it returns without the guard, if
one hop more than there are gateways is allowed. -/
theorem nextElement_guards_exactly {graph : ProcessGraph}
    (hbuild : ProcessGraph.build definition = .ok graph) (hregistry : registry.Realizes answers)
    (htoken : registry.Spares token) :
    ((∃ originId gatewayId, (Navigator.mk graph registry).Returns request token
        (.error (.cycleDetected originId gatewayId))) ↔
      ∀ hops, (Navigator.mk graph registry).CutOff request token hops) ∧
    ∃ result, (Navigator.mk graph registry).Returns request token result ∧
      ((∀ originId gatewayId, result ≠ .error (.cycleDetected originId gatewayId)) →
        ∀ hops, graph.gatewayIds.length + 1 ≤ hops →
          (Navigator.mk graph registry).UnguardedReturns request token hops result) := by
  have hstored := ProcessGraph.storedGatewayIds_of_build hbuild
  obtain ⟨hwell, rfl⟩ := ProcessGraph.build_eq_ok_iff.mp hbuild
  have hends : ∃ result, (Navigator.mk definition.image registry).Returns request token result :=
    exists_returns fun _ _ _ _ _ => exists_answer_of_realizes hregistry
  obtain ⟨result, enough, hresult⟩ := hends
  have hsame (hother : ∀ originId gatewayId, result ≠ .error (.cycleDetected originId gatewayId))
      (hops : Nat) (hhops : definition.image.gatewayIds.length + 1 ≤ hops) :
      (Navigator.mk definition.image registry).UnguardedReturns request token hops result := by
    rw [← hstored] at hhops
    refine ⟨enough, fun patience hle => ⟨_, unguarded_eq_nextElement ?_ hhops, ?_⟩⟩
    · intro originId gatewayId hcycle
      rw [outcome_of_le hle hresult, Option.some.injEq] at hcycle
      exact hother originId gatewayId hcycle
    · exact outcome_of_le hle hresult
  refine ⟨⟨?_, fun hcut => ?_⟩, result, ⟨enough, hresult⟩, hsame⟩
  · rintro ⟨originId, gatewayId, hcycle⟩
    exact cutOff_of_cycleDetected hwell hregistry htoken hcycle
  · by_contra hnone
    have hother (originId gatewayId : String) :
        result ≠ .error (.cycleDetected originId gatewayId) := by
      rintro rfl
      exact hnone ⟨originId, gatewayId, enough, hresult⟩
    obtain ⟨least, hreturns⟩ := hsame hother _ (Nat.le_refl _)
    obtain ⟨most, hcutOff⟩ := hcut (definition.image.gatewayIds.length + 1)
    obtain ⟨run, hrun, -⟩ := hreturns (max least most) (Nat.le_max_left least most)
    rw [hcutOff (max least most) (Nat.le_max_right least most)] at hrun
    cases hrun

/-- Requests are checked again and again, by the flow that leads from the gateway of checks to
itself. -/
def recheckFilters : FilterRegistry := ⟨[.byFlowIds "Check" ["recheck"]], List.nodup_singleton _⟩

/-- The filter of checks that are repeated as a function. -/
def recheckAnswers : String → AnswerFunction := fun _ offered _ _ =>
  .ok (offered.filter fun flow => flow.id ∈ ["recheck"])

/-- A request that is checked again and again ends with a cycle, and never without the guard. A
request that passes its check is not affected by the guard. -/
theorem nextElement_guards_exactly_requestProcess :
    ProcessGraph.build requestProcess = .ok requestProcess.image ∧
      (recheckFilters.Realizes recheckAnswers ∧ recheckFilters.Spares .fresh ∧
        (Navigator.mk requestProcess.image recheckFilters).Returns fileRequest .fresh
          (.error (.cycleDetected "File" "Check")) ∧
        ∀ hops, (Navigator.mk requestProcess.image recheckFilters).CutOff fileRequest .fresh hops) ∧
      requestFilters.Realizes requestAnswers ∧ requestFilters.Spares .fresh ∧
      ∀ hops, 3 ≤ hops →
        (Navigator.mk requestProcess.image requestFilters).UnguardedReturns fileRequest .fresh hops
          (.ok (some (requestProcess.imageNode (.endEvent "End")))) := by
  have hbuild : ProcessGraph.build requestProcess = .ok requestProcess.image := rfl
  have hrecheckComputes : recheckFilters.Computes 1 recheckAnswers :=
    .single (List.nodup_singleton _) 0
  have hrequestComputes : requestFilters.Computes 1 requestAnswers :=
    .single (List.nodup_singleton _) 0
  have hrecheck : recheckFilters.Realizes recheckAnswers := hrecheckComputes.realizes
  have hrequest : requestFilters.Realizes requestAnswers := hrequestComputes.realizes
  have hrecheckSpares : recheckFilters.Spares .fresh := hrecheckComputes.spares fun _ => rfl
  have hrequestSpares : requestFilters.Spares .fresh := hrequestComputes.spares fun _ => rfl
  have hcycle : (Navigator.mk requestProcess.image recheckFilters).Returns fileRequest .fresh
      (.error (.cycleDetected "File" "Check")) := ⟨1, by decide +kernel⟩
  have hend : (Navigator.mk requestProcess.image requestFilters).Returns fileRequest .fresh
      (.ok (some (requestProcess.imageNode (.endEvent "End")))) := ⟨1, by decide +kernel⟩
  have hcut := (nextElement_guards_exactly hbuild hrecheck hrecheckSpares).1.mp ⟨_, _, hcycle⟩
  obtain ⟨result, hresult, hsame⟩ :=
    (nextElement_guards_exactly hbuild hrequest hrequestSpares).2
  obtain rfl := hresult.unique hend
  exact ⟨hbuild, ⟨hrecheck, hrecheckSpares, hcycle, hcut⟩, hrequest, hrequestSpares,
    hsame fun _ _ => by simp⟩

end Cycles

end Navigator

end CaseRouting
