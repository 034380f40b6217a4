import CaseRouting.Proofs.Patience
import CaseRouting.Proofs.CallRecord
import CaseRouting.Proofs.RoutingRules

/-!
# Registering the filters of a list

Filters can be registered together exactly if their gateways are distinct, and the first one that
repeats a gateway is reported. A navigation whose filters all follow rules has a result at the first
poll of each filter, and neither a filter nor a cancellation ends it.
-/

namespace CaseRouting

/-- What comes of registering the filters of a list, told by where the list first repeats a gateway.
A list that never does is registered as a whole. -/
inductive Registers (filters : List GatewayFilter) : Except RegistryError FilterRegistry → Prop
  /-- The registry holds all of them in order; its gateways are distinct. -/
  | all {registry : FilterRegistry} (h : registry.filters = filters) :
      Registers filters (.ok registry)
  /-- Behind filters of distinct gateways stands one that repeats a gateway. -/
  | repeated {earlier later : List GatewayFilter} {filter : GatewayFilter}
      (hsplit : filters = earlier ++ filter :: later)
      (hdistinct : (earlier.map GatewayFilter.gatewayId).Nodup)
      (hrepeats : filter.gatewayId ∈ earlier.map GatewayFilter.gatewayId) :
      Registers filters (.error (.duplicateGateway filter.gatewayId))

namespace FilterRegistry

/-- A registry is determined by its filters, for that they are distinct is all that it holds
besides. -/
theorem eq_of_filters {first second : FilterRegistry} (h : first.filters = second.filters) :
    first = second := by
  cases first
  cases second
  congr

/-- A filter of a new gateway is added behind the others, which stay as they are. -/
theorem register_of_not_mem {registry : FilterRegistry} {filter : GatewayFilter}
    (hnew : filter.gatewayId ∉ registry.filters.map GatewayFilter.gatewayId) :
    ∃ extended, registry.register filter = .ok extended ∧
      extended.filters = registry.filters ++ [filter] :=
  ⟨_, dif_neg hnew, rfl⟩

/-- A filter of a gateway that has one is refused, even if it is the same filter once more. -/
theorem register_of_mem {registry : FilterRegistry} {filter : GatewayFilter}
    (hold : filter.gatewayId ∈ registry.filters.map GatewayFilter.gatewayId) :
    registry.register filter = .error (.duplicateGateway filter.gatewayId) :=
  dif_pos hold

/-- Filters that are added to a registry are registered behind those in it. The induction is on the
filters, and the registry grows by one in each step. -/
theorem registers_foldlM (registry : FilterRegistry) (filters : List GatewayFilter) :
    Registers (registry.filters ++ filters) (filters.foldlM register registry) := by
  induction filters generalizing registry with
  | nil => exact .all (List.append_nil _).symm
  | cons filter filters ih =>
    by_cases hold : filter.gatewayId ∈ registry.filters.map GatewayFilter.gatewayId
    · rw [List.foldlM_cons, register_of_mem hold]
      exact .repeated rfl registry.distinct hold
    · obtain ⟨extended, hregister, hfilters⟩ := register_of_not_mem hold
      have hrest := ih extended
      rw [hfilters, List.append_assoc, List.singleton_append] at hrest
      rw [List.foldlM_cons, hregister]
      exact hrest

end FilterRegistry

/-- Filters of distinct gateways stand in front of no more filters than any that are followed by a
repetition, for a repetition cannot be among them. -/
theorem length_le_of_repeated {earlier later before behind : List GatewayFilter}
    {filter other : GatewayFilter}
    (hsplit : earlier ++ filter :: later = before ++ other :: behind)
    (hdistinct : (before.map GatewayFilter.gatewayId).Nodup)
    (hrepeats : filter.gatewayId ∈ earlier.map GatewayFilter.gatewayId) :
    before.length ≤ earlier.length := by
  by_contra hlonger
  have hinside : earlier ++ [filter] <+: before := by
    have hwhole : earlier ++ [filter] <+: before ++ other :: behind := by
      rw [← hsplit]
      exact ⟨later, by simp⟩
    refine List.prefix_of_prefix_length_le hwhole (List.prefix_append _ _) ?_
    rw [List.length_append, List.length_singleton]
    omega
  obtain ⟨rest, hrest⟩ := hinside
  refine OrderedCheck.nodup_keys_iff.mp hdistinct earlier filter rest ?_ hrepeats
  rw [← hrest, List.append_assoc, List.singleton_append]

/-- Registering the filters of a list comes to one thing only. A registry of all the filters leaves
no room for a repetition, and of two repetitions neither can come first. -/
theorem Registers.unique {filters : List GatewayFilter}
    {first second : Except RegistryError FilterRegistry} (hfirst : Registers filters first)
    (hsecond : Registers filters second) : first = second := by
  have hfails {registry : FilterRegistry} (h : registry.filters = filters)
      {earlier later : List GatewayFilter} {filter : GatewayFilter}
      (hsplit : filters = earlier ++ filter :: later) :
      filter.gatewayId ∉ earlier.map GatewayFilter.gatewayId := by
    have hdistinct := registry.distinct
    rw [h] at hdistinct
    exact OrderedCheck.nodup_keys_iff.mp hdistinct earlier filter later hsplit
  cases hfirst with
  | all h =>
    cases hsecond with
    | all hother => rw [FilterRegistry.eq_of_filters (h.trans hother.symm)]
    | repeated hsplit _ hrepeats => exact absurd hrepeats (hfails h hsplit)
  | @repeated earlier later filter hsplit hdistinct hrepeats =>
    cases hsecond with
    | all hother => exact absurd hrepeats (hfails hother hsplit)
    | @repeated before behind other hsplit' hdistinct' hrepeats' =>
      have hsame : earlier ++ filter :: later = before ++ other :: behind := by
        rw [← hsplit, hsplit']
      have hle := length_le_of_repeated hsame hdistinct' hrepeats
      have hge := length_le_of_repeated hsame.symm hdistinct hrepeats'
      obtain ⟨-, hbehind⟩ := List.append_inj hsame (Nat.le_antisymm hge hle)
      rw [(List.cons.inj hbehind).1]

/-- Registering the filters of a list comes to what `Registers` says, and to nothing else. -/
theorem FilterRegistry.ofList_eq_iff {filters : List GatewayFilter}
    {outcome : Except RegistryError FilterRegistry} :
    FilterRegistry.ofList filters = outcome ↔ Registers filters outcome := by
  have hregisters : Registers filters (FilterRegistry.ofList filters) :=
    FilterRegistry.empty.registers_foldlM filters
  exact ⟨fun h => h ▸ hregisters, fun h => hregisters.unique h⟩

/-- Every filter of the registry follows a rule, as all filters of the library do. -/
def FilterRegistry.FollowsRules (registry : FilterRegistry) : Prop :=
  ∀ filter ∈ registry.filters, ∃ (rule : RoutingRule) (gatewayId : String),
    filter = rule.filter gatewayId

namespace FilterRegistry.FollowsRules

variable {registry : FilterRegistry}

/-- A call of a filter that follows a rule is answered at its first poll with flows to keep, so that
it neither fails nor waits. -/
theorem exists_kept (h : registry.FollowsRules) {filter : GatewayFilter}
    (hfilter : filter ∈ registry.filters) (count : Nat) (offered : List SequenceFlow)
    (case : CaseData) (context : GatewayContext) :
    ∃ kept, filter.start count offered case context = .done (.ok kept) := by
  obtain ⟨rule, gatewayId, rfl⟩ := h filter hfilter
  exact ⟨_, rule.start_filter gatewayId count offered case context⟩

/-- Filters that follow rules spare a token that the caller spares, for they answer without
cancelling. -/
theorem spares (h : registry.FollowsRules) : registry.Spares .fresh := by
  refine ⟨fun _ => rfl, fun filter hfilter count offered case context number => ?_⟩
  obtain ⟨kept, hstart⟩ := h.exists_kept hfilter count offered case context
  rw [hstart]
  rfl

variable {graph : ProcessGraph} {request : NavigationRequest}

/-- A navigation whose filters follow rules has a result at the first polls, in any graph and for
any request. -/
theorem exists_outcome (h : registry.FollowsRules) :
    ∃ result, ((Navigator.mk graph registry).nextElement request .fresh 1).outcome =
      some result := by
  have hanswer : ∀ filter ∈ registry.filters, ∀ count offered case context,
      ∃ answer, (filter.start count offered case context).answerWithin 1 0 = some answer := by
    intro filter hfilter count offered case context
    obtain ⟨kept, hstart⟩ := h.exists_kept hfilter count offered case context
    exact ⟨.ok kept, by rw [hstart]; rfl⟩
  cases horigin : graph.node? request.originId with
  | none => exact ⟨_, congrArg NavigationRun.outcome (Navigator.nextElement_of_unknown horigin)⟩
  | some origin =>
    rw [Navigator.nextElement_of_known horigin]
    exact Option.ne_none_iff_exists'.mp (Navigator.walk_ne_pending hanswer _ _ _)

/-- A navigation whose filters follow rules is not cancelled, as nobody is there to do so. -/
theorem outcome_ne_cancelled (h : registry.FollowsRules) :
    ((Navigator.mk graph registry).nextElement request .fresh 1).outcome ≠
      some (.error .cancelled) :=
  Navigator.nextElement_ne_cancelled (Navigator.nextElement_staysLive h.spares)

/-- A navigation whose filters follow rules does not end with a failure of a filter, because none of
them ever fails. -/
theorem outcome_ne_filterFailed (h : registry.FollowsRules) (error : FilterError) :
    ((Navigator.mk graph registry).nextElement request .fresh 1).outcome ≠
      some (.error (.filterFailed error)) := by
  intro hfailed
  have hcancelled : ((Navigator.mk graph registry).nextElement request .fresh 1).outcome ≠
      some (.error .cancelled) := h.outcome_ne_cancelled
  have hjudged := (Navigator.nextElement_recorded Nat.one_pos hcancelled).2
  obtain ⟨index, call, -, -, hanswer⟩ := (hjudged.failed_iff error).mp hfailed
  obtain ⟨activity, hactivity, hanswer⟩ := Option.bind_eq_some_iff.mp hanswer
  obtain ⟨filter, hfilter, -, rfl⟩ := Navigator.exists_filter_of_activity? hactivity
  obtain ⟨kept, hstart⟩ := h.exists_kept hfilter index call.offered call.case call.context
  rw [hstart] at hanswer
  cases hanswer

end FilterRegistry.FollowsRules

end CaseRouting
