import CaseRouting.Proofs.Registration

/-!
# What a registry of filters answers

A list of filters makes a registry exactly if no two of them share a gateway. Every filter of the
list is then found at its gateway and nothing is found elsewhere, and the gateways are listed in
ascending order. All of this depends on which filters are listed and not on their order; which
gateway is reported when two filters share one depends on the order.
-/

namespace CaseRouting

namespace FilterRegistry

/-- The registry answers as one of the filters of a list, whichever of its functions is asked. The
order of the list does not come in. -/
structure Answers (registry : FilterRegistry) (filters : List GatewayFilter) : Prop where
  /-- A gateway resolves to a filter that is listed for it. -/
  resolve_custom_iff : ∀ gatewayId filter,
    registry.resolve gatewayId = .custom filter ↔
      filter ∈ filters ∧ filter.gatewayId = gatewayId
  /-- This is the only filter of the list for the gateway. -/
  listed_once : ∀ gatewayId filter, registry.resolve gatewayId = .custom filter →
    (filters.filter fun other => other.gatewayId = gatewayId) = [filter]
  /-- A gateway for which none is listed is left to its default flow. -/
  resolve_builtin_iff : ∀ gatewayId,
    registry.resolve gatewayId = .builtinDefault ↔
      gatewayId ∉ filters.map GatewayFilter.gatewayId
  /-- The gateways with a filter are those that resolve to one. -/
  contains_iff : ∀ gatewayId,
    registry.contains gatewayId = true ↔ ∃ filter, registry.resolve gatewayId = .custom filter
  /-- The gateways are listed in strictly ascending order. -/
  gatewayIds_ascending : registry.gatewayIds.Pairwise (· < ·)
  /-- They are the gateways of the filters. -/
  mem_gatewayIds_iff : ∀ gatewayId,
    gatewayId ∈ registry.gatewayIds ↔ gatewayId ∈ filters.map GatewayFilter.gatewayId
  /-- There are as many filters as are listed. -/
  size_eq : registry.size = filters.length

variable {registry : FilterRegistry} {filters : List GatewayFilter}

/-- A gateway resolves to the filter of the registry that belongs to it, of which there is no more
than one. -/
theorem resolve_eq_custom_iff {gatewayId : String} {filter : GatewayFilter} :
    registry.resolve gatewayId = .custom filter ↔
      filter ∈ registry.filters ∧ filter.gatewayId = gatewayId := by
  rw [← OrderedCheck.find?_key_eq_some_iff registry.distinct]
  unfold resolve filter?
  split
  · next found hfound => rw [hfound, Strategy.custom.injEq, Option.some.injEq]
  · next hnone => simp only [hnone, reduceCtorEq]

/-- A gateway that no filter of the registry belongs to is left to its default flow, and no other
gateway is. -/
theorem resolve_eq_builtinDefault_iff {gatewayId : String} :
    registry.resolve gatewayId = .builtinDefault ↔
      gatewayId ∉ registry.filters.map GatewayFilter.gatewayId := by
  rw [← OrderedCheck.find?_key_eq_none_iff]
  unfold resolve filter?
  split
  · next found hfound => simp only [hfound, reduceCtorEq]
  · next hnone => simp only [hnone]

/-- The gateways of a registry are listed in strictly ascending order: they are sorted, and none is
listed twice. -/
theorem gatewayIds_pairwise_lt (registry : FilterRegistry) :
    registry.gatewayIds.Pairwise (· < ·) := by
  have hsorted : registry.gatewayIds.Pairwise fun a b => decide (a ≤ b) = true := by
    refine List.pairwise_mergeSort (fun a b c hab hbc => ?_) (fun a b => ?_) _
    · rw [decide_eq_true_iff] at *
      exact String.le_trans hab hbc
    · rw [Bool.or_eq_true, decide_eq_true_iff, decide_eq_true_iff]
      exact String.le_total a b
  have hdistinct : registry.gatewayIds.Nodup :=
    (List.mergeSort_perm _ _).nodup_iff.mpr registry.distinct
  exact hsorted.imp₂ (fun a b hle hne => Std.lt_of_le_of_ne (of_decide_eq_true hle) hne) hdistinct

/-- A registry of the filters of a list, in any order, answers as one of the list, since each of its
answers depends on membership only. -/
theorem answers_of_perm (h : registry.filters.Perm filters) : registry.Answers filters where
  resolve_custom_iff gatewayId filter := by
    rw [resolve_eq_custom_iff, h.mem_iff]
  listed_once gatewayId filter hresolve := by
    obtain ⟨hmem, rfl⟩ := resolve_eq_custom_iff.mp hresolve
    have hkeys : (filters.map GatewayFilter.gatewayId).Nodup :=
      (h.map _).nodup_iff.mp registry.distinct
    exact OrderedCheck.filter_key hkeys (h.mem_iff.mp hmem)
  resolve_builtin_iff gatewayId := by
    rw [resolve_eq_builtinDefault_iff, (h.map _).mem_iff]
  contains_iff _ := contains_eq_true_iff
  gatewayIds_ascending := registry.gatewayIds_pairwise_lt
  mem_gatewayIds_iff gatewayId := by
    rw [gatewayIds, List.mem_mergeSort, (h.map _).mem_iff]
  size_eq := h.length_eq

/-- Registries that answer as one of the same list resolve every gateway in the same way, although
they may hold the filters in different orders. -/
theorem Answers.resolve_eq {other : FilterRegistry} (h : registry.Answers filters)
    (hother : other.Answers filters) (gatewayId : String) :
    registry.resolve gatewayId = other.resolve gatewayId := by
  cases hresolve : other.resolve gatewayId with
  | builtinDefault =>
    exact (h.resolve_builtin_iff gatewayId).mpr ((hother.resolve_builtin_iff gatewayId).mp hresolve)
  | custom filter =>
    exact (h.resolve_custom_iff gatewayId filter).mpr
      ((hother.resolve_custom_iff gatewayId filter).mp hresolve)

/-- Filters that are added to a builder stand behind those that it has, in the order in which they
are added. -/
theorem filters_foldl_register (builder : RegistryBuilder) (filters : List GatewayFilter) :
    (filters.foldl RegistryBuilder.register builder).filters = builder.filters ++ filters := by
  induction filters generalizing builder with
  | nil => exact (List.append_nil _).symm
  | cons filter filters ih =>
    rw [List.foldl_cons, ih]
    exact List.append_assoc _ _ _

/-- The filters of a list can be registered together exactly if their gateways are distinct,
whatever the filters do. -/
theorem exists_ofList_eq_ok_iff :
    (∃ registry, ofList filters = .ok registry) ↔
      (filters.map GatewayFilter.gatewayId).Nodup := by
  constructor
  · rintro ⟨registry, hregistry⟩
    cases ofList_eq_iff.mp hregistry with
    | all h => exact h ▸ registry.distinct
  · intro hdistinct
    exact ⟨⟨filters, hdistinct⟩, ofList_eq_iff.mpr (.all rfl)⟩

/-- Registering the filters of a list fails at the first one that repeats a gateway, and the error
names this gateway. -/
theorem ofList_eq_error_iff {error : RegistryError} :
    ofList filters = .error error ↔
      ∃ earlier filter later, filters = earlier ++ filter :: later ∧
        (earlier.map GatewayFilter.gatewayId).Nodup ∧
        filter.gatewayId ∈ earlier.map GatewayFilter.gatewayId ∧
        error = .duplicateGateway filter.gatewayId := by
  rw [ofList_eq_iff]
  constructor
  · intro h
    cases h with
    | repeated hsplit hdistinct hrepeats => exact ⟨_, _, _, hsplit, hdistinct, hrepeats, rfl⟩
  · rintro ⟨earlier, filter, later, hsplit, hdistinct, hrepeats, rfl⟩
    exact .repeated hsplit hdistinct hrepeats

/-- A registry of a list of filters, whether they are collected one by one or given at once, exists
exactly if their gateways are distinct; otherwise the first filter that repeats a gateway is
reported. The registry answers as one of the list, and the order of the list changes neither whether
there is one nor what a gateway resolves to. -/
theorem ofList_registers_once (filters : List GatewayFilter) :
    (filters.foldl RegistryBuilder.register .empty).build = ofList filters ∧
    ((∃ registry, ofList filters = .ok registry) ↔
      (filters.map GatewayFilter.gatewayId).Nodup) ∧
    (∀ error, ofList filters = .error error ↔
      ∃ earlier filter later, filters = earlier ++ filter :: later ∧
        (earlier.map GatewayFilter.gatewayId).Nodup ∧
        filter.gatewayId ∈ earlier.map GatewayFilter.gatewayId ∧
        error = .duplicateGateway filter.gatewayId) ∧
    (∀ registry, ofList filters = .ok registry → registry.Answers filters) ∧
    ∀ permuted, filters.Perm permuted →
      ((∃ registry, ofList filters = .ok registry) ↔
        ∃ registry, ofList permuted = .ok registry) ∧
      ∀ registry other, ofList filters = .ok registry → ofList permuted = .ok other →
        ∀ gatewayId, registry.resolve gatewayId = other.resolve gatewayId := by
  have hholds {listed : List GatewayFilter} {registry : FilterRegistry}
      (h : ofList listed = .ok registry) : registry.filters = listed := by
    cases ofList_eq_iff.mp h with
    | all hfilters => exact hfilters
  refine ⟨?_, exists_ofList_eq_ok_iff, fun error => ofList_eq_error_iff, ?_, ?_⟩
  · exact congrArg ofList (filters_foldl_register .empty filters)
  · intro registry h
    exact answers_of_perm (.of_eq (hholds h))
  · intro permuted hperm
    refine ⟨?_, fun registry other h hother => ?_⟩
    · rw [exists_ofList_eq_ok_iff, exists_ofList_eq_ok_iff, (hperm.map _).nodup_iff]
    · have hanswers : registry.Answers filters := answers_of_perm (.of_eq (hholds h))
      have hothers : other.Answers filters := by
        refine answers_of_perm ?_
        rw [hholds hother]
        exact hperm.symm
      exact hanswers.resolve_eq hothers

/-- Two filters that are registered in descending order of their gateways are listed in ascending
order, and are found in either order. -/
theorem ofList_registers_once_two_gateways :
    let filters := [GatewayFilter.byFlowIds "B" ["x"], GatewayFilter.byFlowIds "A" ["y"]]
    ∃ registry reversed, ofList filters = .ok registry ∧ ofList filters.reverse = .ok reversed ∧
      registry.gatewayIds.Pairwise (· < ·) ∧ registry.size = 2 ∧
      registry.resolve "A" = .custom (.byFlowIds "A" ["y"]) ∧
      reversed.resolve "A" = .custom (.byFlowIds "A" ["y"]) := by
  intro filters
  obtain ⟨-, hsuccess, -, hanswers, hpermuted⟩ := ofList_registers_once filters
  have hperm : filters.Perm filters.reverse := filters.reverse_perm.symm
  obtain ⟨registry, hregistry⟩ := hsuccess.mpr (by decide)
  obtain ⟨reversed, hreversed⟩ := (hpermuted _ hperm).1.mp ⟨registry, hregistry⟩
  have h := hanswers registry hregistry
  have hresolve : registry.resolve "A" = .custom (.byFlowIds "A" ["y"]) :=
    (h.resolve_custom_iff "A" _).mpr ⟨List.mem_cons_of_mem _ (List.mem_singleton_self _), rfl⟩
  refine ⟨registry, reversed, hregistry, hreversed, h.gatewayIds_ascending, h.size_eq, hresolve, ?_⟩
  rw [← (hpermuted _ hperm).2 registry reversed hregistry hreversed, hresolve]

end FilterRegistry

end CaseRouting
