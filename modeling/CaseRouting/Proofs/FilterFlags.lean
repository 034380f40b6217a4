import CaseRouting.Proofs.NextCommand
import CaseRouting.Proofs.RegisteredFilters

/-!
# The filters that arguments ask for

A data filter is written as the gateway and the key with an equals sign between them, and is split
at the first one. A gateway without an equals sign can therefore be written with any key, and what
has been written is read in one way only. Flags for filters may stand in any order; the filters on
data values are registered before those on the action, a gateway can have one of them only, and
every gateway is decided by the filter that a flag asks for, if there is one.
-/

namespace CaseRouting.CommandLine

section Values

/-- A value that stands for a gateway and a key: the gateway is free of equals signs, and neither of
them is empty. -/
structure StandsFor (value : String) (filter : String × String) : Prop where
  written : value = filter.1 ++ "=" ++ filter.2
  gateway_plain : '=' ∉ filter.1.toList
  gateway_ne : filter.1 ≠ ""
  key_ne : filter.2 ≠ ""

/-- A value with an equals sign that has a character in front of the first one and another behind
it. -/
def IsAssignment (value : String) : Prop :=
  ∃ before behind, value.toList = before ++ '=' :: behind ∧ '=' ∉ before ∧ before ≠ [] ∧
    behind ≠ []

/-- A text is split at the equals sign behind characters that are none, and so at its first. -/
theorem splitAtEquals_append {before : List Char} (hplain : '=' ∉ before) (behind : List Char) :
    splitAtEquals (before ++ '=' :: behind) = some (before, behind) := by
  induction before with
  | nil => rfl
  | cons c before ih =>
    rw [List.mem_cons, not_or] at hplain
    rw [List.cons_append, splitAtEquals, if_neg (Ne.symm hplain.1), ih hplain.2]

/-- A text without an equals sign is not split, as there is no place for it. -/
theorem splitAtEquals_eq_none {cs : List Char} (hplain : '=' ∉ cs) : splitAtEquals cs = none := by
  induction cs with
  | nil => rfl
  | cons c cs ih =>
    rw [List.mem_cons, not_or] at hplain
    rw [splitAtEquals, if_neg (Ne.symm hplain.1), ih hplain.2]

/-- What a value stands for, character by character, as the splitting looks at it. -/
theorem standsFor_iff_toList {value : String} {filter : String × String} :
    StandsFor value filter ↔ value.toList = filter.1.toList ++ '=' :: filter.2.toList ∧
      '=' ∉ filter.1.toList ∧ filter.1.toList ≠ [] ∧ filter.2.toList ≠ [] := by
  have hwritten : value = filter.1 ++ "=" ++ filter.2 ↔
      value.toList = filter.1.toList ++ '=' :: filter.2.toList := by
    rw [← String.toList_inj]
    simp
  have hempty (text : String) : text.toList ≠ [] ↔ text ≠ "" := by simp
  rw [← hwritten, hempty, hempty]
  exact ⟨fun h => ⟨h.written, h.gateway_plain, h.gateway_ne, h.key_ne⟩,
    fun h => ⟨h.1, h.2.1, h.2.2.1, h.2.2.2⟩⟩

/-- A value is read as a gateway and a key if it stands for them, and as no other two. -/
theorem dataFilterOf_eq_ok_iff {value : String} {filter : String × String} :
    dataFilterOf value = .ok filter ↔ StandsFor value filter := by
  rw [standsFor_iff_toList]
  unfold dataFilterOf
  constructor
  · intro h
    by_cases hequals : '=' ∈ value.toList
    · obtain ⟨before, behind, hsplit, hplain⟩ := List.eq_append_cons_of_mem hequals
      rw [hsplit, splitAtEquals_append hplain] at h
      dsimp only at h
      split at h
      · cases h
      next hfull =>
        obtain rfl := Except.ok.inj h
        simpa using ⟨hsplit, hplain, not_or.mp hfull⟩
    · rw [splitAtEquals_eq_none hequals] at h
      cases h
  · rintro ⟨hsplit, hplain, hgateway, hkey⟩
    rw [hsplit, splitAtEquals_append hplain]
    dsimp only
    rw [if_neg (not_or.mpr ⟨hgateway, hkey⟩), String.ofList_toList, String.ofList_toList]

/-- A value that is refused is reported as it stands, and it is refused only if it stands for no two
texts. -/
theorem dataFilterOf_eq_error_iff {value : String} {error : UsageError} :
    dataFilterOf value = .error error ↔
      (∀ filter, ¬ StandsFor value filter) ∧ error = .badDataFilter value := by
  have hrefused : ∀ error, dataFilterOf value = .error error → error = .badDataFilter value := by
    intro error h
    unfold dataFilterOf at h
    split at h
    · split at h
      · exact (Except.error.inj h).symm
      · cases h
    · exact (Except.error.inj h).symm
  cases hvalue : dataFilterOf value with
  | ok filter =>
    refine iff_of_false nofun fun h => h.1 filter (dataFilterOf_eq_ok_iff.mp hvalue)
  | error found =>
    obtain rfl := hrefused found hvalue
    rw [Except.error.injEq, eq_comm, iff_and_self]
    intro _ filter hfilter
    cases hvalue.symm.trans (dataFilterOf_eq_ok_iff.mpr hfilter)

/-- The values that stand for a gateway and a key are the assignments, whose first equals sign is
not at either end. -/
theorem isAssignment_iff {value : String} :
    IsAssignment value ↔ ∃ filter, StandsFor value filter := by
  simp only [standsFor_iff_toList, IsAssignment]
  constructor
  · rintro ⟨before, behind, h⟩
    exact ⟨(String.ofList before, String.ofList behind), by simpa using h⟩
  · rintro ⟨filter, h⟩
    exact ⟨filter.1.toList, filter.2.toList, h⟩

end Values

section Flags

/-- A flag that asks for a filter, as it stands among the arguments, before its value has been
looked at. -/
inductive FilterFlag where
  /-- A gateway decided by a value of the case, in the form `GATEWAY=KEY`. -/
  | data (value : String)
  /-- A gateway decided by the action. -/
  | action (gatewayId : String)

namespace FilterFlag

/-- The argument that a flag is written as, with its value attached to its name. -/
def argument : FilterFlag → String
  | .data value => "--data-filter=" ++ value
  | .action gatewayId => "--action-filter=" ++ gatewayId

/-- A data filter is written behind its name, whatever its value is. -/
theorem argument_data (value : String) : (data value).argument = "--data-filter=" ++ value := rfl

/-- An action filter is written behind its name, whatever its gateway is. -/
theorem argument_action (gatewayId : String) :
    (action gatewayId).argument = "--action-filter=" ++ gatewayId := rfl

/-- The value of a data filter, which other flags do not have. -/
def value? : FilterFlag → Option String
  | .data value => some value
  | .action _ => none

/-- The gateway of an action filter, which other flags do not name by itself. -/
def gatewayId? : FilterFlag → Option String
  | .data _ => none
  | .action gatewayId => some gatewayId

/-- The values of the data filters among some flags, in order. -/
def values (flags : List FilterFlag) : List String := flags.filterMap value?

/-- The gateways of the action filters among some flags, in order. -/
def gatewayIds (flags : List FilterFlag) : List String := flags.filterMap gatewayId?

variable {flags : List FilterFlag}

/-- A data filter in front adds its value in front. -/
@[simp]
theorem values_data (value : String) : values (.data value :: flags) = value :: values flags := rfl

/-- An action filter adds no value of a data filter. -/
@[simp]
theorem values_action (gatewayId : String) : values (.action gatewayId :: flags) = values flags :=
  rfl

/-- A data filter adds no gateway of an action filter. -/
@[simp]
theorem gatewayIds_data (value : String) : gatewayIds (.data value :: flags) = gatewayIds flags :=
  rfl

/-- An action filter in front adds its gateway in front. -/
@[simp]
theorem gatewayIds_action (gatewayId : String) :
    gatewayIds (.action gatewayId :: flags) = gatewayId :: gatewayIds flags := rfl

end FilterFlag

open FilterFlag (values gatewayIds)

/-- A draft into which filters have been taken, each behind those of its kind. -/
def Draft.withFilters (draft : Draft) (dataFilters : List (String × String))
    (actionFilters : List String) : Draft :=
  { draft with
    dataFilters := draft.dataFilters ++ dataFilters
    actionFilters := draft.actionFilters ++ actionFilters }

/-- An argument in which a value is attached to a name is a long option with this value, which may
have equals signs of its own. -/
theorem Shape.of_attached {argument name value : String}
    (hargument : argument.toList = '-' :: '-' :: (name.toList ++ '=' :: value.toList))
    (hplain : '=' ∉ name.toList) : Shape.of argument = .long name (some value) := by
  obtain ⟨c, cs, hlong⟩ : ∃ c cs, name.toList ++ '=' :: value.toList = c :: cs := by
    cases name.toList <;> simp
  unfold Shape.of
  rw [hargument, hlong]
  simp only []
  rw [← hlong, splitAtEquals_append hplain]
  dsimp only
  rw [String.ofList_toList, String.ofList_toList]

/-- An option that is attached to its value is taken at once, when nothing is pending, and reading
goes on behind it. -/
theorem readArguments_attached {argument name value : String} {valued : Valued} {draft : Draft}
    (hshape : Shape.of argument = .long name (some value))
    (hoption : Command.next.option? name = some valued) (hpending : draft.pending = none)
    (rest : List String) :
    readArguments .next draft (argument :: rest) =
      (draft.assign valued value >>= fun draft => readArguments .next draft rest) := by
  have hsettle : draft.settle = .ok draft := by rw [Draft.settle, hpending]
  rw [readArguments, hshape, if_neg (by simp)]
  dsimp only
  rw [hoption]
  dsimp only
  rw [Draft.takeOption, hsettle]
  rfl

/-- Flags for filters are taken in order, up to the first data filter that is refused. The two kinds
are gathered apart, so that how they are mixed does not matter. -/
theorem readArguments_flags {draft : Draft} (hpending : draft.pending = none)
    (flags : List FilterFlag) (rest : List String) :
    readArguments .next draft (flags.map FilterFlag.argument ++ rest) =
      ((values flags).mapM dataFilterOf >>= fun dataFilters =>
        readArguments .next
          (draft.withFilters dataFilters (gatewayIds flags)) rest) := by
  induction flags generalizing draft with
  | nil => simp [values, gatewayIds, Draft.withFilters, pure, Except.pure]
  | cons flag flags ih =>
    rw [List.map_cons, List.cons_append]
    cases flag with
    | data value =>
      have hshape : Shape.of (FilterFlag.data value).argument =
          .long "data-filter" (some value) :=
        Shape.of_attached (by simp [FilterFlag.argument_data]) (by decide)
      rw [readArguments_attached hshape rfl hpending, Draft.assign, FilterFlag.values_data,
        FilterFlag.gatewayIds_data, List.mapM_cons]
      cases dataFilterOf value with
      | error error => rfl
      | ok filter =>
        have htaken := @ih { draft with dataFilters := draft.dataFilters ++ [filter] } hpending
        simp only [ok_bind]
        rw [htaken]
        cases (values flags).mapM dataFilterOf with
        | error error => rfl
        | ok dataFilters => simp [Draft.withFilters, pure, Except.pure]
    | action gatewayId =>
      have hshape : Shape.of (FilterFlag.action gatewayId).argument =
          .long "action-filter" (some gatewayId) :=
        Shape.of_attached (by simp [FilterFlag.argument_action]) (by decide)
      have htaken := @ih { draft with actionFilters := draft.actionFilters ++ [gatewayId] } hpending
      rw [readArguments_attached hshape rfl hpending, Draft.assign, ok_bind, htaken,
        FilterFlag.values_action, FilterFlag.gatewayIds_action]
      simp [Draft.withFilters]

/-- The arguments of the command `next` with flags for filters: where the definition is, which node
the case occupies, and the flags. -/
def nextArguments (definition originId : String) (flags : List FilterFlag) : List String :=
  "next" :: (flags.map FilterFlag.argument ++ ["--from=" ++ originId, "--", definition])

/-- What these arguments ask for, with the data filters that have been read. -/
def flagOptions (definition originId : String) (dataFilters : List (String × String))
    (actionFilters : List String) : NextOptions :=
  ⟨definition, originId, none, none, dataFilters, actionFilters, false⟩

/-- Behind two hyphens the definition is kept until the arguments end, even if it looks like an
option. -/
theorem readArguments_definition {draft : Draft} (hpending : draft.pending = none)
    (hnone : draft.definition = none) (definition : String) :
    readArguments .next draft ["--", definition] =
      .ok (.done { draft with pending := some (.definition, some definition) }) := by
  have hshape : Shape.of "--" = .terminator := rfl
  have hpositional : draft.positional .next definition =
      .ok { draft with pending := some (.definition, some definition) } := by
    simp [Draft.positional, Draft.settle, hpending, hnone]
  rw [readArguments, hshape, if_neg (by simp)]
  dsimp only
  rw [readValues, hpositional]
  rfl

/-- Behind the flags stand the node that the case occupies and the definition, and with these the
command is complete. -/
theorem readCommand_flags {definition : String} (hdefinition : definition ≠ "")
    (originId : String) (flags : List FilterFlag) :
    readCommand .next (flags.map FilterFlag.argument ++ ["--from=" ++ originId, "--", definition]) =
      ((values flags).mapM dataFilterOf).map fun dataFilters =>
        .next (flagOptions definition originId dataFilters (gatewayIds flags)) := by
  have hshape : Shape.of ("--from=" ++ originId) = .long "from" (some originId) :=
    Shape.of_attached (by simp) (by decide)
  rw [readCommand, readArguments_flags rfl]
  cases (values flags).mapM dataFilterOf with
  | error error => rfl
  | ok dataFilters =>
    let draft : Draft :=
      { Draft.blank.withFilters dataFilters (gatewayIds flags) with originId := some originId }
    have horigin : (Draft.blank.withFilters dataFilters (gatewayIds flags)).assign .origin
        originId = .ok draft := rfl
    have hsettle : { draft with pending := some (.definition, some definition) }.settle =
        .ok { draft with definition := some definition } :=
      if_neg (not_or.mpr ⟨Bool.false_ne_true, hdefinition⟩)
    rw [ok_bind, readArguments_attached hshape rfl rfl, horigin, ok_bind,
      readArguments_definition rfl rfl, ok_bind]
    dsimp only
    rw [hsettle]
    rfl

/-- The arguments ask for the filters that their flags stand for, unless a data filter is refused,
and nothing else can go wrong with them. -/
theorem ofArguments_flags {definition : String} (hdefinition : definition ≠ "")
    (originId : String) (flags : List FilterFlag) :
    Request.ofArguments (nextArguments definition originId flags) =
      ((values flags).mapM dataFilterOf).map fun dataFilters =>
        .next (flagOptions definition originId dataFilters (gatewayIds flags)) := by
  have hcommand (rest : List String) :
      readArguments .root .blank ("next" :: rest) = .ok (.command "next" .blank rest) := by
    rw [readArguments]
    rfl
  rw [Request.ofArguments, nextArguments, hcommand]
  dsimp only [ok_bind]
  rw [if_neg (by decide), if_neg (by decide), readCommand_flags hdefinition]
  cases (values flags).mapM dataFilterOf <;> rfl

end Flags

section Registry

/-- The gateways for which filters are asked: those decided by a value of the case first, as their
filters are registered first. -/
def gatewaysOf (options : NextOptions) : List String :=
  options.dataFilters.map Prod.fst ++ options.actionFilters

/-- The filters that are asked for decide the gateways: each its own, and no two the same. -/
structure DecidesGateways (options : NextOptions) : Prop where
  /-- There is a registry if no gateway is named twice. -/
  exists_registry_iff :
    (∃ registry, registryOf options = .ok registry) ↔ (gatewaysOf options).Nodup
  /-- Otherwise the first gateway that repeats an earlier one is reported. -/
  registryOf_eq_error_iff : ∀ failure, registryOf options = .error failure ↔
    ∃ before gatewayId behind, gatewaysOf options = before ++ gatewayId :: behind ∧
      before.Nodup ∧ gatewayId ∈ before ∧ failure = .registration (.duplicateGateway gatewayId)
  /-- A data filter decides its gateway by its key. -/
  resolve_data : ∀ registry, registryOf options = .ok registry →
    ∀ filter ∈ options.dataFilters,
      registry.resolve filter.1 = .custom (.byDataValue filter.1 filter.2)
  /-- An action filter decides its gateway. -/
  resolve_action : ∀ registry, registryOf options = .ok registry →
    ∀ gatewayId ∈ options.actionFilters,
      registry.resolve gatewayId = .custom (.byAction gatewayId)
  /-- All other gateways are left to their default flows. -/
  resolve_other : ∀ registry, registryOf options = .ok registry →
    ∀ gatewayId, gatewayId ∉ gatewaysOf options → registry.resolve gatewayId = .builtinDefault

variable {options : NextOptions} {registry : FilterRegistry}

/-- The filters of a run belong to the gateways for which they are asked, in the same order. -/
theorem map_gatewayId_filtersOf (options : NextOptions) :
    (filtersOf options).map GatewayFilter.gatewayId = gatewaysOf options := by
  have haction : options.actionFilters.map (GatewayFilter.gatewayId ∘ GatewayFilter.byAction) =
      options.actionFilters := List.map_id' _
  rw [filtersOf, List.map_append, List.map_map, List.map_map, haction]
  rfl

/-- The registry of a run is the registry of its filters, made of them in one go. -/
theorem registryOf_eq_ok_iff :
    registryOf options = .ok registry ↔
      FilterRegistry.ofList (filtersOf options) = .ok registry := by
  unfold registryOf
  cases FilterRegistry.ofList (filtersOf options) <;> simp

/-- A run has no registry if its filters cannot be registered together, and fails in its first stage
then. -/
theorem registryOf_eq_error_iff {failure : Failure} :
    registryOf options = .error failure ↔
      ∃ error, FilterRegistry.ofList (filtersOf options) = .error error ∧
        failure = .registration error := by
  unfold registryOf
  cases FilterRegistry.ofList (filtersOf options) <;> simp [eq_comm]

/-- The registry of a run holds its filters, all of them and in the order in which they are asked
for. -/
theorem filters_of_registryOf (h : registryOf options = .ok registry) :
    registry.filters = filtersOf options := by
  cases FilterRegistry.ofList_eq_iff.mp (registryOf_eq_ok_iff.mp h) with
  | all hfilters => exact hfilters

/-- Registering filters fails at the first gateway that is repeated, told from the gateways
alone. -/
theorem ofList_eq_error_iff_gateways {filters : List GatewayFilter} {error : RegistryError} :
    FilterRegistry.ofList filters = .error error ↔
      ∃ before gatewayId behind,
        filters.map GatewayFilter.gatewayId = before ++ gatewayId :: behind ∧ before.Nodup ∧
          gatewayId ∈ before ∧ error = .duplicateGateway gatewayId := by
  rw [FilterRegistry.ofList_eq_error_iff]
  constructor
  · rintro ⟨earlier, filter, later, rfl, hdistinct, hrepeats, rfl⟩
    exact ⟨_, _, _, List.map_append, hdistinct, hrepeats, rfl⟩
  · rintro ⟨before, gatewayId, behind, hsplit, hdistinct, hrepeats, rfl⟩
    obtain ⟨earlier, others, rfl, rfl, hothers⟩ := List.map_eq_append_iff.mp hsplit
    obtain ⟨filter, later, rfl, rfl, -⟩ := List.map_eq_cons_iff.mp hothers
    exact ⟨earlier, filter, later, rfl, hdistinct, hrepeats, rfl⟩

/-- Whatever filters are asked for, they decide the gateways, for a registry answers as one of its
filters. -/
theorem decidesGateways (options : NextOptions) : DecidesGateways options where
  exists_registry_iff := by
    rw [← map_gatewayId_filtersOf, ← FilterRegistry.exists_ofList_eq_ok_iff]
    exact exists_congr fun registry => registryOf_eq_ok_iff
  registryOf_eq_error_iff failure := by
    rw [registryOf_eq_error_iff, ← map_gatewayId_filtersOf]
    simp only [ofList_eq_error_iff_gateways]
    constructor
    · rintro ⟨error, ⟨before, gatewayId, behind, hsplit, hdistinct, hrepeats, rfl⟩, rfl⟩
      exact ⟨before, gatewayId, behind, hsplit, hdistinct, hrepeats, rfl⟩
    · rintro ⟨before, gatewayId, behind, hsplit, hdistinct, hrepeats, rfl⟩
      exact ⟨_, ⟨before, gatewayId, behind, hsplit, hdistinct, hrepeats, rfl⟩, rfl⟩
  resolve_data registry hregistry filter hfilter := by
    rw [FilterRegistry.resolve_eq_custom_iff, filters_of_registryOf hregistry]
    exact ⟨List.mem_append_left _ (List.mem_map_of_mem hfilter), rfl⟩
  resolve_action registry hregistry gatewayId hgateway := by
    rw [FilterRegistry.resolve_eq_custom_iff, filters_of_registryOf hregistry]
    exact ⟨List.mem_append_right _ (List.mem_map_of_mem hgateway), rfl⟩
  resolve_other registry hregistry gatewayId hgateway := by
    rw [FilterRegistry.resolve_eq_builtinDefault_iff, filters_of_registryOf hregistry,
      map_gatewayId_filtersOf]
    exact hgateway

end Registry

section Arguments

open FilterFlag (values gatewayIds)

/-- The arguments of a run are accepted if all values of data filters are assignments, and the first
one that is none is reported. A value is read as the gateway and the key that it stands for, so that
a gateway without an equals sign and a key are read from exactly one value. The filters that are
read, in whatever order their flags stand, decide their gateways and no others. -/
theorem filter_flags_decide_gateways {definition : String} (hdefinition : definition ≠ "")
    (originId : String) (flags : List FilterFlag) :
    (∀ value filter, dataFilterOf value = .ok filter ↔ StandsFor value filter) ∧
    (∀ gatewayId key, '=' ∉ gatewayId.toList → gatewayId ≠ "" → key ≠ "" →
      ∀ value, dataFilterOf value = .ok (gatewayId, key) ↔ value = gatewayId ++ "=" ++ key) ∧
    ((∃ request, Request.ofArguments (nextArguments definition originId flags) = .ok request) ↔
      ∀ value ∈ values flags, IsAssignment value) ∧
    (∀ error, Request.ofArguments (nextArguments definition originId flags) = .error error ↔
      ∃ before value behind, values flags = before ++ value :: behind ∧
        (∀ earlier ∈ before, IsAssignment earlier) ∧ ¬ IsAssignment value ∧
        error = .badDataFilter value) ∧
    (∀ request, Request.ofArguments (nextArguments definition originId flags) = .ok request ↔
      ∃ dataFilters, List.Forall₂ StandsFor (values flags) dataFilters ∧
        request = .next (flagOptions definition originId dataFilters (gatewayIds flags))) ∧
    ∀ dataFilters,
      DecidesGateways (flagOptions definition originId dataFilters (gatewayIds flags)) := by
  have hread (dataFilters : List (String × String)) :
      (values flags).mapM dataFilterOf = .ok dataFilters ↔
        List.Forall₂ StandsFor (values flags) dataFilters :=
    mapM_eq_ok_iff fun _ _ _ => dataFilterOf_eq_ok_iff
  have hrequest := ofArguments_flags hdefinition originId flags
  refine ⟨fun value filter => dataFilterOf_eq_ok_iff, ?_, ?_, ?_, ?_, fun _ => decidesGateways _⟩
  · intro gatewayId key hplain hgateway hkey value
    rw [dataFilterOf_eq_ok_iff]
    exact ⟨fun h => h.written, fun h => ⟨h, hplain, hgateway, hkey⟩⟩
  · rw [hrequest]
    simp only [isAssignment_iff, ← dataFilterOf_eq_ok_iff, ← exists_mapM_eq_ok_iff, map_eq_ok_iff]
    exact ⟨fun ⟨_, dataFilters, h, _⟩ => ⟨dataFilters, h⟩, fun ⟨dataFilters, h⟩ => ⟨_, _, h, rfl⟩⟩
  · intro error
    rw [hrequest, map_eq_error_iff, mapM_eq_error_iff]
    simp only [dataFilterOf_eq_ok_iff, dataFilterOf_eq_error_iff, isAssignment_iff, not_exists]
  · intro request
    rw [hrequest, map_eq_ok_iff]
    exact exists_congr fun dataFilters => and_congr (hread dataFilters) eq_comm

/-- Of two flags the second one asks for a filter on data values, whose key has an equals sign of
its own. It is registered first, and decides the gateway that it names. -/
theorem filter_flags_decide_gateways_check_route :
    let flags := [FilterFlag.action "Check", .data "Route=next=step"]
    let options := flagOptions "request.json" "File" [("Route", "next=step")] ["Check"]
    Request.ofArguments (nextArguments "request.json" "File" flags) = .ok (.next options) ∧
      ∃ registry, registryOf options = .ok registry ∧
        registry.resolve "Route" = .custom (.byDataValue "Route" "next=step") ∧
        registry.resolve "Check" = .custom (.byAction "Check") ∧
        registry.resolve "File" = .builtinDefault := by
  intro flags options
  obtain ⟨hread, -, -, -, hrequest, hdecides⟩ :=
    filter_flags_decide_gateways (by decide : "request.json" ≠ "") "File" flags
  have hvalue : StandsFor "Route=next=step" ("Route", "next=step") :=
    (hread _ _).mp (by decide)
  have h := hdecides [("Route", "next=step")]
  obtain ⟨registry, hregistry⟩ := h.exists_registry_iff.mpr (by decide)
  refine ⟨(hrequest _).mpr ⟨_, .cons hvalue .nil, rfl⟩, registry, hregistry, ?_, ?_, ?_⟩
  · exact h.resolve_data registry hregistry _ (List.mem_singleton_self _)
  · exact h.resolve_action registry hregistry _ (List.mem_singleton_self _)
  · exact h.resolve_other registry hregistry _ (by decide)

end Arguments

end CaseRouting.CommandLine
