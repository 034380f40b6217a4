import CaseRouting.Gateway.Filter
import CaseRouting.Text.Quoted

/-!
# The registry of filters

A registry assigns filters to gateways, one filter at most to each. It is filled once from a list;
the first filter whose gateway already has one is reported.
-/

namespace CaseRouting

/-- Why filters cannot be registered together. A repeated gateway is the only reason; the gateway
need not exist in any process. -/
inductive RegistryError where
  /-- The gateway has a filter already. -/
  | duplicateGateway (gatewayId : String)
  deriving DecidableEq, Repr

/-- The message of an error, which names the gateway that was to get a second filter. -/
def RegistryError.message : RegistryError → String
  | .duplicateGateway gatewayId =>
    "more than one filter registered for gateway '" ++ gatewayId ++ "'"

/-- Filters of distinct gateways, in the order of their registration. That they are distinct is part
of the type, so that no registry can hold two for one gateway. -/
structure FilterRegistry where
  filters : List GatewayFilter
  /-- No gateway has two filters. -/
  distinct : (filters.map GatewayFilter.gatewayId).Nodup

/-- How the flows of a gateway are narrowed, before the default flow may break a tie that is
left. -/
inductive Strategy where
  /-- No filter is registered; only the default flow breaks a tie. -/
  | builtinDefault
  /-- The registered filter. -/
  | custom (filter : GatewayFilter)

/-- The text that shows a strategy. Of a registered filter only its gateway can be shown. -/
def Strategy.describe : Strategy → String
  | .builtinDefault => "BuiltinDefault"
  | .custom filter => "Custom(" ++ Text.quoted filter.gatewayId ++ ")"

namespace FilterRegistry

/-- The registry without filters, with which every gateway is decided by its default flow alone. -/
def empty : FilterRegistry := ⟨[], List.nodup_nil⟩

/-- Adds a filter, unless its gateway already has one. A refusal names the gateway, and the registry
is then lost. -/
def register (registry : FilterRegistry) (filter : GatewayFilter) :
    Except RegistryError FilterRegistry :=
  if h : filter.gatewayId ∈ registry.filters.map GatewayFilter.gatewayId then
    .error (.duplicateGateway filter.gatewayId)
  else
    .ok ⟨registry.filters ++ [filter], by
      rw [List.map_append, List.nodup_append]
      refine ⟨registry.distinct, by simp, fun a ha b hb hab => h ?_⟩
      rw [List.map_singleton, List.mem_singleton] at hb
      exact hb ▸ hab ▸ ha⟩

/-- A registry of all filters of a list. Registering stops at the first filter that is refused. -/
def ofList (filters : List GatewayFilter) : Except RegistryError FilterRegistry :=
  filters.foldlM register empty

/-- The filter of a gateway, if one is registered for it; there is no other, for the gateways are
distinct. -/
def filter? (registry : FilterRegistry) (gatewayId : String) : Option GatewayFilter :=
  registry.filters.find? fun filter => filter.gatewayId = gatewayId

/-- How a gateway is decided: by the filter that is registered for it, or by the default flow
alone. -/
def resolve (registry : FilterRegistry) (gatewayId : String) : Strategy :=
  match registry.filter? gatewayId with
  | some filter => .custom filter
  | none => .builtinDefault

/-- Whether a gateway has a filter, which is asked before the flows of the gateway are offered to
it. -/
def contains (registry : FilterRegistry) (gatewayId : String) : Bool :=
  (registry.filter? gatewayId).isSome

/-- The gateways that have a filter, in ascending order of their code points and not in that of
their registration. -/
def gatewayIds (registry : FilterRegistry) : List String :=
  (registry.filters.map GatewayFilter.gatewayId).mergeSort fun a b => decide (a ≤ b)

/-- The number of filters, which is also the number of gateways that have one. -/
def size (registry : FilterRegistry) : Nat := registry.filters.length

/-- Whether there is no filter, as in the registry from which registering starts. -/
def isEmpty (registry : FilterRegistry) : Bool := registry.filters.isEmpty

/-- The text that shows a registry: the ids of its gateways, sorted, between quotation marks. -/
def describe (registry : FilterRegistry) : String :=
  "GatewayFilterRegistry \x7b gateways: " ++ Text.quotedList registry.gatewayIds ++ " \x7d"

end FilterRegistry

/-- Collects filters before they are registered together. A repeated gateway comes up only when all
of them are. -/
structure RegistryBuilder where
  /-- The filters in the order in which they were added. -/
  filters : List GatewayFilter

namespace RegistryBuilder

/-- Nothing has been added, and building from here gives the registry without filters. -/
def empty : RegistryBuilder := ⟨[]⟩

/-- Adds a filter, which always succeeds, behind the filters that were added before. -/
def register (builder : RegistryBuilder) (filter : GatewayFilter) : RegistryBuilder :=
  ⟨builder.filters ++ [filter]⟩

/-- Registers all filters in the order in which they were added, as if they had been given as a
list. -/
def build (builder : RegistryBuilder) : Except RegistryError FilterRegistry :=
  FilterRegistry.ofList builder.filters

end RegistryBuilder

end CaseRouting
