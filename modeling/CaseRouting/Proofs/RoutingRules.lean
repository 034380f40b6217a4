import CaseRouting.Proofs.FlowSelection

/-!
# The rules that gateways can be routed by

The filters of the library each follow a rule that keeps a flow or drops it for what the flow is
itself: by a text set on the case, by the action of the caller, or by a fixed set of ids. Such a
filter answers at its first poll, never fails and leaves the token alone. What it keeps of the flows
of a built graph is exactly what its rule keeps.
-/

namespace CaseRouting

/-- What a filter of the library goes by. There are three rules, and each looks at one thing
only. -/
inductive RoutingRule where
  /-- The text set on the case under a key is the id of the flow. -/
  | dataValue (key : String)
  /-- The condition of the flow is the action of the caller. -/
  | action
  /-- The id of the flow is one of the given ones. -/
  | flowIds (ids : List String)
  deriving DecidableEq, Repr

namespace RoutingRule

/-- The filter that follows the rule at a gateway, as the library makes it. -/
def filter (gatewayId : String) : RoutingRule → GatewayFilter
  | .dataValue key => .byDataValue gatewayId key
  | .action => .byAction gatewayId
  | .flowIds ids => .byFlowIds gatewayId ids

/-- Whether the rule keeps a flow, told from the flow, the case and the action alone. -/
def keeps (case : CaseData) (action : Option String) (flow : SequenceFlow) : RoutingRule → Bool
  | .dataValue key => case.dataValue? key = some flow.id
  | .action => flow.condition = action
  | .flowIds ids => flow.id ∈ ids

/-- The flows that the rule keeps, in the order offered. Nothing of the context matters but the
action. -/
def kept (rule : RoutingRule) (offered : List SequenceFlow) (case : CaseData)
    (context : GatewayContext) : List SequenceFlow :=
  offered.filter fun flow => rule.keeps case context.action flow

/-- The filter of a rule answers with the flows that the rule keeps, at once and always in the same
way. -/
theorem filter_eq_answering (rule : RoutingRule) (gatewayId : String) :
    rule.filter gatewayId = .answering gatewayId fun offered case context =>
      .ok (rule.kept offered case context) := by
  cases rule with
  | dataValue key =>
    change GatewayFilter.answering gatewayId _ = _
    congr 1
    funext offered case context
    unfold kept keeps
    cases hvalue : case.dataValue? key with
    | none => simp [hvalue]
    | some chosen => simp [hvalue, eq_comm]
  | action => rfl
  | flowIds ids => rfl

/-- The filter of a rule belongs to its gateway, whichever the rule is. -/
theorem gatewayId_filter (rule : RoutingRule) (gatewayId : String) :
    (rule.filter gatewayId).gatewayId = gatewayId := by
  rw [filter_eq_answering]
  rfl

/-- A call of the filter of a rule is answered at its first poll, and whatever has been called
before makes no difference. -/
theorem start_filter (rule : RoutingRule) (gatewayId : String) (number : Nat)
    (offered : List SequenceFlow) (case : CaseData) (context : GatewayContext) :
    (rule.filter gatewayId).start number offered case context =
      .done (.ok (rule.kept offered case context)) := by
  rw [filter_eq_answering]
  rfl

end RoutingRule

/-- Naming flows of distinct ids keeps these flows and no others; with repeated ids a flow could be
kept for another one. -/
theorem keptOf_filter {offered : List SequenceFlow} (hids : (offered.map SequenceFlow.id).Nodup)
    (property : SequenceFlow → Bool) :
    keptOf offered (offered.filter property) = offered.filter property := by
  unfold keptOf
  refine List.filter_congr fun flow hflow => ?_
  have hkept : flow.id ∈ (offered.filter property).map SequenceFlow.id ↔ property flow = true := by
    refine ⟨fun hid => ?_, fun h => List.mem_map_of_mem (List.mem_filter.mpr ⟨hflow, h⟩)⟩
    obtain ⟨other, hother, hid⟩ := List.mem_map.mp hid
    obtain ⟨hmem, hproperty⟩ := List.mem_filter.mp hother
    rwa [← List.inj_on_of_nodup_map hids hmem hflow hid]
  rw [Bool.eq_iff_iff, decide_eq_true_iff, hkept]

namespace RoutingRule

variable {key : String} {offered : List SequenceFlow} {case : CaseData} {context : GatewayContext}

/-- The flow whose id is set on the case is the only one kept for it, if it is among the flows. -/
theorem kept_dataValue_of_mem (hids : (offered.map SequenceFlow.id).Nodup) {flow : SequenceFlow}
    (hflow : flow ∈ offered) (hvalue : case.dataValue? key = some flow.id) :
    (dataValue key).kept offered case context = [flow] := by
  rw [← OrderedCheck.filter_key hids hflow]
  refine List.filter_congr fun other _ => ?_
  simp [keeps, hvalue, eq_comm]

/-- No flow is kept for a text of the case that is the id of none, nor if no text is set. -/
theorem kept_dataValue_of_forall_ne (hnone : ∀ flow ∈ offered, case.dataValue? key ≠ some flow.id) :
    (dataValue key).kept offered case context = [] :=
  List.filter_eq_nil_iff.mpr fun flow hflow => by simpa [keeps] using hnone flow hflow

end RoutingRule

end CaseRouting
