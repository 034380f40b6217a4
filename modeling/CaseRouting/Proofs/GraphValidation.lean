import CaseRouting.Proofs.GraphImage

/-!
# Which definitions become graphs

A definition becomes a graph exactly when the ids of its nodes are distinct, the ids of its flows
are distinct, every flow joins two of its nodes and no node has several default flows. Any other
definition is refused with its first violation: that of the first node that repeats an id, else that
of the first flow that repeats an id or has an unknown end, else that of the first node with several
default flows.
-/

namespace CaseRouting

open OrderedCheck

/-- Flows with distinct ids between nodes with the given ids, which is what the second pass asks of
them. -/
structure FlowDefinition.Sound (nodeIds : List String) (flows : List FlowDefinition) : Prop where
  /-- No two flows have the same id. -/
  ids_nodup : (flows.map FlowDefinition.id).Nodup
  /-- Every flow has known ends. -/
  ends_known : ∀ flow ∈ flows, flow.source ∈ nodeIds ∧ flow.target ∈ nodeIds

namespace ProcessDefinition

/-- A definition that describes a graph. The four conditions say nothing of any order and of how a
graph is made. -/
structure WellFormed (definition : ProcessDefinition) : Prop where
  /-- No two nodes have the same id. -/
  nodeIds_nodup : definition.nodeIds.Nodup
  /-- No two flows have the same id. -/
  flowIds_nodup : definition.flowIds.Nodup
  /-- Every flow joins two nodes of the definition. -/
  ends_known : ∀ flow ∈ definition.flows,
    flow.source ∈ definition.nodeIds ∧ flow.target ∈ definition.nodeIds
  /-- No node is the source of two default flows. -/
  default_unique : ∀ node ∈ definition.nodes, (definition.defaultsFrom node.id).length ≤ 1

/-- The violation that is reported of a definition that describes no graph. Each case says that
everything in front of it, in the order of the passes, is as it should be. -/
inductive FirstViolation (definition : ProcessDefinition) : GraphError → Prop where
  /-- The first node that repeats the id of an earlier one. -/
  | duplicateNode {before after : List NodeDefinition} {node : NodeDefinition}
      (split : definition.nodes = before ++ node :: after)
      (distinct : (before.map NodeDefinition.id).Nodup)
      (repeated : node.id ∈ before.map NodeDefinition.id) :
      FirstViolation definition (.duplicateNode node.id)
  /-- The first flow with a violation repeats the id of an earlier one. -/
  | duplicateFlow {before after : List FlowDefinition} {flow : FlowDefinition}
      (nodes : definition.nodeIds.Nodup) (split : definition.flows = before ++ flow :: after)
      (sound : FlowDefinition.Sound definition.nodeIds before)
      (repeated : flow.id ∈ before.map FlowDefinition.id) :
      FirstViolation definition (.duplicateFlow flow.id)
  /-- The first flow with a violation leaves an unknown node. -/
  | unknownSource {before after : List FlowDefinition} {flow : FlowDefinition}
      (nodes : definition.nodeIds.Nodup) (split : definition.flows = before ++ flow :: after)
      (sound : FlowDefinition.Sound definition.nodeIds before)
      (fresh : flow.id ∉ before.map FlowDefinition.id)
      (unknown : flow.source ∉ definition.nodeIds) :
      FirstViolation definition (.danglingFlow flow.id flow.source)
  /-- The first flow with a violation leaves a known node and enters an unknown one. -/
  | unknownTarget {before after : List FlowDefinition} {flow : FlowDefinition}
      (nodes : definition.nodeIds.Nodup) (split : definition.flows = before ++ flow :: after)
      (sound : FlowDefinition.Sound definition.nodeIds before)
      (fresh : flow.id ∉ before.map FlowDefinition.id)
      (known : flow.source ∈ definition.nodeIds)
      (unknown : flow.target ∉ definition.nodeIds) :
      FirstViolation definition (.danglingFlow flow.id flow.target)
  /-- The first node with several default flows. -/
  | multipleDefaults {before after : List NodeDefinition} {node : NodeDefinition}
      (nodes : definition.nodeIds.Nodup)
      (sound : FlowDefinition.Sound definition.nodeIds definition.flows)
      (split : definition.nodes = before ++ node :: after)
      (single : ∀ earlier ∈ before, (definition.defaultsFrom earlier.id).length ≤ 1)
      (several : 1 < (definition.defaultsFrom node.id).length) :
      FirstViolation definition
        (.multipleDefaults node.id ((definition.defaultsFrom node.id).map FlowDefinition.id))

/-- The nodes pass exactly when their ids are distinct, for each is checked against those before
it. -/
theorem nodeFailures_eq_none_iff {nodes : List NodeDefinition} :
    firstFailure nodeFailure [] nodes = none ↔ (nodes.map NodeDefinition.id).Nodup := by
  rw [firstFailure_eq_none_iff, nodup_keys_iff]
  simp [nodeFailure]

/-- A flow passes exactly when its id is new and both ends are known, whichever of these is looked
at first. -/
theorem flowFailure_eq_none_iff {nodeIds : List String} {before : List FlowDefinition}
    {flow : FlowDefinition} :
    flowFailure nodeIds before flow = none ↔
      flow.id ∉ before.map FlowDefinition.id ∧ flow.source ∈ nodeIds ∧ flow.target ∈ nodeIds := by
  unfold flowFailure
  split
  · next h => simp [h]
  · next hid =>
    split
    · next h => simp [h]
    · next hs =>
      split
      · next h => simp [h]
      · next ht => exact ⟨fun _ => ⟨hid, not_not.mp hs, not_not.mp ht⟩, fun _ => rfl⟩

/-- The flows pass exactly when they are sound, each having been checked against those before it. -/
theorem flowFailures_eq_none_iff {nodeIds : List String} {flows : List FlowDefinition} :
    firstFailure (flowFailure nodeIds) [] flows = none ↔ FlowDefinition.Sound nodeIds flows := by
  rw [firstFailure_eq_none_iff]
  simp only [List.nil_append, flowFailure_eq_none_iff]
  constructor
  · intro h
    refine ⟨nodup_keys_iff.mpr fun before flow after hsplit => (h before flow after hsplit).1, ?_⟩
    intro flow hflow
    obtain ⟨before, after, hsplit⟩ := List.append_of_mem hflow
    exact (h before flow after hsplit).2
  · intro h before flow after hsplit
    have hflow : flow ∈ flows := by rw [hsplit]; exact List.mem_append_right _ List.mem_cons_self
    exact ⟨nodup_keys_iff.mp h.ids_nodup before flow after hsplit, h.ends_known flow hflow⟩

/-- The default flows pass exactly when no node has several, a check in which no node depends on
another. -/
theorem defaultFailures_eq_none_iff {definition : ProcessDefinition}
    {nodes : List NodeDefinition} :
    firstFailure (fun _ => definition.defaultFailure) [] nodes = none ↔
      ∀ node ∈ nodes, (definition.defaultsFrom node.id).length ≤ 1 := by
  have hnode (node : NodeDefinition) : definition.defaultFailure node = none ↔
      (definition.defaultsFrom node.id).length ≤ 1 := by
    unfold defaultFailure
    split <;> simp <;> omega
  rw [firstFailure_eq_none_iff]
  simp only [hnode]
  constructor
  · intro h node hmem
    obtain ⟨before, after, hsplit⟩ := List.append_of_mem hmem
    exact h before node after hsplit
  · intro h before node after hsplit
    exact h node (by rw [hsplit]; exact List.mem_append_right _ List.mem_cons_self)

/-- Nothing fails exactly when the definition describes a graph: the three passes together ask the
four conditions. -/
theorem failure?_eq_none_iff {definition : ProcessDefinition} :
    definition.failure? = none ↔ definition.WellFormed := by
  unfold failure?
  constructor
  · intro h
    split at h
    · cases h
    · next hnodes =>
      split at h
      · cases h
      · next hflows =>
        have hsound := flowFailures_eq_none_iff.mp hflows
        exact ⟨nodeFailures_eq_none_iff.mp hnodes, hsound.ids_nodup, hsound.ends_known,
          defaultFailures_eq_none_iff.mp h⟩
  · intro h
    have hsound : FlowDefinition.Sound definition.nodeIds definition.flows :=
      ⟨h.flowIds_nodup, h.ends_known⟩
    rw [nodeFailures_eq_none_iff.mpr h.nodeIds_nodup]
    dsimp only
    rw [flowFailures_eq_none_iff.mpr hsound]
    exact defaultFailures_eq_none_iff.mpr h.default_unique

/-- A failing flow repeats an id, leaves an unknown node or only enters one, in this order, so that
the failure is one of these only. -/
theorem flowFailure_eq_some_iff {nodeIds : List String} {before : List FlowDefinition}
    {flow : FlowDefinition} {failure : GraphError} :
    flowFailure nodeIds before flow = some failure ↔
      flow.id ∈ before.map FlowDefinition.id ∧ failure = .duplicateFlow flow.id ∨
      flow.id ∉ before.map FlowDefinition.id ∧
        (flow.source ∉ nodeIds ∧ failure = .danglingFlow flow.id flow.source ∨
        flow.source ∈ nodeIds ∧ flow.target ∉ nodeIds ∧
          failure = .danglingFlow flow.id flow.target) := by
  unfold flowFailure
  split
  · next h => simp [h, eq_comm]
  · next hid =>
    split
    · next h => simp [hid, h, eq_comm]
    · next hs =>
      have hknown : flow.source ∈ nodeIds := not_not.mp hs
      split
      · next h => simp [hid, hknown, h, eq_comm]
      · next ht => simp [hid, hknown, not_not.mp ht]

/-- The failure of a definition is its first violation: a pass is entered only if the passes before
it found nothing. -/
theorem failure?_eq_some_iff {definition : ProcessDefinition} {failure : GraphError} :
    definition.failure? = some failure ↔ definition.FirstViolation failure := by
  unfold failure?
  constructor
  · intro h
    split at h
    · next found hnodes =>
      cases h
      obtain ⟨before, node, after, hsplit, hpass, hfail⟩ := firstFailure_eq_some_iff.mp hnodes
      unfold nodeFailure at hfail
      split at hfail
      · next hrepeated =>
        cases hfail
        exact .duplicateNode hsplit (nodeFailures_eq_none_iff.mp hpass) hrepeated
      · cases hfail
    · next hnodes =>
      have hdistinct := nodeFailures_eq_none_iff.mp hnodes
      split at h
      · next found hflows =>
        cases h
        obtain ⟨before, flow, after, hsplit, hpass, hfail⟩ := firstFailure_eq_some_iff.mp hflows
        have hsound := flowFailures_eq_none_iff.mp hpass
        rcases flowFailure_eq_some_iff.mp hfail with
          ⟨hid, rfl⟩ | ⟨hid, ⟨hs, rfl⟩ | ⟨hs, ht, rfl⟩⟩
        · exact .duplicateFlow hdistinct hsplit hsound hid
        · exact .unknownSource hdistinct hsplit hsound hid hs
        · exact .unknownTarget hdistinct hsplit hsound hid hs ht
      · next hflows =>
        obtain ⟨before, node, after, hsplit, hpass, hfail⟩ := firstFailure_eq_some_iff.mp h
        unfold defaultFailure at hfail
        split at hfail
        · next hseveral =>
          cases hfail
          exact .multipleDefaults hdistinct (flowFailures_eq_none_iff.mp hflows) hsplit
            (defaultFailures_eq_none_iff.mp hpass) hseveral
        · cases hfail
  · intro h
    cases h with
    | duplicateNode hsplit hdistinct hrepeated =>
      rw [firstFailure_eq_some_iff.mpr ⟨_, _, _, hsplit, nodeFailures_eq_none_iff.mpr hdistinct,
        if_pos hrepeated⟩]
    | duplicateFlow hnodes hsplit hsound hid =>
      rw [nodeFailures_eq_none_iff.mpr hnodes]
      dsimp only
      rw [firstFailure_eq_some_iff.mpr ⟨_, _, _, hsplit, flowFailures_eq_none_iff.mpr hsound,
        flowFailure_eq_some_iff.mpr (Or.inl ⟨hid, rfl⟩)⟩]
    | unknownSource hnodes hsplit hsound hid hs =>
      rw [nodeFailures_eq_none_iff.mpr hnodes]
      dsimp only
      rw [firstFailure_eq_some_iff.mpr ⟨_, _, _, hsplit, flowFailures_eq_none_iff.mpr hsound,
        flowFailure_eq_some_iff.mpr (Or.inr ⟨hid, Or.inl ⟨hs, rfl⟩⟩)⟩]
    | unknownTarget hnodes hsplit hsound hid hs ht =>
      rw [nodeFailures_eq_none_iff.mpr hnodes]
      dsimp only
      rw [firstFailure_eq_some_iff.mpr ⟨_, _, _, hsplit, flowFailures_eq_none_iff.mpr hsound,
        flowFailure_eq_some_iff.mpr (Or.inr ⟨hid, Or.inr ⟨hs, ht, rfl⟩⟩)⟩]
    | multipleDefaults hnodes hsound hsplit hsingle hseveral =>
      rw [nodeFailures_eq_none_iff.mpr hnodes]
      dsimp only
      rw [flowFailures_eq_none_iff.mpr hsound]
      exact firstFailure_eq_some_iff.mpr ⟨_, _, _, hsplit,
        defaultFailures_eq_none_iff.mpr hsingle, if_pos hseveral⟩

end ProcessDefinition

namespace ProcessGraph

open ProcessDefinition

/-- Assembling a graph reports the failure of the nodes, else that of the flows, or gives the image.
Both loops keep the graph the image of what they have taken. -/
theorem assemble_eq (definition : ProcessDefinition) :
    assemble definition =
      match firstFailure nodeFailure [] definition.nodes with
      | some failure => .error failure
      | none => outcome (firstFailure (flowFailure definition.nodeIds) [] definition.flows)
          definition.image := by
  have hnodes : definition.nodes.foldlM addNode (empty definition.processId definition.name) =
      outcome (firstFailure nodeFailure [] definition.nodes)
        { definition with flows := [] }.image :=
    foldlM_of_check (fun nodes => { definition with nodes := nodes, flows := [] }.image)
      (addNode_image definition) [] definition.nodes
  have hflows : definition.flows.foldlM addFlow { definition with flows := [] }.image =
      outcome (firstFailure (flowFailure definition.nodeIds) [] definition.flows)
        definition.image :=
    foldlM_of_check (fun flows => { definition with flows := flows }.image)
      (addFlow_image definition) [] definition.flows
  unfold assemble
  rw [hnodes]
  cases firstFailure nodeFailure [] definition.nodes with
  | some failure => rfl
  | none => exact hflows

/-- Building a graph finds every key, and reports the failure of the definition or gives its image,
for the check of default flows indexes the image. -/
theorem tryBuild_eq (definition : ProcessDefinition) :
    tryBuild definition = .ok (outcome definition.failure? definition.image) := by
  unfold tryBuild failure?
  rw [assemble_eq]
  cases hn : firstFailure nodeFailure [] definition.nodes with
  | some failure => rfl
  | none =>
    dsimp only
    cases hf : firstFailure (flowFailure definition.nodeIds) [] definition.flows with
    | some failure => rfl
    | none =>
      have hchecked := checkDefaults_image (nodeFailures_eq_none_iff.mp hn)
        (flowFailures_eq_none_iff.mp hf).ids_nodup [] fun node hnode => hnode
      dsimp only [outcome_none]
      rw [show definition.image.nodeOrder = definition.nodes.map NodeDefinition.id from rfl,
        hchecked]
      cases firstFailure (fun _ => definition.defaultFailure) [] definition.nodes <;> rfl

/-- Building a graph reports the failure of the definition or gives its image, so that no step of
the passes has to be looked at again. -/
theorem build_eq (definition : ProcessDefinition) :
    build definition = outcome definition.failure? definition.image := by
  have hsame := (tryBuild_eq_build definition).symm.trans (tryBuild_eq definition)
  exact Except.ok.inj hsame

/-- A graph is built exactly from a definition that describes it, and it is the image of the
definition. -/
theorem build_eq_ok_iff {definition : ProcessDefinition} {graph : ProcessGraph} :
    build definition = .ok graph ↔ definition.WellFormed ∧ graph = definition.image := by
  rw [build_eq, ← failure?_eq_none_iff]
  cases definition.failure? with
  | none => simp [eq_comm]
  | some failure => simp

/-- A definition is accepted exactly when it describes a graph, and refused exactly with its first
violation. Of the violations that a definition may have, the error is thus the first in the order of
the passes. -/
theorem build_decides_wellFormed (definition : ProcessDefinition) :
    ((∃ graph, build definition = .ok graph) ↔ definition.WellFormed) ∧
      ∀ error, build definition = .error error ↔ definition.FirstViolation error := by
  constructor
  · simp [build_eq_ok_iff]
  · intro error
    rw [← failure?_eq_some_iff, build_eq]
    cases definition.failure? with
    | none => simp
    | some failure => simp

end ProcessGraph

end CaseRouting
