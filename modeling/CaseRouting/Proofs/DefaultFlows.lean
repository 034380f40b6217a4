import CaseRouting.Proofs.LinkedGraph

/-!
# The default flow of a node

A graph gives the first marked flow of a node as its default, whereas a navigation takes a marked
flow by default only if no other flow of the node is marked. On a list of flows the two agree
exactly if at most one flow is marked. While a graph is assembled nothing ensures this; it is the
check of default flows that makes them agree at every node.
-/

namespace CaseRouting

section Lists

variable {flows : List SequenceFlow}

/-- Several marked flows leave a navigation without a default, in contrast to a graph, which then
gives the first. -/
theorem singleDefault?_of_several (h : 1 < (flows.filter fun flow => flow.isDefault).length) :
    singleDefault? flows = none := by
  cases hsingle : singleDefault? flows with
  | none => rfl
  | some flow =>
    rw [singleDefault?_eq_some_iff.mp hsingle, List.length_singleton] at h
    omega

/-- The only marked flow is the first one, and these are the same only if no more are marked;
without any mark both are none. -/
theorem singleDefault?_eq_find?_iff :
    singleDefault? flows = flows.find? (fun flow => flow.isDefault) ↔
      (flows.filter fun flow => flow.isDefault).length ≤ 1 := by
  rw [← List.head?_filter]
  constructor
  · intro hagree
    by_contra hseveral
    rw [singleDefault?_of_several (Nat.lt_of_not_le hseveral), eq_comm, List.head?_eq_none_iff]
      at hagree
    rw [hagree, List.length_nil] at hseveral
    omega
  · intro hlength
    ext flow
    rw [singleDefault?_eq_some_iff]
    generalize (flows.filter fun flow => flow.isDefault) = marked at hlength ⊢
    match marked, hlength with
    | [], _ => simp
    | [only], _ => simp
    | _ :: _ :: _, hlength => simp at hlength

end Lists

namespace ProcessGraph

variable {graph : ProcessGraph}

/-- The check of default flows passes exactly if it finds the default flows of all nodes, and none
of them has several. This holds of any graph, linked or not. -/
theorem checkDefaults_eq_ok_iff {ids : List String} :
    graph.checkDefaults ids = .ok (.ok ()) ↔
      ∀ id ∈ ids, ∃ defaults, graph.defaultIds id = .ok defaults ∧ defaults.length ≤ 1 := by
  induction ids with
  | nil => simp [checkDefaults]
  | cons id ids ih =>
    rw [List.forall_mem_cons, ← ih, checkDefaults]
    cases hdefaults : graph.defaultIds id with
    | error missing =>
      refine iff_of_false (fun h => by cases h) fun h => ?_
      obtain ⟨defaults, hfound, -⟩ := h.1
      cases hfound
    | ok defaults =>
      dsimp only [bind, Except.bind]
      by_cases hsingle : defaults.length ≤ 1
      · rw [if_neg (Nat.not_lt_of_le hsingle)]
        exact (and_iff_right ⟨defaults, rfl, hsingle⟩).symm
      · rw [if_pos (Nat.lt_of_not_le hsingle)]
        refine iff_of_false (fun h => by cases h) fun h => hsingle ?_
        obtain ⟨found, hfound, hlength⟩ := h.1
        rwa [Except.ok.inj hfound]

/-- An assembled graph is built exactly if its default flows pass their check, which is the only
thing left to be done. -/
theorem build_eq_ok_iff_of_assemble {definition : ProcessDefinition}
    (hassemble : assemble definition = .ok graph) :
    build definition = .ok graph ↔ graph.checkDefaults graph.nodeOrder = .ok (.ok ()) := by
  have hbuild := tryBuild_eq_build definition
  unfold tryBuild at hbuild
  rw [hassemble] at hbuild
  dsimp only at hbuild
  obtain ⟨checked, hchecked⟩ :=
    (linked_of_assemble hassemble).exists_checkDefaults fun _ hid => hid
  rw [hchecked] at hbuild ⊢
  rw [← Except.ok.inj hbuild]
  cases checked with
  | error error => exact iff_of_false nofun nofun
  | ok checked => exact iff_of_true rfl rfl

/-- In a linked graph the default flows of a node are the marked flows that leave it, told by their
ids: what the check indexes is what a look-up finds. -/
theorem Linked.defaultIds_eq (h : graph.Linked) {id : String} (hid : id ∈ graph.nodeOrder) :
    graph.defaultIds id =
      .ok (((graph.outgoingFlows id).filter fun flow => flow.isDefault).map SequenceFlow.id) := by
  obtain ⟨node, hnode⟩ := h.exists_indexNode hid
  have hfound := indexNode_eq_ok_iff.mp hnode
  rw [defaultIds, hnode, outgoingFlows, hfound]
  exact markedIds_eq fun flowId hflowId => h.exists_indexFlow
    (h.listed_known node (mem_of_node? hfound).1 flowId (List.mem_append_left _ hflowId))

/-- In a linked graph both notions of a default flow agree at every id exactly if the check of
default flows passes. At an id that no node has there are no flows, and both are none. -/
theorem Linked.defaults_agree_iff (h : graph.Linked) :
    (∀ id, singleDefault? (graph.outgoingFlows id) = graph.defaultFlow? id) ↔
      graph.checkDefaults graph.nodeOrder = .ok (.ok ()) := by
  rw [checkDefaults_eq_ok_iff]
  constructor
  · intro hagree id hid
    refine ⟨_, h.defaultIds_eq hid, ?_⟩
    rw [List.length_map]
    exact singleDefault?_eq_find?_iff.mp (hagree id)
  · intro hsingle id
    cases hfound : graph.node? id with
    | none =>
      rw [defaultFlow?, outgoingFlows, hfound]
      rfl
    | some node =>
      have hid : id ∈ graph.nodeOrder := by
        rw [h.nodeOrder_eq, ← node?_isSome_iff, hfound]
        rfl
      obtain ⟨defaults, hdefaults, hlength⟩ := hsingle id hid
      rw [h.defaultIds_eq hid] at hdefaults
      rw [← Except.ok.inj hdefaults, List.length_map] at hlength
      exact singleDefault?_eq_find?_iff.mpr hlength

/-- At every id of a built graph, known or not, the only marked flow is the first marked one. Of the
graphs that can be assembled those that are built are the only ones of this kind, since lists of
flows with several marks have a first marked flow, but not a single one. -/
theorem default_flows_agree (definition : ProcessDefinition) :
    (∀ graph, build definition = .ok graph → ∀ id,
      singleDefault? (graph.outgoingFlows id) = graph.defaultFlow? id) ∧
    (∀ graph, assemble definition = .ok graph →
      ((∀ id, singleDefault? (graph.outgoingFlows id) = graph.defaultFlow? id) ↔
        build definition = .ok graph)) ∧
    ∀ flows : List SequenceFlow,
      singleDefault? flows = flows.find? (fun flow => flow.isDefault) ↔
        (flows.filter fun flow => flow.isDefault).length ≤ 1 := by
  have hassembled (graph : ProcessGraph) (hassemble : assemble definition = .ok graph) :
      (∀ id, singleDefault? (graph.outgoingFlows id) = graph.defaultFlow? id) ↔
        build definition = .ok graph := by
    rw [(linked_of_assemble hassemble).defaults_agree_iff,
      build_eq_ok_iff_of_assemble hassemble]
  refine ⟨fun graph hbuild => ?_, hassembled, fun flows => singleDefault?_eq_find?_iff⟩
  exact (hassembled graph (assemble_of_build hbuild)).mpr hbuild

/-- The process of requests with a second default at its gateway of checks, put in front of the
flows that it has. -/
def ambiguousProcess : ProcessDefinition :=
  { requestProcess with
    flows := (FlowDefinition.between "reject" "Check" "End").asDefault :: requestProcess.flows }

/-- The gateway of checks has one default flow; a second one would leave it with two notions of
its default, and its process is not built. -/
theorem default_flows_agree_requestProcess :
    build requestProcess = .ok requestProcess.image ∧
      singleDefault? (requestProcess.image.outgoingFlows "Check") =
        some ⟨"pass", "Check", "Route", true, none⟩ ∧
      assemble ambiguousProcess = .ok ambiguousProcess.image ∧
      build ambiguousProcess ≠ .ok ambiguousProcess.image ∧
      ¬ ∀ id, singleDefault? (ambiguousProcess.image.outgoingFlows id) =
        ambiguousProcess.image.defaultFlow? id := by
  have hbuild : build requestProcess = .ok requestProcess.image := rfl
  have hassemble : assemble ambiguousProcess = .ok ambiguousProcess.image := rfl
  have hrefused : build ambiguousProcess ≠ .ok ambiguousProcess.image := by decide
  have hagree := (default_flows_agree requestProcess).1 _ hbuild "Check"
  have hdiffer := (default_flows_agree ambiguousProcess).2.1 _ hassemble
  refine ⟨hbuild, hagree.trans (by decide), hassemble, hrefused, fun h => hrefused (hdiffer.mp h)⟩

end ProcessGraph

end CaseRouting
