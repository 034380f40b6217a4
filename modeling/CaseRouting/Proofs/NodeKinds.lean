import CaseRouting.Proofs.NextCommand

/-!
# The nodes of a graph by their kinds

A graph lists its start events, tasks, gateways and end events, and says of an id whether it is of
one of these kinds. The four lists hold every node of the definition once, each in definition order,
and their lengths add up to the number of nodes that an inspection prints. The lists decide what is
said of an id, and only tasks have details.
-/

namespace CaseRouting

open OrderedCheck

/-- Whether a node is of a kind, asked for the four kinds by one function. -/
def KindTag.isKindOf : KindTag → Node → Bool
  | .startEvent => Node.isStartEvent
  | .task => Node.isTask
  | .gateway => Node.isGateway
  | .endEvent => Node.isEndEvent

/-- A node is of one kind, that of its own, so that the four questions are one question about the
kind. -/
theorem KindTag.isKindOf_eq (tag : KindTag) (node : Node) :
    tag.isKindOf node = decide (node.kind.tag = tag) := by
  cases tag <;> cases hkind : node.kind <;>
    simp [isKindOf, Node.isStartEvent, Node.isTask, Node.isGateway, Node.isEndEvent, NodeKind.tag,
      hkind]

namespace ProcessGraph

/-- The ids that a graph lists for a kind, so that the four lists can be spoken of together. -/
def idsOfKind (graph : ProcessGraph) : KindTag → List String
  | .startEvent => graph.startEventIds
  | .task => graph.taskIds
  | .gateway => graph.gatewayIds
  | .endEvent => graph.endEventIds

/-- Whether a graph says of an id that it is of a kind, in the same way for all four. -/
def isOfKind (graph : ProcessGraph) : KindTag → String → Bool
  | .startEvent => graph.isStartEvent
  | .task => graph.isTask
  | .gateway => graph.isGateway
  | .endEvent => graph.isEndEvent

/-- A graph that sorts the nodes of a definition by their kinds, in its lists and in what it says of
ids. -/
structure SortsNodes (graph : ProcessGraph) (definition : ProcessDefinition) : Prop where
  /-- For each kind the nodes of this kind are listed, in definition order. -/
  idsOfKind_eq : ∀ tag, graph.idsOfKind tag =
    (definition.nodes.filter fun node => node.kind.tag = tag).map NodeDefinition.id
  /-- Every node is listed once, and for one kind only. -/
  listed_once : ∀ id ∈ definition.nodeIds, ∃ tag, ∀ other,
    (graph.idsOfKind other).count id = if other = tag then 1 else 0
  /-- Together the lists hold the ids of the definition and nothing else. -/
  listed_perm : (graph.startEventIds ++ graph.taskIds ++ graph.gatewayIds ++
    graph.endEventIds).Perm definition.nodeIds
  /-- A graph says of an id that it is of a kind if the id is listed for the kind. -/
  isOfKind_iff : ∀ tag id, graph.isOfKind tag id = true ↔ id ∈ graph.idsOfKind tag
  /-- No id is of two kinds. -/
  isOfKind_unique : ∀ id tag other, graph.isOfKind tag id = true →
    graph.isOfKind other id = true → tag = other
  /-- An id that the definition does not have is of no kind. -/
  isOfKind_unknown : ∀ id, id ∉ definition.nodeIds → ∀ tag, graph.isOfKind tag id = false
  /-- The tasks are the nodes that have details. -/
  isSome_taskDetails? : ∀ id, (graph.taskDetails? id).isSome = graph.isTask id
  /-- The details of a task are those of the definition. -/
  taskDetails?_eq_some_iff : ∀ id details, graph.taskDetails? id = some details ↔
    ∃ node ∈ definition.nodes, node.id = id ∧ node.kind = .task details

variable {graph : ProcessGraph}

/-- The ids that are listed for a kind are those of the nodes of this kind, in their order. -/
theorem idsOfKind_eq_idsWhere (tag : KindTag) :
    graph.idsOfKind tag = graph.idsWhere tag.isKindOf := by
  cases tag <;> rfl

/-- An id is of a kind if the node with this id is, and of none if there is no such node. -/
theorem isOfKind_eq_nodeHas (tag : KindTag) (id : String) :
    graph.isOfKind tag id = graph.nodeHas tag.isKindOf id := by
  cases tag <;> rfl

/-- An id is of the kind that the node with this id has, and of no other, since a node has one
kind. -/
theorem isOfKind_eq_true_iff {tag : KindTag} {id : String} :
    graph.isOfKind tag id = true ↔ ∃ node, graph.node? id = some node ∧ node.kind.tag = tag := by
  simp only [isOfKind_eq_nodeHas, nodeHas, Option.any_eq_true, KindTag.isKindOf_eq,
    decide_eq_true_eq]

/-- Where look-ups find the listed nodes and no others, the node with an id has a property if the id
is listed for it. -/
theorem nodeHas_eq_true_iff
    (hfound : ∀ id node, graph.node? id = some node ↔ node ∈ graph.nodes ∧ node.id = id)
    {property : Node → Bool} {id : String} :
    graph.nodeHas property id = true ↔ id ∈ graph.idsWhere property := by
  rw [nodeHas, Option.any_eq_true, idsWhere, List.mem_map]
  refine exists_congr fun node => ?_
  rw [List.mem_filter, hfound]
  exact and_right_comm

/-- A node has details if it is a task, and an id that no node has is answered with no both
times. -/
theorem isSome_taskDetails?_eq (graph : ProcessGraph) (id : String) :
    (graph.taskDetails? id).isSome = graph.isTask id := by
  rw [taskDetails?, isTask, nodeHas]
  cases graph.node? id with
  | none => rfl
  | some node =>
    rw [Option.bind_some, Option.any_some, Node.taskDetails?, Node.isTask]
    cases node.kind <;> rfl

end ProcessGraph

namespace ProcessDefinition

variable {definition : ProcessDefinition}

/-- With distinct ids, the image lists the nodes of a kind as the definition has them, in its
order. -/
theorem idsOfKind_image (hids : definition.nodeIds.Nodup) (tag : KindTag) :
    definition.image.idsOfKind tag =
      (definition.nodes.filter fun node => node.kind.tag = tag).map NodeDefinition.id := by
  rw [ProcessGraph.idsOfKind_eq_idsWhere, ProcessGraph.idsWhere, funext tag.isKindOf_eq,
    nodes_image hids, List.filter_map, List.map_map]
  rfl

/-- With distinct ids, every node is listed once, for its own kind, and not at all for another
one. -/
theorem count_idsOfKind_image (hids : definition.nodeIds.Nodup) {node : NodeDefinition}
    (hnode : node ∈ definition.nodes) (tag : KindTag) :
    (definition.image.idsOfKind tag).count node.id = if tag = node.kind.tag then 1 else 0 := by
  rw [idsOfKind_image hids, count_key_filter hids hnode]
  simp only [decide_eq_true_eq, eq_comm (a := tag)]

/-- With distinct ids, the image lists no id that the definition does not have, whatever the
kind. -/
theorem mem_of_mem_idsOfKind_image (hids : definition.nodeIds.Nodup) {tag : KindTag} {id : String}
    (hid : id ∈ definition.image.idsOfKind tag) : id ∈ definition.nodeIds := by
  rw [idsOfKind_image hids] at hid
  exact (List.filter_sublist.map NodeDefinition.id).subset hid

/-- With distinct ids, the four lists of the image together are the ids of the definition: none is
lost and none comes twice. -/
theorem listed_perm_image (hids : definition.nodeIds.Nodup) :
    (definition.image.startEventIds ++ definition.image.taskIds ++ definition.image.gatewayIds ++
      definition.image.endEventIds).Perm definition.nodeIds := by
  rw [List.perm_iff_count]
  intro id
  have hcounts : (definition.image.startEventIds ++ definition.image.taskIds ++
      definition.image.gatewayIds ++ definition.image.endEventIds).count id =
      (definition.image.idsOfKind .startEvent).count id +
        (definition.image.idsOfKind .task).count id +
        (definition.image.idsOfKind .gateway).count id +
        (definition.image.idsOfKind .endEvent).count id := by
    rw [List.count_append, List.count_append, List.count_append]
    rfl
  rw [hcounts]
  by_cases hid : id ∈ definition.nodeIds
  · obtain ⟨node, hnode, rfl⟩ := List.mem_map.mp hid
    rw [List.count_eq_one_of_mem hids hid, count_idsOfKind_image hids hnode,
      count_idsOfKind_image hids hnode, count_idsOfKind_image hids hnode,
      count_idsOfKind_image hids hnode]
    cases node.kind.tag <;> rfl
  · have hnone (tag : KindTag) : (definition.image.idsOfKind tag).count id = 0 :=
      List.count_eq_zero_of_not_mem fun hmem => hid (mem_of_mem_idsOfKind_image hids hmem)
    rw [hnone, hnone, hnone, hnone, List.count_eq_zero_of_not_mem hid]

/-- With distinct ids, the details of a task of the image are those of the definition, found by its
id. -/
theorem taskDetails?_image_eq_some_iff (hids : definition.nodeIds.Nodup) {id : String}
    {details : TaskDetails} :
    definition.image.taskDetails? id = some details ↔
      ∃ node ∈ definition.nodes, node.id = id ∧ node.kind = .task details := by
  have hdetails (node : NodeDefinition) :
      (definition.imageNode node).taskDetails? = some details ↔ node.kind = .task details := by
    rw [Node.taskDetails?, imageNode]
    cases node.kind <;> simp
  rw [ProcessGraph.taskDetails?, node?_image, Option.bind_map, Option.bind_eq_some_iff]
  refine exists_congr fun node => ?_
  rw [find?_key_eq_some_iff hids, Function.comp_apply, hdetails, and_assoc]

end ProcessDefinition

namespace ProcessGraph

open ProcessDefinition

/-- A built graph sorts the nodes of its definition by their kinds, because it is the image and has
distinct ids. -/
theorem sortsNodes_of_build {definition : ProcessDefinition} {graph : ProcessGraph}
    (hbuild : build definition = .ok graph) : graph.SortsNodes definition := by
  obtain ⟨hwell, rfl⟩ := build_eq_ok_iff.mp hbuild
  have hids := hwell.nodeIds_nodup
  have his (tag : KindTag) (id : String) : definition.image.isOfKind tag id = true ↔
      id ∈ definition.image.idsOfKind tag := by
    rw [isOfKind_eq_nodeHas, idsOfKind_eq_idsWhere,
      nodeHas_eq_true_iff fun _ _ => node?_image_eq_some_iff hids]
  have honce (id : String) (hid : id ∈ definition.nodeIds) : ∃ tag, ∀ other,
      (definition.image.idsOfKind other).count id = if other = tag then 1 else 0 := by
    obtain ⟨node, hnode, rfl⟩ := List.mem_map.mp hid
    exact ⟨node.kind.tag, count_idsOfKind_image hids hnode⟩
  exact {
    idsOfKind_eq := idsOfKind_image hids
    listed_once := honce
    listed_perm := listed_perm_image hids
    isOfKind_iff := his
    isOfKind_unique := fun id tag other h hother => by
      obtain ⟨node, hfound, rfl⟩ := isOfKind_eq_true_iff.mp h
      obtain ⟨same, hsame, rfl⟩ := isOfKind_eq_true_iff.mp hother
      rw [Option.some.inj (hfound.symm.trans hsame)]
    isOfKind_unknown := fun id hid tag => by
      rw [Bool.eq_false_iff, ne_eq, his]
      exact fun h => hid (mem_of_mem_idsOfKind_image hids h)
    isSome_taskDetails? := isSome_taskDetails?_eq _
    taskDetails?_eq_some_iff := fun id details => taskDetails?_image_eq_some_iff hids }

end ProcessGraph

namespace CommandLine

/-- The lines with which the inspection of a definition begins: the id of the process and, if it has
one, its name. -/
def heading (definition : ProcessDefinition) : String :=
  "process: " ++ definition.processId ++ "\n" ++
    match definition.name with
    | some name => "name: " ++ name ++ "\n"
    | none => ""

/-- The number of ids that a graph lists for the four kinds, which is not how the program counts its
nodes. -/
def listedCount (graph : ProcessGraph) : Nat :=
  graph.startEventIds.length + graph.taskIds.length + graph.gatewayIds.length +
    graph.endEventIds.length

/-- In a graph that sorts the nodes of a definition, as many ids are listed as there are nodes, for
each is listed once. -/
theorem listedCount_eq {definition : ProcessDefinition} {graph : ProcessGraph}
    (h : graph.SortsNodes definition) : listedCount graph = definition.nodes.length := by
  have hlength := h.listed_perm.length_eq
  rw [List.length_append, List.length_append, List.length_append, ProcessDefinition.nodeIds,
    List.length_map] at hlength
  exact hlength

/-- Behind the heading, an inspection prints the number of nodes. What follows that is left open
here. -/
theorem stdout_inspect {input : RunInput} {path : String} {arguments : List String}
    {definition : ProcessDefinition} {graph : ProcessGraph}
    (hrequest : Request.ofArguments arguments = .ok (.inspect path))
    (hload : ProcessDefinition.load input.files path = .ok definition)
    (hbuild : ProcessGraph.build definition = .ok graph) :
    ∃ rest, (run input arguments).stdout =
      heading definition ++ "nodes: " ++ Json.count definition.nodes.length ++ ", flows: " ++
        rest := by
  obtain ⟨hwell, rfl⟩ := ProcessGraph.build_eq_ok_iff.mp hbuild
  have hlength : definition.image.nodes.length = definition.nodes.length := by
    rw [ProcessDefinition.nodes_image hwell.nodeIds_nodup, List.length_map]
  have hrun : (run input arguments).stdout = inspection definition.image := by
    rw [run, hrequest]
    dsimp only
    rw [inspectText, loadGraph_of_build hload hbuild]
    rfl
  have hname : definition.image.name = definition.name := rfl
  rw [hrun]
  unfold inspection heading
  rw [hlength, hname]
  simp only [String.append_assoc]
  cases definition.name with
  | none => exact ⟨_, rfl⟩
  | some name => exact ⟨_, rfl⟩

end CommandLine

namespace ProcessGraph

open CommandLine

/-- A built graph sorts the nodes of its definition by their kinds. The program prints the sum of
the lengths of its four lists as the number of nodes when the definition is inspected. -/
theorem build_sorts_nodes {definition : ProcessDefinition} {graph : ProcessGraph}
    (hbuild : build definition = .ok graph) :
    graph.SortsNodes definition ∧
      ∀ input path arguments, Request.ofArguments arguments = .ok (.inspect path) →
        ProcessDefinition.load input.files path = .ok definition →
        ∃ rest, (run input arguments).stdout =
          heading definition ++ "nodes: " ++ Json.count (listedCount graph) ++ ", flows: " ++
            rest := by
  have hsorts := sortsNodes_of_build hbuild
  refine ⟨hsorts, fun input path arguments hrequest hload => ?_⟩
  rw [listedCount_eq hsorts]
  exact stdout_inspect hrequest hload hbuild

/-- The process of requests has two gateways and two tasks among its six nodes. -/
theorem build_sorts_nodes_requestProcess :
    build requestProcess = .ok requestProcess.image ∧
      requestProcess.image.SortsNodes requestProcess ∧
      requestProcess.image.taskDetails? "File" = some ⟨some "data", []⟩ ∧
      ∃ rest, (run requestInput ["inspect", "request.json"]).stdout =
        "process: request\nnodes: 6, flows: " ++ rest := by
  have hbuild : build requestProcess = .ok requestProcess.image := rfl
  obtain ⟨hsorts, hprinted⟩ := build_sorts_nodes hbuild
  have hrequest : Request.ofArguments ["inspect", "request.json"] =
      .ok (.inspect "request.json") := by decide
  have hbeginning : heading requestProcess ++ "nodes: " ++
      Json.count (listedCount requestProcess.image) ++ ", flows: " =
        "process: request\nnodes: 6, flows: " := by decide
  obtain ⟨rest, hrest⟩ := hprinted _ _ _ hrequest (load_requestInput (by decide))
  rw [hbeginning] at hrest
  refine ⟨hbuild, hsorts, ?_, rest, hrest⟩
  rw [hsorts.taskDetails?_eq_some_iff]
  exact ⟨.task "File" "data", by simp [requestProcess], rfl, rfl⟩

end ProcessGraph

end CaseRouting
