import CaseRouting.Definition.Written
import CaseRouting.Graph.Written
import CaseRouting.Proofs.DefinitionReading
import CaseRouting.Proofs.GraphFidelity
import CaseRouting.Proofs.JsonWriting

/-!
# Definitions read back

What a definition is written as encodes it, however much of it is left out, and so does what the
graph of a definition is written as, where nothing is left out and the ids of flows are added to the
nodes. Reading either text gives the definition back.
-/

namespace CaseRouting

open Json

namespace Json

/-- A value without numbers that is nested at most so deep and in which no key comes twice. -/
inductive Plain : Nat → Json → Prop
  | null {depth : Nat} : Plain depth .null
  | boolean {depth : Nat} (b : Bool) : Plain depth (.boolean b)
  | text {depth : Nat} (s : String) : Plain depth (.text s)
  | list {depth : Nat} {items : List Json} (h : ∀ v ∈ items, Plain depth v) :
      Plain (depth + 1) (.list items)
  | object {depth : Nat} {members : List (String × Json)}
      (hkeys : (members.map Prod.fst).Nodup) (h : ∀ m ∈ members, Plain depth m.2) :
      Plain (depth + 1) (.object members)

namespace Plain

variable {depth : Nat} {v : Json}

/-- The depth of a plain value is bounded by the depth it is plain at. -/
theorem depth_le (h : Plain depth v) : v.depth ≤ depth := by
  induction h with
  | list h ih => exact depth_list_le_iff.mpr ih
  | object hkeys h ih => exact depth_object_le_iff.mpr ih
  | _ => exact Nat.zero_le _

/-- No key comes twice in a plain value, at any depth. -/
theorem distinctKeys (h : Plain depth v) : DistinctKeys v := by
  induction h with
  | list h ih =>
    rintro members (_ | ⟨hv, hmembers⟩)
    exact ih _ hv members hmembers
  | object hkeys h ih =>
    rintro members (_ | _ | ⟨hm, hmembers⟩)
    · exact hkeys
    · exact ih _ hm members hmembers
  | _ => rintro members ⟨⟩

/-- No number stands in a plain value, so that nothing has to be known about how numbers are
spelled. -/
theorem not_within_number (h : Plain depth v) (n : Number) : ¬ Within (.number n) v := by
  induction h with
  | list h ih =>
    rintro (_ | ⟨hv, hn⟩)
    exact ih _ hv hn
  | object hkeys h ih =>
    rintro (_ | _ | ⟨hm, hn⟩)
    exact ih _ hm hn
  | _ => rintro ⟨⟩

/-- The compact text of a plain value says the value. -/
theorem says_compact (h : Plain depth v) : Says v.compact v :=
  Json.says_compact fun n hn => absurd hn (h.not_within_number n)

/-- A list of texts is plain, with one bracket of its own. -/
theorem texts (ts : List String) : Plain (depth + 1) (Json.texts ts) := by
  refine .list fun v hv => ?_
  obtain ⟨t, -, rfl⟩ := List.mem_map.mp hv
  exact .text t

/-- A text or null is plain, without any bracket. -/
theorem optionalText (s? : Option String) : Plain depth (Json.optionalText s?) := by
  cases s? with
  | none => exact .null
  | some s => exact .text s

end Plain

end Json

/-- A text or null means the text or none, as it is written in a graph. -/
theorem nullableText_optionalText (s? : Option String) :
    NullableText (Json.optionalText s?) s? := by
  cases s? with
  | none => exact .null
  | some s => exact .text s

/-- A value that is written for another one is plain and has its meaning, so that its text is read
as that other value. -/
structure Writes {α : Type} (depth : Nat) (means : Json → α → Prop) (v : Json) (a : α) : Prop where
  plain : Plain depth v
  means : means v a

/-- Values that are written one by one are written as a list, with one bracket more. -/
theorem Writes.list {α : Type} {depth : Nat} {means : Json → α → Prop} {write : α → Json}
    (h : ∀ a, Writes depth means (write a) a) (as : List α) :
    Writes (depth + 1) (Lists means) (.list (as.map write)) as where
  plain := by
    refine .list fun v hv => ?_
    obtain ⟨a, -, rfl⟩ := List.mem_map.mp hv
    exact (h a).plain
  means := .list (List.forall₂_map_left_iff.mpr (List.forall₂_same.mpr fun a _ => (h a).means))

section Flows

/-- A flow of a definition is written, whatever of it is left out. -/
theorem writes_flowDefinition (flow : FlowDefinition) (depth : Nat) :
    Writes (depth + 1) EncodesFlow flow.toJson flow := by
  obtain ⟨id, source, target, isDefault, condition⟩ := flow
  refine ⟨.object ?_ ?_, _, .object _, ⟨by simp, by simp, by simp, ?_, ?_⟩⟩
  · cases isDefault <;> cases condition <;> simp [optionalMember]
  · cases isDefault <;> cases condition <;> simp [optionalMember, Plain.text, Plain.boolean]
  · cases isDefault with
    | false => exact .missing (by cases condition <;> simp [optionalMember])
    | true => exact .given (by simp) rfl
  · cases condition with
    | none => exact .missing (by cases isDefault <;> simp [optionalMember])
    | some condition => exact .given (by simp [optionalMember]) (.text condition)

/-- A flow of a graph is written as the flow of the definition that it stands for, with nothing left
out. -/
theorem writes_sequenceFlow (flow : FlowDefinition) (depth : Nat) :
    Writes (depth + 1) EncodesFlow flow.toFlow.toJson flow := by
  refine ⟨.object (by simp) ?_, _, .object _, ⟨by simp [FlowDefinition.toFlow],
    by simp [FlowDefinition.toFlow], by simp [FlowDefinition.toFlow],
    .given (by simp [FlowDefinition.toFlow]) rfl,
    .given (by simp [FlowDefinition.toFlow]) (nullableText_optionalText flow.condition)⟩⟩
  simp [Plain.text, Plain.boolean, Plain.optionalText]

end Flows

section Nodes

/-- Members that tell a kind have no other keys, each at most once, and plain values. -/
structure WritesKind (ms : List (String × Json)) (kind : NodeKind) : Prop where
  keys : (ms.map Prod.fst).Sublist ["type", "task_type", "actions"]
  plain : ∀ m ∈ ms, Plain 1 m.2
  members : KindMembers ms kind

/-- Members that tell a kind are none of the node's own, so that the two kinds of members do not
clash in one object. -/
theorem WritesKind.key_not_own {ms : List (String × Json)} {kind : NodeKind}
    (h : WritesKind ms kind) {m : String × Json} (hm : m ∈ ms) : m.1 ∉ ["id", "name"] := by
  have hkey : m.1 ∈ ["type", "task_type", "actions"] := h.keys.subset (List.mem_map_of_mem hm)
  have hapart : ∀ key ∈ ["type", "task_type", "actions"], key ∉ ["id", "name"] := by decide
  exact hapart m.1 hkey

/-- Members that tell a kind tell it when they have been collected, which is how a reader of nodes
comes to it. -/
theorem WritesKind.ofCollected {ms : List (String × Json)} {kind : NodeKind}
    (h : WritesKind ms kind) :
    NodeKind.ofCollected (ms.map fun m => (m.1, m.2.canonical)) = .ok kind := by
  have hkeys : (ms.map Prod.fst).Nodup :=
    (show ["type", "task_type", "actions"].Nodup by decide).sublist h.keys
  have hall : (ms.filter fun m => m.1 ∉ ["id", "name"]) = ms :=
    List.filter_eq_self.mpr fun m hm => decide_eq_true (h.key_not_own hm)
  have hcollected := (ofCollected_eq_ok_iff hkeys).mpr h.members
  rwa [collectedMembers, hall] at hcollected

/-- The name of a kind tells it, which is how the type is always written. -/
theorem tellsKind_name (kind : NodeKind) : TellsKind (.text kind.name) kind.name :=
  .name (kind.tag_name ▸ kind.tag.name_mem)

/-- A kind is written in a definition, where what is absent or empty is left out. -/
theorem writesKind_definitionMembers (kind : NodeKind) :
    WritesKind kind.definitionMembers kind := by
  refine ⟨?_, ?_, ⟨_, List.mem_cons_self, tellsKind_name kind⟩, ?_⟩
  · cases kind with
    | task details =>
      obtain ⟨taskType, actions⟩ := details
      cases taskType <;> cases actions <;> simp [optionalMember, NodeKind.definitionMembers]
    | _ => simp [NodeKind.definitionMembers]
  · cases kind with
    | task details =>
      obtain ⟨taskType, actions⟩ := details
      cases taskType <;> cases actions <;>
        simp [optionalMember, NodeKind.definitionMembers, Plain.text, Plain.texts]
    | _ => simp [NodeKind.definitionMembers, Plain.text]
  · rintro ⟨taskType, actions⟩ rfl
    constructor
    · cases taskType with
      | none =>
        exact .missing (by cases actions <;> simp [optionalMember, NodeKind.definitionMembers])
      | some taskType =>
        exact .given (by simp [optionalMember, NodeKind.definitionMembers]) (.text taskType)
    · cases actions with
      | nil =>
        exact .missing (by cases taskType <;> simp [optionalMember, NodeKind.definitionMembers])
      | cons action actions => exact .given (by simp [NodeKind.definitionMembers]) rfl

/-- A kind is written in a graph, where the actions of a task are written even if there are none. -/
theorem writesKind_members (kind : NodeKind) : WritesKind kind.members kind := by
  refine ⟨?_, ?_, ⟨_, List.mem_cons_self, tellsKind_name kind⟩, ?_⟩
  · cases kind with
    | task details =>
      obtain ⟨taskType, actions⟩ := details
      cases taskType <;> simp [optionalMember, NodeKind.members, TaskDetails.members]
    | _ => simp [NodeKind.members]
  · cases kind with
    | task details =>
      obtain ⟨taskType, actions⟩ := details
      cases taskType <;>
        simp [optionalMember, NodeKind.members, TaskDetails.members, Plain.text, Plain.texts]
    | _ => simp [NodeKind.members, Plain.text]
  · rintro ⟨taskType, actions⟩ rfl
    constructor
    · cases taskType with
      | none => exact .missing (by simp [optionalMember, NodeKind.members, TaskDetails.members])
      | some taskType =>
        exact .given (by simp [optionalMember, NodeKind.members, TaskDetails.members])
          (.text taskType)
    · exact .given (by simp [NodeKind.members, TaskDetails.members]) rfl

/-- A key gives the same wherever the same stands under it, also among more members. -/
theorem Optionally.of_same {α : Type} {ms ns : List (String × Json)} {key : String}
    {means : Json → α → Prop} {default a : α} (h : Optionally ms key means default a)
    (hsame : ∀ v, (key, v) ∈ ns ↔ (key, v) ∈ ms) : Optionally ns key means default a :=
  (optionally_congr (f := id) (by simp [hsame]) fun _ _ => Iff.rfl).mpr h

/-- A node is written as its own members with those that tell its kind behind them. The keys in
front and behind are different, so nothing in front is found behind. -/
theorem writes_node {node : NodeDefinition} {front ms : List (String × Json)}
    (hms : WritesKind ms node.kind)
    (hkeys : (front.map Prod.fst).Sublist ["id", "name", "incoming", "outgoing"])
    (hplain : ∀ m ∈ front, Plain 1 m.2) (hid : ("id", .text node.id) ∈ front)
    (hname : Optionally front "name" NullableText none node.name) :
    Writes 2 EncodesNode (.object (front ++ ms)) node := by
  have hnodup : ((front ++ ms).map Prod.fst).Nodup := by
    have hall :
        (["id", "name", "incoming", "outgoing"] ++ ["type", "task_type", "actions"]).Nodup := by
      decide
    rw [List.map_append]
    exact hall.sublist (hkeys.append hms.keys)
  have hfront {key : String} (hkey : key ∉ ["id", "name", "incoming", "outgoing"]) (v : Json) :
      (key, v) ∉ front := fun hv => hkey (hkeys.subset (List.mem_map_of_mem hv))
  have hbehind {key : String} (hkey : key ∉ ["type", "task_type", "actions"]) (v : Json) :
      (key, v) ∉ ms := fun hv => hkey (hms.keys.subset (List.mem_map_of_mem hv))
  obtain ⟨v, hv, htells⟩ := hms.members.type
  refine ⟨.object hnodup (List.forall_mem_append.mpr ⟨hplain, hms.plain⟩), .object
    ⟨List.mem_append_left ms hid, ?_, ⟨v, List.mem_append_right front hv, htells⟩, ?_⟩⟩
  · exact hname.of_same fun w => by simp [hbehind (show "name" ∉ _ by decide)]
  · intro details hdetails
    have htask := hms.members.details details hdetails
    exact ⟨htask.taskType.of_same fun w => by simp [hfront (show "task_type" ∉ _ by decide)],
      htask.actions.of_same fun w => by simp [hfront (show "actions" ∉ _ by decide)]⟩

/-- A node of a definition is written, whatever of it is left out. -/
theorem writes_nodeDefinition (node : NodeDefinition) :
    Writes 2 EncodesNode node.toJson node := by
  refine writes_node (writesKind_definitionMembers node.kind) ?_ ?_ ?_ ?_
  · cases node.name <;> simp [optionalMember]
  · cases node.name <;> simp [optionalMember, Plain.text]
  · exact List.mem_cons_self
  · cases node.name with
    | none => exact .missing (by simp [optionalMember])
    | some name => exact .given (by simp [optionalMember]) (.text name)

/-- A node of a graph is written as the node of the definition that it stands for. Its lists of
flows are members that nothing is read from. -/
theorem writes_imageNode (definition : ProcessDefinition) (node : NodeDefinition) :
    Writes 2 EncodesNode (definition.imageNode node).toJson node := by
  refine writes_node (writesKind_members node.kind) ?_ ?_ ?_ ?_
  · simp
  · simp [Plain.text, Plain.texts, Plain.optionalText]
  · simp [ProcessDefinition.imageNode]
  · exact .given (by simp [ProcessDefinition.imageNode]) (nullableText_optionalText node.name)

end Nodes

section Processes

/-- A definition is written as its own members and the lists of its nodes and flows, whichever way
these are written. -/
theorem writes_process {definition : ProcessDefinition} {ms : List (String × Json)}
    {nodes flows : Json}
    (hkeys : (ms.map Prod.fst).Sublist ["process_id", "name"])
    (hplain : ∀ m ∈ ms, Plain 3 m.2) (hid : ("process_id", .text definition.processId) ∈ ms)
    (hname : Optionally ms "name" NullableText none definition.name)
    (hnodes : Writes 3 (Lists EncodesNode) nodes definition.nodes)
    (hflows : Writes 3 (Lists EncodesFlow) flows definition.flows) :
    Writes 4 EncodesProcess (.object (ms ++ [("nodes", nodes), ("flows", flows)])) definition := by
  have hnodup : ((ms ++ [("nodes", nodes), ("flows", flows)]).map Prod.fst).Nodup := by
    have hall : (["process_id", "name"] ++ ["nodes", "flows"]).Nodup := by decide
    rw [List.map_append]
    exact hall.sublist (hkeys.append (.refl _))
  refine ⟨.object hnodup ?_, _, .object _, ⟨List.mem_append_left _ hid, ?_, ?_, ?_⟩⟩
  · simpa [or_imp, forall_and, hnodes.plain, hflows.plain] using hplain
  · exact hname.of_same fun v => by simp
  · exact ⟨nodes, by simp, hnodes.means⟩
  · exact .given (by simp) hflows.means

/-- A definition is written, whatever of it is left out. -/
theorem writes_processDefinition (definition : ProcessDefinition) :
    Writes 4 EncodesProcess definition.toJson definition := by
  refine writes_process ?_ ?_ ?_ ?_ (Writes.list writes_nodeDefinition definition.nodes)
    (Writes.list (fun flow => writes_flowDefinition flow 1) definition.flows)
  · cases definition.name <;> simp [optionalMember]
  · cases definition.name <;> simp [optionalMember, Plain.text]
  · exact List.mem_cons_self
  · cases definition.name with
    | none => exact .missing (by simp [optionalMember])
    | some name => exact .given (by simp [optionalMember]) (.text name)

/-- A graph as a definition is: its id and name, and its nodes and flows in order. -/
def ProcessGraph.toJson (graph : ProcessGraph) : Json :=
  .object [("process_id", .text graph.processId), ("name", Json.optionalText graph.name),
    ("nodes", .list (graph.nodes.map Node.toJson)),
    ("flows", .list (graph.flows.map SequenceFlow.toJson))]

/-- The graph of a well-formed definition is written as the definition, with the lists of flows of
its nodes besides. -/
theorem writes_image {definition : ProcessDefinition} (hwell : definition.WellFormed) :
    Writes 4 EncodesProcess definition.image.toJson definition := by
  have hnodes : Writes 3 (Lists EncodesNode) (.list (definition.image.nodes.map Node.toJson))
      definition.nodes := by
    rw [ProcessDefinition.nodes_image hwell.nodeIds_nodup, List.map_map]
    exact Writes.list (writes_imageNode definition) definition.nodes
  have hflows : Writes 3 (Lists EncodesFlow)
      (.list (definition.image.flows.map SequenceFlow.toJson)) definition.flows := by
    rw [ProcessDefinition.flows_image hwell.flowIds_nodup, List.map_map]
    exact Writes.list (fun flow => writes_sequenceFlow flow 1) definition.flows
  have hname := nullableText_optionalText definition.name
  change Writes 4 EncodesProcess (.object
    ([("process_id", .text definition.processId), ("name", optionalText definition.name)] ++
      [("nodes", _), ("flows", _)])) definition
  exact writes_process (by simp) (by simp [Plain.text, Plain.optionalText]) (by simp)
    (.given (by simp) hname) hnodes hflows

/-- The compact text of what is written for a definition is read as the definition. What is written
is nested less deep than the reader allows. -/
theorem ofJsonText_compact {v : Json} {definition : ProcessDefinition}
    (h : Writes 4 EncodesProcess v definition) :
    ProcessDefinition.ofJsonText v.compact = .ok definition := by
  have hdepth : v.depth ≤ maxDepth := Nat.le_trans h.plain.depth_le (by decide)
  rw [ProcessDefinition.ofJsonText_eq_asRecord h.plain.says_compact]
  exact (ProcessDraft.decodes hdepth h.plain.distinctKeys definition).mpr h.means

/-- The text of a definition is read as the definition, whichever strings and lists it holds. -/
theorem ofJsonText_written (definition : ProcessDefinition) :
    ProcessDefinition.ofJsonText definition.toText = .ok definition :=
  ofJsonText_compact (writes_processDefinition definition)

/-- Every definition is read back from its text, so that no two definitions have the same text, and
writing and reading again what has been read changes nothing. -/
theorem ofJsonText_toText :
    (∀ definition : ProcessDefinition,
      ProcessDefinition.ofJsonText definition.toText = .ok definition) ∧
    Function.Injective ProcessDefinition.toText ∧
    ∀ text, ((ProcessDefinition.ofJsonText text).bind fun definition =>
      ProcessDefinition.ofJsonText definition.toText) = ProcessDefinition.ofJsonText text := by
  refine ⟨ofJsonText_written, fun a b hab => ?_, fun text => ?_⟩
  · have hsame := congrArg ProcessDefinition.ofJsonText hab
    rw [ofJsonText_written, ofJsonText_written] at hsame
    exact Except.ok.inj hsame
  · cases ProcessDefinition.ofJsonText text with
    | error e => rfl
    | ok definition => simp only [Except.bind, ofJsonText_written]

/-- A graph written as a definition is read as the definition that it was built from, and building
that gives the graph again. -/
theorem ofJsonText_graph {definition : ProcessDefinition} {graph : ProcessGraph}
    (hbuild : ProcessGraph.build definition = .ok graph) :
    ProcessDefinition.ofJsonText graph.toJson.compact = .ok definition ∧
      ∀ read, ProcessDefinition.ofJsonText graph.toJson.compact = .ok read →
        ProcessGraph.build read = .ok graph := by
  have hread : ProcessDefinition.ofJsonText graph.toJson.compact = .ok definition := by
    obtain ⟨hwell, rfl⟩ := ProcessGraph.build_eq_ok_iff.mp hbuild
    exact ofJsonText_compact (writes_image hwell)
  refine ⟨hread, fun read hagain => ?_⟩
  rw [hread] at hagain
  obtain rfl := Except.ok.inj hagain
  exact hbuild

/-- The graph of the process of requests is read back as that process. -/
theorem ofJsonText_graph_requestProcess :
    ProcessGraph.build requestProcess = .ok requestProcess.image ∧
      ProcessDefinition.ofJsonText requestProcess.image.toJson.compact = .ok requestProcess := by
  have hbuild : ProcessGraph.build requestProcess = .ok requestProcess.image := rfl
  exact ⟨hbuild, (ofJsonText_graph hbuild).1⟩

end Processes

end CaseRouting
