import CaseRouting.Proofs.NodeDecoding

/-!
# Written definitions read as YAML

The JSON text of a definition is a YAML text as well. As long as its strings are in characters that
mean the same in both, reading it as YAML gives the definition back, as reading it as JSON does:
between quotation marks no string is taken for anything else, whatever it looks like.
-/

namespace CaseRouting

open Yaml (Flowing IsCommonText IsShortKey)

/-- The strings of a node: its id and name and those of its kind. -/
def NodeDefinition.strings (node : NodeDefinition) : List String :=
  node.id :: (node.name.toList ++ node.kind.strings)

/-- The strings of a flow: its id and ends and its condition. -/
def FlowDefinition.strings (flow : FlowDefinition) : List String :=
  [flow.id, flow.source, flow.target] ++ flow.condition.toList

/-- The strings of a definition: its id and name, and those of its nodes and flows. -/
def ProcessDefinition.strings (definition : ProcessDefinition) : List String :=
  definition.processId :: (definition.name.toList ++
    (definition.nodes.flatMap NodeDefinition.strings ++
      definition.flows.flatMap FlowDefinition.strings))

namespace ProcessDefinition

variable {definition : ProcessDefinition} {s : String}

/-- The name of a definition is one of its strings. -/
theorem mem_strings_of_name (hs : s ∈ definition.name.toList) : s ∈ definition.strings :=
  List.mem_cons_of_mem _ (List.mem_append_left _ hs)

/-- The strings of the nodes of a definition are strings of the definition. -/
theorem mem_strings_of_node {node : NodeDefinition} (hnode : node ∈ definition.nodes)
    (hs : s ∈ node.strings) : s ∈ definition.strings :=
  List.mem_cons_of_mem _ (List.mem_append_right _
    (List.mem_append_left _ (List.mem_flatMap_of_mem hnode hs)))

/-- The strings of the flows of a definition are strings of the definition. -/
theorem mem_strings_of_flow {flow : FlowDefinition} (hflow : flow ∈ definition.flows)
    (hs : s ∈ flow.strings) : s ∈ definition.strings :=
  List.mem_cons_of_mem _ (List.mem_append_right _
    (List.mem_append_right _ (List.mem_flatMap_of_mem hflow hs)))

end ProcessDefinition

section Spreading

/-- A property of values that comes from their keys and strings. It holds of the keys and words that
are always written, and goes on from elements and members to what they stand in. -/
structure Spreads (P : Json → Prop) (K T : String → Prop) : Prop where
  boolean : P (.boolean true)
  text {s : String} (h : T s) : P (.text s)
  list {items : List Json} (hne : items ≠ []) (h : ∀ item ∈ items, P item) : P (.list items)
  object {members : List (String × Json)} (hne : members ≠ [])
    (h : ∀ m ∈ members, K m.1 ∧ P m.2) : P (.object members)
  keys : ∀ k ∈ ["process_id", "nodes", "flows", "id", "name", "type", "task_type", "actions",
    "source", "target", "is_default", "condition"], K k
  kinds (kind : NodeKind) : T kind.name

variable {P : Json → Prop} {K T : String → Prop}

/-- Such a property holds of a member for a text, if there is one. -/
theorem Spreads.optionalMember (h : Spreads P K T) {k : String} {s? : Option String}
    (hkey : K k) (htext : ∀ s ∈ s?.toList, T s) :
    ∀ m ∈ optionalMember k s?, K m.1 ∧ P m.2 := by
  cases s? with
  | none => exact List.forall_mem_nil _
  | some s => exact List.forall_mem_singleton.mpr ⟨hkey, h.text (htext s List.mem_cons_self)⟩

/-- Such a property holds of the members that tell a kind, if it does of the strings of the kind. -/
theorem Spreads.definitionMembers (h : Spreads P K T) {kind : NodeKind}
    (htext : ∀ s ∈ kind.strings, T s) : ∀ m ∈ kind.definitionMembers, K m.1 ∧ P m.2 := by
  refine List.forall_mem_cons.mpr ⟨⟨h.keys _ (by simp), h.text (h.kinds kind)⟩, ?_⟩
  cases kind with
  | task details =>
    obtain ⟨taskType, actions⟩ := details
    obtain ⟨htype, hactions⟩ := List.forall_mem_append.mp htext
    refine List.forall_mem_append.mpr ⟨h.optionalMember (h.keys _ (by simp)) htype, ?_⟩
    cases actions with
    | nil => exact List.forall_mem_nil _
    | cons action actions =>
      refine List.forall_mem_singleton.mpr ⟨h.keys _ (by simp), h.list (List.cons_ne_nil _ _) ?_⟩
      exact List.forall_mem_map.mpr fun t ht => h.text (hactions t ht)
  | _ => exact List.forall_mem_nil _

/-- Such a property holds of what is written for a node, if it does of the strings of the node. -/
theorem Spreads.node (h : Spreads P K T) {node : NodeDefinition}
    (htext : ∀ s ∈ node.strings, T s) : P node.toJson := by
  obtain ⟨hid, htext⟩ := List.forall_mem_cons.mp htext
  obtain ⟨hname, hkind⟩ := List.forall_mem_append.mp htext
  refine h.object (List.cons_ne_nil _ _)
    (List.forall_mem_append.mpr ⟨List.forall_mem_cons.mpr ⟨?_, ?_⟩, ?_⟩)
  · exact ⟨h.keys _ (by simp), h.text hid⟩
  · exact h.optionalMember (h.keys _ (by simp)) hname
  · exact h.definitionMembers hkind

/-- Such a property holds of what is written for a flow, if it does of the strings of the flow. -/
theorem Spreads.flow (h : Spreads P K T) {flow : FlowDefinition}
    (htext : ∀ s ∈ flow.strings, T s) : P flow.toJson := by
  obtain ⟨hends, hcondition⟩ := List.forall_mem_append.mp htext
  obtain ⟨hid, hends⟩ := List.forall_mem_cons.mp hends
  obtain ⟨hsource, hends⟩ := List.forall_mem_cons.mp hends
  have htarget := List.forall_mem_singleton.mp hends
  refine h.object (by simp)
    (List.forall_mem_append.mpr ⟨List.forall_mem_append.mpr ⟨?_, ?_⟩, ?_⟩)
  · exact List.forall_mem_cons.mpr ⟨⟨h.keys _ (by simp), h.text hid⟩,
      List.forall_mem_cons.mpr ⟨⟨h.keys _ (by simp), h.text hsource⟩,
        List.forall_mem_singleton.mpr ⟨h.keys _ (by simp), h.text htarget⟩⟩⟩
  · cases flow.isDefault with
    | false => exact List.forall_mem_nil _
    | true => exact List.forall_mem_singleton.mpr ⟨h.keys _ (by simp), h.boolean⟩
  · exact h.optionalMember (h.keys _ (by simp)) hcondition

/-- Such a property holds of the members of a definition that are not lists, its id and its name. -/
theorem Spreads.labels (h : Spreads P K T) {definition : ProcessDefinition}
    (htext : ∀ s ∈ definition.strings, T s) :
    ∀ m ∈ ("process_id", .text definition.processId) :: CaseRouting.optionalMember "name"
      definition.name, K m.1 ∧ P m.2 :=
  List.forall_mem_cons.mpr ⟨⟨h.keys _ (by simp), h.text (htext _ List.mem_cons_self)⟩,
    h.optionalMember (h.keys _ (by simp)) fun s hs =>
      htext s (ProcessDefinition.mem_strings_of_name hs)⟩

/-- Such a property holds of what is written for the nodes of a definition, one by one. -/
theorem Spreads.nodes (h : Spreads P K T) {definition : ProcessDefinition}
    (htext : ∀ s ∈ definition.strings, T s) :
    ∀ v ∈ definition.nodes.map NodeDefinition.toJson, P v :=
  List.forall_mem_map.mpr fun _ hnode =>
    h.node fun s hs => htext s (ProcessDefinition.mem_strings_of_node hnode hs)

/-- Such a property holds of what is written for the flows of a definition, one by one. -/
theorem Spreads.flows (h : Spreads P K T) {definition : ProcessDefinition}
    (htext : ∀ s ∈ definition.strings, T s) :
    ∀ v ∈ definition.flows.map FlowDefinition.toJson, P v :=
  List.forall_mem_map.mpr fun _ hflow =>
    h.flow fun s hs => htext s (ProcessDefinition.mem_strings_of_flow hflow hs)

/-- Between brackets a value flows when its keys and strings do, and the keys of definitions are
short. -/
theorem spreads_flowing : Spreads Flowing IsShortKey IsCommonText where
  boolean := .boolean true
  text := .text
  list _ h := .list h
  object _ h := .object (fun m hm => (h m hm).1) fun m hm => (h m hm).2
  keys := by decide
  kinds kind := by
    cases kind with
    | task details => exact show IsCommonText "task" by decide
    | _ => decide

/-- The value written for a definition flows, if the strings of the definition are in common
characters. -/
theorem flowing_process {definition : ProcessDefinition}
    (h : ∀ s ∈ definition.strings, IsCommonText s) : Flowing definition.toJson := by
  refine spreads_flowing.object (by simp)
    (List.forall_mem_append.mpr ⟨spreads_flowing.labels h, ?_⟩)
  refine List.forall_mem_cons.mpr ⟨?_, List.forall_mem_singleton.mpr ?_⟩
  · exact ⟨spreads_flowing.keys _ (by simp), .list (spreads_flowing.nodes h)⟩
  · exact ⟨spreads_flowing.keys _ (by simp), .list (spreads_flowing.flows h)⟩

end Spreading

/-- A definition whose strings are in characters that mean the same in both is read back from its
JSON text, as YAML and as JSON. -/
theorem ProcessDefinition.ofYamlText_toText {definition : ProcessDefinition}
    (hcommon : ∀ s ∈ definition.strings, IsCommonText s) :
    ofYamlText definition.toText = some definition ∧
      ofJsonText definition.toText = .ok definition := by
  have hroot : Yaml.Node.ofText? definition.toText.toList =
      some (Yaml.nodeOf .quoted definition.toJson) := by
    rw [toText, Json.compact, String.toList_ofList]
    exact Yaml.Node.ofText?_written (flowing_process hcommon)
  have hdecode : decode (Yaml.nodeOf .quoted definition.toJson) = pure definition :=
    decode_nodeOf (fun s _ => Yaml.isPresent_quoted s)
      (fun node _ => ⟨fun s _ => Yaml.isPresent_quoted s, fun s _ => Yaml.isText_quoted s⟩)
      fun flow _ s _ => Yaml.isPresent_quoted s
  refine ⟨?_, ofJsonText_written definition⟩
  rw [ofYamlText, hroot]
  exact Yaml.Decoder.run?_eq hdecode

/-- A definition whose strings look like something else, or have blanks at their ends, marks of
comments and documents and controls in them. -/
def lookAlikeProcess : ProcessDefinition where
  processId := "~"
  name := some "null"
  nodes := [⟨"true", some "", .task ⟨some "5", ["no", " x ", "# a: b", "---", "\x00\t\n"]⟩⟩,
    ⟨"0x1F", some "FALSE", .gateway⟩, ⟨"[]", some "\"'\\", .endEvent⟩]
  flows := [⟨"*f", "true", "0x1F", true, some "null"⟩, ⟨"&f", "0x1F", "[]", false, some "1e3"⟩]

/-- Every such string stays the same in every field, although without its marks it would be taken
for something else. -/
theorem ProcessDefinition.ofYamlText_toText_lookAlikes :
    (∀ s ∈ lookAlikeProcess.strings, IsCommonText s) ∧
      ofYamlText lookAlikeProcess.toText = some lookAlikeProcess ∧
      ofJsonText lookAlikeProcess.toText = .ok lookAlikeProcess := by
  have hcommon : ∀ s ∈ lookAlikeProcess.strings, IsCommonText s := by decide
  exact ⟨hcommon, ofYamlText_toText hcommon⟩

end CaseRouting
