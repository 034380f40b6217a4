import CaseRouting.Definition.Read
import CaseRouting.Yaml.Node.Grammar
import CaseRouting.Yaml.Decoder

/-!
# Definitions from YAML

The same records as in JSON, always written as mappings. Members that no record knows are ignored,
whatever they are, except in a node, where they are collected and tell its kind.
-/

namespace CaseRouting

open Yaml (Decoder)

/-- A member of a flow definition. Each field may come once, and members that no flow knows are
passed over without a look. -/
def FlowDraft.decodeMember (key : String) (value : Yaml.Node) (draft : FlowDraft) :
    Decoder FlowDraft :=
  match key with
  | "id" => .once draft.id (.text value) fun id => { draft with id := some id }
  | "source" => .once draft.source (.text value) fun source => { draft with source := some source }
  | "target" => .once draft.target (.text value) fun target => { draft with target := some target }
  | "is_default" =>
    .once draft.isDefault (.boolean value) fun isDefault =>
      { draft with isDefault := some isDefault }
  | "condition" =>
    .once draft.condition (.nullableText value) fun condition =>
      { draft with condition := some condition }
  | _ => return draft

/-- A flow definition, finished as in JSON: only the ends and the id are required. -/
def FlowDefinition.decode : Yaml.Node → Decoder FlowDefinition :=
  .record FlowDraft.decodeMember .blank FlowDefinition.record.finish

/-- A member of a node definition. What is collected stands in the node, the list of nodes and the
process. -/
def NodeDefinitionDraft.decodeMember (key : String) (value : Yaml.Node)
    (draft : NodeDefinitionDraft) : Decoder NodeDefinitionDraft :=
  match key with
  | "id" => .once draft.id (.text value) fun id => { draft with id := some id }
  | "name" => .once draft.name (.nullableText value) fun name => { draft with name := some name }
  | _ => do
    let value ← Decoder.anyValue (Yaml.maxNesting - 3) value
    return { draft with collected := draft.collected ++ [(key, value)] }

/-- A node definition. The kind is made of the collected members by the same rules as in JSON. -/
def NodeDefinition.decode : Yaml.Node → Decoder NodeDefinition :=
  .record NodeDefinitionDraft.decodeMember ⟨none, none, []⟩ NodeDefinitionDraft.finish

/-- A member of a process definition. The two lists are decoded element by element, and each may
come once. -/
def ProcessDraft.decodeMember (key : String) (value : Yaml.Node) (draft : ProcessDraft) :
    Decoder ProcessDraft :=
  match key with
  | "process_id" =>
    .once draft.processId (.text value) fun processId =>
      { draft with processId := some processId }
  | "name" => .once draft.name (.nullableText value) fun name => { draft with name := some name }
  | "nodes" =>
    .once draft.nodes (.list NodeDefinition.decode value) fun nodes =>
      { draft with nodes := some nodes }
  | "flows" =>
    .once draft.flows (.list FlowDefinition.decode value) fun flows =>
      { draft with flows := some flows }
  | _ => return draft

/-- A process definition, finished as in JSON: the id and the nodes are required. -/
def ProcessDefinition.decode : Yaml.Node → Decoder ProcessDefinition :=
  .record ProcessDraft.decodeMember ⟨none, none, none, none⟩ ProcessDefinition.record.finish

/-- The definition that a YAML text holds as its only document. Why a text holds none is not
reported. -/
def ProcessDefinition.ofYamlText (text : String) : Option ProcessDefinition := do
  let root ← Yaml.Node.ofText? text.toList
  Decoder.run? ProcessDefinition.decode root

end CaseRouting
