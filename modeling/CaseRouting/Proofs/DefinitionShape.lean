import CaseRouting.Proofs.RecordMembers

/-!
# The shape of a definition

What a JSON value has to be in order to encode a definition, and which one it then encodes, said by
the members alone: which keys must be there, what may stand under a key, and what a missing key
means. The order of the members plays no part, and members with other keys may stand anywhere.
-/

namespace CaseRouting

open Json

/-- What stands under a key means the value; without the key, the default is meant. -/
inductive Optionally {α : Type} (ms : List (String × Json)) (key : String)
    (means : Json → α → Prop) (default : α) : α → Prop
  | missing (h : ∀ v, (key, v) ∉ ms) : Optionally ms key means default default
  | given {v : Json} {a : α} (h : (key, v) ∈ ms) (hv : means v a) :
      Optionally ms key means default a

/-- A text, or null for none. Nothing else stands where a text may be missing. -/
inductive NullableText : Json → Option String → Prop
  | null : NullableText .null none
  | text (s : String) : NullableText (.text s) (some s)

/-- A list whose elements mean the values, one by one and in order. -/
inductive Lists {α : Type} (means : Json → α → Prop) : Json → List α → Prop
  | list {items : List Json} {as : List α} (h : List.Forall₂ means items as) :
      Lists means (.list items) as

/-- The members of a flow: an id and two ends, which must be there, and two more, which may be
missing. -/
structure FlowMembers (ms : List (String × Json)) (flow : FlowDefinition) : Prop where
  id : ("id", .text flow.id) ∈ ms
  source : ("source", .text flow.source) ∈ ms
  target : ("target", .text flow.target) ∈ ms
  isDefault : Optionally ms "is_default" (fun v b => v = .boolean b) false flow.isDefault
  condition : Optionally ms "condition" NullableText none flow.condition

/-- The fields of a flow in the order in which a list gives them. -/
def flowNames : List String := ["id", "source", "target", "is_default", "condition"]

/-- A flow is an object or a list of its fields, of which the last two may be left out. -/
def EncodesFlow (v : Json) (flow : FlowDefinition) : Prop :=
  ∃ ms, Presents flowNames 3 v ms ∧ FlowMembers ms flow

/-- The names of the kinds in the order in which they are numbered. -/
def kindNames : List String := ["start_event", "task", "gateway", "end_event"]

/-- A kind is told by its name or by its number, an integer without fraction and exponent. A zero
with a minus sign is no integer. -/
inductive TellsKind : Json → String → Prop
  | name {name : String} (h : name ∈ kindNames) : TellsKind (.text name) name
  | index {i : Nat} {name : String} (h : kindNames[i]? = some name) :
      TellsKind (.number (.integer i)) name

/-- The members that give the details of a task, both of which may be missing. -/
structure TaskMembers (ms : List (String × Json)) (details : TaskDetails) : Prop where
  taskType : Optionally ms "task_type" NullableText none details.taskType
  actions : Optionally ms "actions" (fun v ts => v = Json.texts ts) [] details.actions

/-- The members that give the kind of a node. Its name must be there, and only for a task is there
more than that. -/
structure KindMembers (ms : List (String × Json)) (kind : NodeKind) : Prop where
  type : ∃ v, ("type", v) ∈ ms ∧ TellsKind v kind.name
  details : ∀ details, kind = .task details → TaskMembers ms details

/-- The members of a node: its own id and name, and those that give its kind. -/
structure NodeMembers (ms : List (String × Json)) (node : NodeDefinition) : Prop where
  id : ("id", .text node.id) ∈ ms
  name : Optionally ms "name" NullableText none node.name
  kind : KindMembers ms node.kind

/-- A node is an object, never a list, since the members of its kind stand among its own. -/
inductive EncodesNode : Json → NodeDefinition → Prop
  | object {ms : List (String × Json)} {node : NodeDefinition} (h : NodeMembers ms node) :
      EncodesNode (.object ms) node

/-- The members of a process definition: an id and a list of nodes, which must be there, and a name
and a list of flows, which may be missing. -/
structure ProcessMembers (ms : List (String × Json)) (definition : ProcessDefinition) : Prop where
  processId : ("process_id", .text definition.processId) ∈ ms
  name : Optionally ms "name" NullableText none definition.name
  nodes : ∃ v, ("nodes", v) ∈ ms ∧ Lists EncodesNode v definition.nodes
  flows : Optionally ms "flows" (Lists EncodesFlow) [] definition.flows

/-- The fields of a process definition in the order in which a list gives them. -/
def processNames : List String := ["process_id", "name", "nodes", "flows"]

/-- A process definition is an object or a list of its fields, of which the last may be left out. -/
def EncodesProcess (v : Json) (definition : ProcessDefinition) : Prop :=
  ∃ ms, Presents processNames 3 v ms ∧ ProcessMembers ms definition

section Decoding

variable {ε α : Type} {ms : List (String × Json)} {key : String} {decode : Json → Except ε α}
  {means : Json → α → Prop}

/-- What has been decoded of a member that must be there is what stands under its key. -/
theorem holds_some_iff (hdecode : ∀ v, (key, v) ∈ ms → ∀ a, decode v = .ok a ↔ means v a) {a : α} :
    Holds ms key decode (some a) ↔ ∃ v, (key, v) ∈ ms ∧ means v a := by
  constructor
  · intro h
    cases h with
    | given hmem hv => exact ⟨_, hmem, (hdecode _ hmem a).mp hv⟩
  · rintro ⟨v, hmem, hv⟩
    exact .given hmem ((hdecode v hmem a).mpr hv)

/-- What has been decoded of a member that may be missing is what its key optionally gives, with the
default where nothing has been decoded. -/
theorem optionally_of_holds {a? : Option α} (h : Holds ms key decode a?)
    (hdecode : ∀ v, (key, v) ∈ ms → ∀ a, decode v = .ok a ↔ means v a) (default : α) :
    Optionally ms key means default (a?.getD default) := by
  cases h with
  | missing habsent => exact .missing habsent
  | given hmem hv => exact .given hmem ((hdecode _ hmem _).mp hv)

/-- What a key optionally gives is decoded: the value under the key where there is one, and nothing
where there is none. -/
theorem Optionally.exists_holds {default a : α} (h : Optionally ms key means default a)
    (hdecode : ∀ v, (key, v) ∈ ms → ∀ a, decode v = .ok a ↔ means v a) :
    ∃ a?, Holds ms key decode a? ∧ a?.getD default = a := by
  cases h with
  | missing habsent => exact ⟨none, .missing habsent, rfl⟩
  | given hmem hv => exact ⟨some a, .given hmem ((hdecode _ hmem a).mpr hv), rfl⟩

/-- A name that is missing and a name that is null are both none. -/
theorem join_eq_getD {β : Type} (b?? : Option (Option β)) : b??.join = b??.getD none := by
  cases b?? <;> rfl

/-- A decoder accepts exactly what has the meaning, as long as the value is not nested too deep and
no key comes twice. -/
def Decodes (decode : Nat → Json → Except Error α) (means : Json → α → Prop) : Prop :=
  ∀ ⦃depth v⦄, v.depth ≤ depth → DistinctKeys v → ∀ a, decode depth v = .ok a ↔ means v a

/-- A text is decoded from a text and from nothing else. -/
theorem asText_eq_ok_iff {wanted : Wanted} {v : Json} {s : String} :
    asText wanted v = .ok s ↔ v = .text s := by
  cases v <;> simp [asText, refusal]

/-- A text or nothing is decoded from a text or null, and from nothing else. -/
theorem asNullableText_eq_ok_iff {v : Json} {s? : Option String} :
    asNullableText v = .ok s? ↔ NullableText v s? := by
  constructor
  · intro h
    cases v with
    | null =>
      obtain rfl := Except.ok.inj h
      exact .null
    | text s =>
      obtain rfl := Except.ok.inj h
      exact .text s
    | _ => exact absurd h nofun
  · intro h
    cases h <;> rfl

/-- A boolean is decoded from a boolean and from nothing else. -/
theorem asBoolean_eq_ok_iff {v : Json} {b : Bool} : asBoolean v = .ok b ↔ v = .boolean b := by
  cases v <;> simp [asBoolean, refusal]

/-- A list of values that are decoded is decoded, with a bracket less for the elements. -/
theorem decodes_list {decode : Nat → Json → Except Error α} (h : Decodes decode means) :
    Decodes (asList decode) (Lists means) := by
  intro depth v hdepth hv as
  cases v with
  | list items =>
    cases depth with
    | zero => simp [Json.depth] at hdepth
    | succ depth =>
      have hitems : ∀ w ∈ items, ∀ a, decode depth w = .ok a ↔ means w a :=
        fun w hw => h (depth_list_le_iff.mp hdepth w hw) (hv.item hw)
      rw [asList, mapM_eq_ok_iff hitems]
      exact ⟨.list, fun hlist => by cases hlist; assumption⟩
  | _ =>
    constructor
    · intro hread
      cases depth <;> cases hread
    · rintro ⟨⟩

end Decoding

end CaseRouting
