import CaseRouting.Definition.Yaml
import CaseRouting.Proofs.DefinitionRoundTrip
import CaseRouting.Proofs.FlowDocument

/-!
# Decoding what is written

A node that has the shape of what is written for a definition is decoded to the definition. It has
no aliases, so that nothing is followed and decoding comes down to its result. Where a text or
nothing may stand, and where any value may stand, a plain scalar may mean something else than the
text it is written for; of such scalars it is assumed that they do not.
-/

namespace CaseRouting

namespace Yaml

/-- A scalar of the style that is not nothing where nothing may stand, too. A plain scalar may be
one of the words for nothing. -/
def IsPresent (style : Style) (s : String) : Prop :=
  Decoder.isAbsent? .absent style s.toList = some false

/-- A scalar of the style that is the text where any value may stand, too. A plain scalar may be a
word for a boolean or a number. -/
def IsText (style : Style) (s : String) : Prop :=
  scalarValue? .absent style s.toList = some (.text s)

/-- A quoted scalar is never nothing, whatever it holds. -/
theorem isPresent_quoted (s : String) : IsPresent .quoted s := rfl

/-- A quoted scalar is always a text, whatever it holds. -/
theorem isText_quoted (s : String) : IsText .quoted s := by
  simp [IsText, scalarValue?, Properties.absent]

/-- The nodes of members are the scalars of the keys with the nodes of the values, pair by pair and
in order. -/
theorem entriesOf_eq_map {style : Style} (members : List (String × Json)) :
    entriesOf style members =
      members.map fun m => (.scalar .absent style m.1.toList, nodeOf style m.2) := by
  induction members with
  | nil => rfl
  | cons m members ih => rw [entriesOf, List.map_cons, ih]

namespace Decoder

variable {α δ : Type} {style : Style}

/-- A text is decoded where a text must stand, in either style, since no other meaning is looked for
there. -/
@[simp] theorem text_nodeOf (s : String) : text (nodeOf style (.text s)) = pure s := by
  have hscalar : text (nodeOf style (.text s)) = pure (String.ofList s.toList) := rfl
  rw [hscalar, String.ofList_toList]

/-- A text that is not nothing is decoded where a text or nothing may stand. -/
theorem nullableText_nodeOf {s : String} (h : IsPresent style s) :
    nullableText (nodeOf style (.text s)) = pure (some s) := by
  have hscalar : nullableText (nodeOf style (.text s)) =
      ofOption (isAbsent? .absent style s.toList) >>= fun absent =>
        if absent then pure none else pure (some (String.ofList s.toList)) := rfl
  rw [hscalar, h, String.ofList_toList]
  rfl

/-- The word for true is decoded where a boolean must stand, in either style. -/
@[simp] theorem boolean_nodeOf_true : boolean (nodeOf style (.boolean true)) = pure true := rfl

/-- A field that has not been read is decoded and put into the draft; only a second time would it be
refused. -/
@[simp] theorem once_none (a : α) (put : α → δ) :
    once (none : Option α) (pure a) put = pure (put a) := rfl

/-- Elements are decoded one by one, so that what holds of the decoder of an element holds of the
whole row. -/
theorem mapM_itemsOf {decode : Node → Decoder δ} {write : α → Json} {value : α → δ} {as : List α}
    (h : ∀ a ∈ as, decode (nodeOf style (write a)) = pure (value a)) :
    (itemsOf style (as.map write)).mapM decode = pure (as.map value) := by
  induction as with
  | nil => rfl
  | cons a as ih =>
    obtain ⟨hfirst, h⟩ := List.forall_mem_cons.mp h
    rw [List.map_cons, itemsOf, List.mapM_cons, hfirst, ih h]
    rfl

/-- A list is decoded when its elements are, to the list of which it was written. -/
theorem list_nodeOf {decode : Node → Decoder α} {write : α → Json} {as : List α}
    (h : ∀ a ∈ as, decode (nodeOf style (write a)) = pure a) :
    list decode (nodeOf style (.list (as.map write))) = pure as := by
  rw [nodeOf]
  exact (mapM_itemsOf h).trans (congrArg pure (List.map_id' as))

/-- A text that is one where any value may stand is decoded there, however few brackets may be
opened. -/
theorem anyValue_text {s : String} (h : IsText style s) (depth : Nat) :
    anyValue depth (nodeOf style (.text s)) = pure (.text s) := by
  have hscalar : anyValue depth (nodeOf style (.text s)) =
      ofOption (scalarValue? .absent style s.toList) := by
    cases depth <;> rfl
  rw [hscalar, h]
  rfl

/-- A list of texts is decoded where any value may stand, if one more bracket may be opened. -/
theorem anyValue_texts {ts : List String} (h : ∀ t ∈ ts, IsText style t) (depth : Nat) :
    anyValue (depth + 1) (nodeOf style (Json.texts ts)) = pure (Json.texts ts) := by
  have hitems := mapM_itemsOf fun t ht => anyValue_text (h t ht) depth
  have hlist : anyValue (depth + 1) (nodeOf style (Json.texts ts)) =
      (itemsOf style (ts.map Json.text)).mapM (anyValue depth) >>= fun items =>
        pure (.list items) := by
    rw [Json.texts, nodeOf]
    rfl
  rw [hlist, hitems]
  rfl

/-- What a member does to the draft of a record: the scalar of its key says which field the node of
its value goes into. -/
def take (style : Style) (member : String → Node → δ → Decoder δ) (draft : δ)
    (m : String × Json) : Decoder δ :=
  member m.1 (nodeOf style m.2) draft

/-- A member for a text is taken if there is one, and otherwise the draft is left as it is. -/
theorem foldlM_optionalMember {member : String → Node → δ → Decoder δ} {key : String}
    {s? : Option String} {draft next : δ} (hnone : s? = none → draft = next)
    (hsome : ∀ s, s? = some s → take style member draft (key, .text s) = pure next) :
    (optionalMember key s?).foldlM (take style member) draft = pure next := by
  cases s? with
  | none => exact congrArg pure (hnone rfl)
  | some s => rw [optionalMember, List.foldlM_cons, hsome s rfl, pure_bind, List.foldlM_nil]

/-- A record is decoded when its members go into the draft of which it is made. No member is an
alias, so that none is followed. -/
theorem record_nodeOf {member : String → Node → δ → Decoder δ} {blank draft : δ}
    {finish : δ → Except Json.Mismatch α} {members : List (String × Json)} {a : α}
    (hmembers : members.foldlM (take style member) blank = pure draft)
    (hfinish : finish draft = .ok a) :
    record member blank finish (nodeOf style (.object members)) = pure a := by
  have hfold : (entriesOf style members).foldlM (fun draft entry => do
      let key ← text entry.1
      member key entry.2 draft) blank = pure draft := by
    rw [entriesOf_eq_map, List.foldlM_map, ← hmembers]
    refine congrArg (fun step => members.foldlM step blank) (funext₂ fun draft m => ?_)
    have hkey : text (.scalar .absent style m.1.toList) = pure m.1 := text_nodeOf m.1
    rw [hkey]
    rfl
  have hrecord : record member blank finish (nodeOf style (.object members)) =
      (entriesOf style members).foldlM (fun draft entry => do
        let key ← text entry.1
        member key entry.2 draft) blank >>= fun draft => ofOption (finish draft).toOption := by
    rw [nodeOf]
    rfl
  rw [hrecord, hfold, pure_bind, hfinish]
  rfl

/-- What is decoded without following an alias is the result, however many aliases may be
followed. -/
theorem run?_eq {decode : Node → Decoder α} {root : Node} {a : α} (h : decode root = pure a) :
    run? decode root = some a := by
  rw [run?, h]
  rfl

end Decoder

end Yaml

open Yaml (nodeOf IsPresent IsText Style Decoder)

variable {style : Style}

/-- What a member does to the draft of a flow, decoded by the fields of a flow. -/
def FlowDraft.take (style : Style) : FlowDraft → String × Json → Decoder FlowDraft :=
  Decoder.take style FlowDraft.decodeMember

/-- A flow is decoded from what it is written as, if its condition is not taken for nothing. -/
theorem FlowDefinition.decode_nodeOf {flow : FlowDefinition}
    (hpresent : ∀ s ∈ flow.condition, IsPresent style s) :
    FlowDefinition.decode (nodeOf style flow.toJson) = pure flow := by
  obtain ⟨id, source, target, isDefault, condition⟩ := flow
  have hends : [("id", Json.text id), ("source", .text source), ("target", .text target)].foldlM
      (FlowDraft.take style) .blank =
        pure ⟨some id, some source, some target, none, none⟩ := by
    simp [FlowDraft.take, Decoder.take, FlowDraft.decodeMember, FlowDraft.blank]
  have hdefault : (if isDefault then [("is_default", Json.boolean true)] else []).foldlM
      (FlowDraft.take style) ⟨some id, some source, some target, none, none⟩ =
        pure ⟨some id, some source, some target, if isDefault then some true else none, none⟩ := by
    cases isDefault <;> simp [FlowDraft.take, Decoder.take, FlowDraft.decodeMember]
  have hcondition : (optionalMember "condition" condition).foldlM (FlowDraft.take style)
      ⟨some id, some source, some target, if isDefault then some true else none, none⟩ =
        pure ⟨some id, some source, some target, if isDefault then some true else none,
          condition.map some⟩ := by
    refine Decoder.foldlM_optionalMember (fun h => by rw [h]; rfl) fun s hs => ?_
    simp [Decoder.take, FlowDraft.decodeMember,
      Decoder.nullableText_nodeOf (hpresent s hs), hs]
  have hmembers : ([("id", Json.text id), ("source", .text source), ("target", .text target)] ++
      (if isDefault then [("is_default", Json.boolean true)] else []) ++
      optionalMember "condition" condition).foldlM (FlowDraft.take style) .blank =
        pure ⟨some id, some source, some target, if isDefault then some true else none,
          condition.map some⟩ := by
    rw [List.foldlM_append, List.foldlM_append, hends, pure_bind, hdefault, pure_bind, hcondition]
  refine Decoder.record_nodeOf hmembers ?_
  cases isDefault <;> cases condition <;> rfl

/-- The strings of a kind, which are collected and therefore stand where any value may stand. -/
def NodeKind.strings : NodeKind → List String
  | .task details => details.taskType.toList ++ details.actions
  | _ => []

/-- What stands in the members that tell a kind is a text or a list of texts, and they are the name
of the kind and its strings. -/
theorem NodeKind.eq_text_or_texts {kind : NodeKind} {m : String × Json}
    (hm : m ∈ kind.definitionMembers) :
    (∃ s ∈ kind.name :: kind.strings, m.2 = .text s) ∨
      ∃ ts, (∀ t ∈ ts, t ∈ kind.strings) ∧ m.2 = .texts ts := by
  obtain rfl | hm := List.mem_cons.mp hm
  · exact .inl ⟨kind.name, List.mem_cons_self, rfl⟩
  cases kind with
  | task details =>
    obtain ⟨taskType, actions⟩ := details
    obtain hm | hm := List.mem_append.mp hm
    · cases taskType with
      | none => cases hm
      | some taskType =>
        cases List.mem_singleton.mp hm
        exact .inl ⟨taskType, by simp [strings], rfl⟩
    · cases actions with
      | nil => cases hm
      | cons action actions =>
        cases List.mem_singleton.mp hm
        exact .inr ⟨action :: actions, fun t ht => List.mem_append_right _ ht, rfl⟩
  | _ => cases hm

/-- The members that tell a kind are decoded where any value may stand, if the strings in them are
taken for texts. -/
theorem NodeKind.anyValue_of_mem {kind : NodeKind}
    (htexts : ∀ s ∈ kind.name :: kind.strings, IsText style s) {m : String × Json}
    (hm : m ∈ kind.definitionMembers) (depth : Nat) :
    Decoder.anyValue (depth + 1) (nodeOf style m.2) = pure m.2 := by
  obtain ⟨s, hs, hvalue⟩ | ⟨ts, hts, hvalue⟩ := NodeKind.eq_text_or_texts hm
  · rw [hvalue]
    exact Decoder.anyValue_text (htexts s hs) _
  · rw [hvalue]
    exact Decoder.anyValue_texts (fun t ht => htexts t (List.mem_cons_of_mem _ (hts t ht))) depth

/-- The members that a kind is written as in a definition tell it when they have been collected,
with all details of a task. -/
theorem NodeKind.ofCollected_definitionMembers (kind : NodeKind) :
    NodeKind.ofCollected kind.definitionMembers = .ok kind := by
  have hcanonical : ∀ m ∈ kind.definitionMembers, (m.1, m.2.canonical) = m := by
    intro m hm
    obtain ⟨s, -, hvalue⟩ | ⟨ts, -, hvalue⟩ := NodeKind.eq_text_or_texts hm
    · rw [hvalue, canonical_eq_text_iff.mpr rfl, ← hvalue]
    · rw [hvalue, canonical_eq_texts_iff.mpr rfl, ← hvalue]
  have hcollected := (writesKind_definitionMembers kind).ofCollected
  rwa [List.map_congr_left hcanonical, List.map_id'] at hcollected

/-- What a member does to the draft of a node, decoded by the node's own fields or collected. -/
def NodeDefinitionDraft.take (style : Style) :
    NodeDefinitionDraft → String × Json → Decoder NodeDefinitionDraft :=
  Decoder.take style NodeDefinitionDraft.decodeMember

/-- Members that are none of the node's own are collected in turn, behind what has been collected
before. -/
theorem NodeDefinitionDraft.foldlM_decodeMember {ms : List (String × Json)}
    (hkeys : ∀ m ∈ ms, m.1 ∉ ["id", "name"])
    (hvalues : ∀ m ∈ ms, Decoder.anyValue (Yaml.maxNesting - 3) (nodeOf style m.2) = pure m.2)
    (draft : NodeDefinitionDraft) :
    ms.foldlM (NodeDefinitionDraft.take style) draft =
      pure { draft with collected := draft.collected ++ ms } := by
  induction ms generalizing draft with
  | nil => simp
  | cons m ms ih =>
    obtain ⟨hkey, hkeys⟩ := List.forall_mem_cons.mp hkeys
    obtain ⟨hvalue, hvalues⟩ := List.forall_mem_cons.mp hvalues
    have htake : NodeDefinitionDraft.take style draft m =
        pure { draft with collected := draft.collected ++ [m] } := by
      unfold NodeDefinitionDraft.take Decoder.take NodeDefinitionDraft.decodeMember
      split
      next h => exact absurd (by simp [h]) hkey
      next h => exact absurd (by simp [h]) hkey
      next => rw [hvalue, pure_bind]
    rw [List.foldlM_cons, htake, pure_bind, ih hkeys hvalues]
    simp

/-- A node is decoded from what it is written as, if its name is not taken for nothing and the
strings of its kind are taken for texts. -/
theorem NodeDefinition.decode_nodeOf {node : NodeDefinition}
    (hpresent : ∀ s ∈ node.name, IsPresent style s)
    (htexts : ∀ s ∈ node.kind.name :: node.kind.strings, IsText style s) :
    NodeDefinition.decode (nodeOf style node.toJson) = pure node := by
  obtain ⟨id, name, kind⟩ := node
  have hid : NodeDefinitionDraft.take style ⟨none, none, []⟩ ("id", .text id) =
      pure ⟨some id, none, []⟩ := by
    simp [NodeDefinitionDraft.take, Decoder.take, NodeDefinitionDraft.decodeMember]
  have hname : (optionalMember "name" name).foldlM (NodeDefinitionDraft.take style)
      ⟨some id, none, []⟩ = pure ⟨some id, name.map some, []⟩ := by
    refine Decoder.foldlM_optionalMember (fun h => by rw [h]; rfl) fun s hs => ?_
    simp [Decoder.take, NodeDefinitionDraft.decodeMember,
      Decoder.nullableText_nodeOf (hpresent s hs), hs]
  have hkind : kind.definitionMembers.foldlM (NodeDefinitionDraft.take style)
      ⟨some id, name.map some, []⟩ = pure ⟨some id, name.map some, kind.definitionMembers⟩ :=
    NodeDefinitionDraft.foldlM_decodeMember
      (fun m hm => (writesKind_definitionMembers kind).key_not_own hm)
      (fun m hm => NodeKind.anyValue_of_mem htexts hm 124) _
  have hmembers : (("id", .text id) :: optionalMember "name" name ++ kind.definitionMembers).foldlM
      (NodeDefinitionDraft.take style) ⟨none, none, []⟩ =
        pure ⟨some id, name.map some, kind.definitionMembers⟩ := by
    rw [List.foldlM_append, List.foldlM_cons, hid, pure_bind, hname, pure_bind, hkind]
  refine Decoder.record_nodeOf hmembers ?_
  rw [NodeDefinitionDraft.finish, NodeKind.ofCollected_definitionMembers]
  cases name <;> rfl

/-- What a member does to the draft of a process, decoded by the fields of a process. -/
def ProcessDraft.take (style : Style) : ProcessDraft → String × Json → Decoder ProcessDraft :=
  Decoder.take style ProcessDraft.decodeMember

/-- A definition is decoded from its own members and those that hold its flows. The latter are left
open, because a text in blocks leaves them out where there are no flows. -/
theorem ProcessDefinition.decode_members {definition : ProcessDefinition}
    {members : List (String × Json)} (flows? : Option (List FlowDefinition))
    (hpresent : ∀ s ∈ definition.name, IsPresent style s)
    (hnodes : ∀ node ∈ definition.nodes, (∀ s ∈ node.name, IsPresent style s) ∧
      ∀ s ∈ node.kind.name :: node.kind.strings, IsText style s)
    (hmembers : ∀ draft : ProcessDraft, draft.flows = none →
      members.foldlM (ProcessDraft.take style) draft = pure { draft with flows := flows? })
    (hflows : flows?.getD [] = definition.flows) :
    ProcessDefinition.decode (nodeOf style (.object
      (("process_id", .text definition.processId) :: optionalMember "name" definition.name ++
        ("nodes", .list (definition.nodes.map NodeDefinition.toJson)) :: members))) =
      pure definition := by
  obtain ⟨processId, name, nodes, flows⟩ := definition
  have hid : ProcessDraft.take style ⟨none, none, none, none⟩ ("process_id", .text processId) =
      pure ⟨some processId, none, none, none⟩ := by
    simp [ProcessDraft.take, Decoder.take, ProcessDraft.decodeMember]
  have hname : (optionalMember "name" name).foldlM (ProcessDraft.take style)
      ⟨some processId, none, none, none⟩ = pure ⟨some processId, name.map some, none, none⟩ := by
    refine Decoder.foldlM_optionalMember (fun h => by rw [h]; rfl) fun s hs => ?_
    simp [Decoder.take, ProcessDraft.decodeMember,
      Decoder.nullableText_nodeOf (hpresent s hs), hs]
  have hlist := Decoder.list_nodeOf fun node hnode =>
    NodeDefinition.decode_nodeOf (hnodes node hnode).1 (hnodes node hnode).2
  have hnodesMember : ProcessDraft.take style ⟨some processId, name.map some, none, none⟩
      ("nodes", .list (nodes.map NodeDefinition.toJson)) =
        pure ⟨some processId, name.map some, some nodes, none⟩ := by
    simp [ProcessDraft.take, Decoder.take, ProcessDraft.decodeMember, hlist]
  have hall : (("process_id", .text processId) :: optionalMember "name" name ++
      ("nodes", Json.list (nodes.map NodeDefinition.toJson)) :: members).foldlM
      (ProcessDraft.take style) ⟨none, none, none, none⟩ =
        pure ⟨some processId, name.map some, some nodes, flows?⟩ := by
    rw [List.foldlM_append, List.foldlM_cons, hid, pure_bind, hname, pure_bind, List.foldlM_cons,
      hnodesMember, pure_bind, hmembers _ rfl]
  refine Decoder.record_nodeOf hall ?_
  cases hflows
  cases name <;> cases flows? <;> rfl

/-- The list of flows is decoded and put into the draft, if none of the conditions is taken for
nothing. -/
theorem ProcessDraft.take_flows {flows : List FlowDefinition}
    (hflows : ∀ flow ∈ flows, ∀ s ∈ flow.condition, IsPresent style s) {draft : ProcessDraft}
    (hdraft : draft.flows = none) :
    [("flows", Json.list (flows.map FlowDefinition.toJson))].foldlM (ProcessDraft.take style)
      draft = pure { draft with flows := some flows } := by
  have hlist := Decoder.list_nodeOf fun flow hflow =>
    FlowDefinition.decode_nodeOf (hflows flow hflow)
  simp [ProcessDraft.take, Decoder.take, ProcessDraft.decodeMember, hdraft, hlist]

/-- A definition is decoded from what it is written as, if none of its strings is taken for
something else than a text. -/
theorem ProcessDefinition.decode_nodeOf {definition : ProcessDefinition}
    (hpresent : ∀ s ∈ definition.name, IsPresent style s)
    (hnodes : ∀ node ∈ definition.nodes, (∀ s ∈ node.name, IsPresent style s) ∧
      ∀ s ∈ node.kind.name :: node.kind.strings, IsText style s)
    (hflows : ∀ flow ∈ definition.flows, ∀ s ∈ flow.condition, IsPresent style s) :
    ProcessDefinition.decode (nodeOf style definition.toJson) = pure definition :=
  decode_members (some _) hpresent hnodes
    (fun _ hdraft => ProcessDraft.take_flows hflows hdraft) rfl

end CaseRouting
