import CaseRouting.Proofs.JsonWriting
import CaseRouting.Proofs.KindShape
import CaseRouting.Proofs.TreeReading

/-!
# Reading definitions

The records of flows, nodes and processes lie in their slots, and each of them is read exactly from
the values that encode it. So a text is read as a definition exactly if the value that it says has
the shape of one, whatever the spelling of the value and the order of its members.
-/

namespace CaseRouting

open Json

/-- A record is decoded from what its members make of it. The slots hold what stands under their
names, and finishing the draft gives the record; a list in the place of the members presents them in
the order of the slots. -/
theorem Json.Layout.decodes {δ α : Type} {record : Record δ α} {slots : Nat → List (Slot Error δ)}
    {names : List String} {least : Nat} (h : Layout record slots names least)
    {means : List (String × Json) → α → Prop}
    (hmeans : ∀ depth ms, (∀ m ∈ ms, m.2.depth ≤ depth ∧ DistinctKeys m.2) → ∀ a,
      (∃ draft, (∀ s ∈ slots depth, Holds ms s.name s.decode (s.get draft)) ∧
        record.finish draft = .ok a) ↔ means ms a) :
    Decodes (asRecord record slots) fun v a => ∃ ms, Presents names least v ms ∧ means ms a := by
  intro depth v hdepth hv a
  cases depth with
  | zero =>
    constructor
    · intro hread
      cases v <;> exact absurd hread nofun
    · rintro ⟨ms, hms, -⟩
      cases hms <;> simp [Json.depth] at hdepth
  | succ depth =>
    rw [h.asRecord_eq_ok_iff hv]
    refine exists_congr fun ms => ?_
    simp only [exists_and_left]
    refine and_congr_right fun hms => hmeans depth ms (fun m hm => ?_) a
    exact ⟨hms.depth_le hdepth hm, fun members hmembers => hv members (hms.within hm hmembers)⟩

/-- A field that must be there is taken from what has been read, and a field that was not read is
refused. -/
theorem required_eq_ok_iff {α : Type} {field : String} {a? : Option α} {a : α} :
    required field a? = .ok a ↔ a? = some a := by
  cases a? <;> simp [required]

/-- The draft holds a text under a key exactly if the members have this text under that key. -/
theorem holds_text_iff {ms : List (String × Json)} {key s : String} {wanted : Wanted} :
    Holds ms key (asText wanted) (some s) ↔ (key, .text s) ∈ ms := by
  rw [holds_some_iff fun _ _ _ => asText_eq_ok_iff]
  simp

namespace FlowDraft

/-- The slots of a flow, in the order in which its fields are declared. The last two may be left
out, and then have their defaults. -/
def slots : List (Slot Error FlowDraft) :=
  [⟨"id", String, FlowDraft.id, fun id draft => { draft with id := some id }, asText .text, false,
      fun _ _ => rfl⟩,
    ⟨"source", String, FlowDraft.source, fun source draft => { draft with source := some source },
      asText .text, false, fun _ _ => rfl⟩,
    ⟨"target", String, FlowDraft.target, fun target draft => { draft with target := some target },
      asText .text, false, fun _ _ => rfl⟩,
    ⟨"is_default", Bool, FlowDraft.isDefault,
      fun isDefault draft => { draft with isDefault := some isDefault }, asBoolean, true,
      fun _ _ => rfl⟩,
    ⟨"condition", Option String, FlowDraft.condition,
      fun condition draft => { draft with condition := some condition }, asNullableText, true,
      fun _ _ => rfl⟩]

/-- The record of a flow lies in its slots: each field is read into the slot of its name, and no
slot is filled by another. -/
theorem layout : Layout FlowDefinition.record (fun _ => slots) flowNames 3 where
  describes _ := .cons (.of _ (reads_text .text)) <| .cons (.of _ (reads_text .text)) <|
    .cons (.of _ (reads_text .text)) <| .cons (.of _ reads_boolean) <|
    .cons (.of _ reads_nullableText) .nil
  separate _ := ⟨by decide, by simp [slots], by simp⟩
  ext _ draft filled h := by
    cases draft
    cases filled
    simpa [slots] using h
  blank _ := by simp [slots, FlowDefinition.record, blank]
  names _ := rfl
  least _ n := by
    rcases n with _ | _ | _ | _ | _ | n <;> simp [slots]

/-- A flow is finished when its id and its ends have been read; what has not been read has its
default, which is no default flow and no condition. -/
theorem finish_eq_ok_iff {draft : FlowDraft} {flow : FlowDefinition} :
    FlowDefinition.record.finish draft = .ok flow ↔
      draft.id = some flow.id ∧ draft.source = some flow.source ∧
        draft.target = some flow.target ∧ draft.isDefault.getD false = flow.isDefault ∧
        draft.condition.getD none = flow.condition := by
  obtain ⟨id, source, target, isDefault, condition⟩ := flow
  simp only [FlowDefinition.record, bind_eq_ok_iff, required_eq_ok_iff, join_eq_getD,
    Except.ok.injEq, FlowDefinition.mk.injEq]
  constructor
  · rintro ⟨id, hid, source, hsource, target, htarget, rfl, rfl, rfl, hisDefault, hcondition⟩
    exact ⟨hid, hsource, htarget, hisDefault, hcondition⟩
  · rintro ⟨hid, hsource, htarget, hisDefault, hcondition⟩
    exact ⟨id, hid, source, hsource, target, htarget, rfl, rfl, rfl, hisDefault, hcondition⟩

/-- A flow is decoded exactly from what encodes it, whether its fields stand under their keys or in
a row. -/
theorem decodes : Decodes (asRecord FlowDefinition.record fun _ => slots) EncodesFlow := by
  refine layout.decodes fun depth ms _ flow => ?_
  simp only [slots, List.forall_mem_cons, List.not_mem_nil, false_implies, implies_true, and_true,
    finish_eq_ok_iff]
  constructor
  · rintro ⟨draft, ⟨hid, hsource, htarget, hisDefault, hcondition⟩, hidSome, hsourceSome,
      htargetSome, hisDefaultGet, hconditionGet⟩
    rw [hidSome] at hid
    rw [hsourceSome] at hsource
    rw [htargetSome] at htarget
    exact ⟨holds_text_iff.mp hid, holds_text_iff.mp hsource, holds_text_iff.mp htarget,
      hisDefaultGet ▸ optionally_of_holds hisDefault (fun _ _ _ => asBoolean_eq_ok_iff) false,
      hconditionGet ▸
        optionally_of_holds hcondition (fun _ _ _ => asNullableText_eq_ok_iff) none⟩
  · intro h
    obtain ⟨isDefault, hisDefault, hisDefaultGet⟩ :=
      h.isDefault.exists_holds fun _ _ _ => asBoolean_eq_ok_iff
    obtain ⟨condition, hcondition, hconditionGet⟩ :=
      h.condition.exists_holds fun _ _ _ => asNullableText_eq_ok_iff
    exact ⟨⟨some flow.id, some flow.source, some flow.target, isDefault, condition⟩,
      ⟨holds_text_iff.mpr h.id, holds_text_iff.mpr h.source, holds_text_iff.mpr h.target,
        hisDefault, hcondition⟩, rfl, rfl, rfl, hisDefaultGet, hconditionGet⟩

end FlowDraft

namespace NodeDefinitionDraft

/-- The slots of a node. The kind has none, for it is made of the collected members when the node
ends. -/
def slots : List (Slot Error NodeDefinitionDraft) :=
  [⟨"id", String, NodeDefinitionDraft.id, fun id draft => { draft with id := some id },
      asText .text, false, fun _ _ => rfl⟩,
    ⟨"name", Option String, NodeDefinitionDraft.name,
      fun name draft => { draft with name := some name }, asNullableText, false, fun _ _ => rfl⟩]

/-- A member without a slot is collected as a tree, if it opens no more brackets than are left. -/
def collectTree (depth : Nat) (m : String × Json) (draft : NodeDefinitionDraft) :
    Except Error NodeDefinitionDraft :=
  (asTree depth m.2).map fun v => { draft with collected := draft.collected ++ [(m.1, v)] }

/-- The slots of a node are separate, and collecting a member leaves no trace in them. -/
theorem slots_separate (depth : Nat) : Separate slots (collectTree depth) where
  names := by decide
  apart := by simp [slots]
  absorbed s hs m draft kept hkept := by
    obtain ⟨v, -, rfl⟩ := map_eq_ok_iff.mp hkept
    have hunread : ∀ s ∈ slots, ∀ collected,
        s.get { draft with collected := collected } = s.get draft := by simp [slots]
    exact hunread s hs _

/-- The slots of a node are empty in the blank draft, so that a field is filled by a member or not
at all. -/
theorem slots_blank : ∀ s ∈ slots, s.get ⟨none, none, []⟩ = none := by
  simp [slots]

/-- Filling a slot of a node leaves what has been collected so far. -/
theorem put_collected :
    ∀ s ∈ slots, ∀ a draft, (s.put a draft).collected = draft.collected := by
  simp [slots]

/-- What a reader of nodes makes of a value, which must be an object, since a row of fields has no
place for the members of a kind. -/
def asNode : Nat → Json → Except Error NodeDefinition :=
  asBraced (.record "NodeDef") (fun depth => fillMember duplicateField slots (collectTree depth))
    ⟨none, none, []⟩ finish

/-- A node is read from a text that says a value as it is made of that value, whatever the
spelling. -/
theorem reads_node (depth : Nat) (v : Json) :
    Reads (NodeDefinition.read depth) v (asNode depth v) := by
  refine reads_braced (fun depth => reads_fieldMember ?_ ?_) (.record "NodeDef") ⟨none, none, []⟩
    finish depth v
  · exact .cons (.of _ (reads_text .text)) (.cons (.of _ reads_nullableText) .nil)
  · intro key draft w join cs rest hjoin hcs hrest
    obtain ⟨vs, hvs, hcolon⟩ := colon_join hjoin (cs ++ rest)
    have htree := reads_tree depth w hvs hcs hrest
    simp only [collect, collectMember, hcolon, ok_bind, htree, collectTree]
    cases asTree depth w <;> rfl

/-- The members that were taken and are none of the node's own have been collected, in the order in
which they stand. -/
theorem collected_of_foldlM {depth : Nat} {ms : List (String × Json)}
    {draft filled : NodeDefinitionDraft}
    (hfold : ms.foldlM (fillMember duplicateField slots (collectTree depth)) draft = .ok filled) :
    filled.collected = draft.collected ++ collectedMembers ms := by
  induction ms generalizing draft with
  | nil =>
    obtain rfl := Except.ok.inj hfold
    simp [collectedMembers]
  | cons m ms ih =>
    rw [List.foldlM_cons, bind_eq_ok_iff] at hfold
    obtain ⟨next, hfill, hfold⟩ := hfold
    rw [ih hfold]
    rcases (slots_separate depth).fillMember_cases hfill with
      ⟨s, hs, a, hname, -, -, rfl⟩ | ⟨hother, hcollect⟩
    · have hown : m.1 ∈ ["id", "name"] := hname ▸ List.mem_map_of_mem hs
      rw [put_collected s hs, collectedMembers_cons_own hown]
    · obtain ⟨v, hv, rfl⟩ := map_eq_ok_iff.mp hcollect
      have hown : m.1 ∉ ["id", "name"] := by
        simpa [slots, eq_comm] using hother
      have htree : v = m.2.canonical := by
        unfold asTree at hv
        split at hv
        · exact (Except.ok.inj hv).symm
        · cases hv
      rw [collectedMembers_cons_other hown, htree, List.append_assoc, List.singleton_append]

/-- Members with distinct keys that are not nested too deep make exactly the draft that holds the id
and the name and has collected the others. They make some draft, and it can be no other, for each of
its parts is determined by what they hold. -/
theorem foldlM_eq_ok_iff {depth : Nat} {ms : List (String × Json)}
    (hkeys : (ms.map Prod.fst).Nodup) (hdepth : ∀ m ∈ ms, m.2.depth ≤ depth)
    {draft : NodeDefinitionDraft} :
    ms.foldlM (fillMember duplicateField slots (collectTree depth)) ⟨none, none, []⟩ = .ok draft ↔
      Holds ms "id" (asText .text) draft.id ∧ Holds ms "name" asNullableText draft.name ∧
        draft.collected = collectedMembers ms := by
  have hholds {filled : NodeDefinitionDraft} (hfold : ms.foldlM
      (fillMember duplicateField slots (collectTree depth)) ⟨none, none, []⟩ = .ok filled) :
      ∀ s ∈ slots, Holds ms s.name s.decode (s.get filled) :=
    fun s hs => (slots_separate depth).holds_of_foldlM hs (slots_blank s hs) hfold
  simp only [slots, List.forall_mem_cons, List.not_mem_nil, false_implies, implies_true, and_true]
    at hholds
  constructor
  · intro hfold
    exact ⟨(hholds hfold).1, (hholds hfold).2, collected_of_foldlM hfold⟩
  · rintro ⟨hid, hname, hcollected⟩
    have hdecode : ∀ s ∈ slots, ∀ v, (s.name, v) ∈ ms → ∃ a, s.decode v = .ok a := by
      simp only [slots, List.forall_mem_cons, List.not_mem_nil, false_implies, implies_true,
        and_true]
      exact ⟨fun _ => hid.exists_decode hkeys, fun _ => hname.exists_decode hkeys⟩
    have habsorb (m : String × Json) (hm : m ∈ ms) (draft : NodeDefinitionDraft) :
        ∃ kept, collectTree depth m draft = .ok kept := by
      simp [collectTree, asTree, hdepth m hm]
    have hfold : ∃ filled, ms.foldlM (fillMember duplicateField slots (collectTree depth))
        ⟨none, none, []⟩ = .ok filled :=
      (slots_separate depth).exists_foldlM hkeys hdecode habsorb fun s hs _ _ => slots_blank s hs
    obtain ⟨filled, hfold⟩ := hfold
    have hsame : filled = draft := by
      cases filled
      cases draft
      simp only [NodeDefinitionDraft.mk.injEq]
      exact ⟨(hholds hfold).1.unique hkeys hid, (hholds hfold).2.unique hkeys hname,
        (collected_of_foldlM hfold).trans hcollected.symm⟩
    rw [hfold, hsame]

/-- A node is finished when its id has been read and the other members tell its kind. A name that
has not been read is none. -/
theorem finish_eq_ok_iff {draft : NodeDefinitionDraft} {node : NodeDefinition} :
    finish draft = .ok node ↔
      draft.id = some node.id ∧ draft.name.getD none = node.name ∧
        NodeKind.ofCollected draft.collected = .ok node.kind := by
  obtain ⟨id, name, kind⟩ := node
  simp only [finish, bind_eq_ok_iff, required_eq_ok_iff, join_eq_getD, Except.ok.injEq,
    NodeDefinition.mk.injEq]
  constructor
  · rintro ⟨id, hid, kind, hkind, rfl, hname, rfl⟩
    exact ⟨hid, hname, hkind⟩
  · rintro ⟨hid, hname, hkind⟩
    exact ⟨id, hid, kind, hkind, rfl, hname, rfl⟩

/-- A node is decoded exactly from what encodes it, wherever its type stands among the members. -/
theorem decodes : Decodes asNode EncodesNode := by
  intro depth v hdepth hv node
  cases v with
  | object ms =>
    cases depth with
    | zero => simp [Json.depth] at hdepth
    | succ depth =>
      have hkeys := hv ms .self
      have hmembers := depth_object_le_iff.mp hdepth
      simp only [asNode, asBraced, bind_eq_ok_iff, finished_eq_ok_iff, finish_eq_ok_iff,
        foldlM_eq_ok_iff hkeys hmembers]
      constructor
      · rintro ⟨draft, ⟨hid, hname, hcollected⟩, hidSome, hnameGet, hkind⟩
        rw [hidSome] at hid
        rw [hcollected, ofCollected_eq_ok_iff hkeys] at hkind
        exact .object ⟨holds_text_iff.mp hid, hnameGet ▸
          optionally_of_holds hname (fun _ _ _ => asNullableText_eq_ok_iff) none, hkind⟩
      · rintro ⟨h⟩
        obtain ⟨name, hname, hnameGet⟩ :=
          h.name.exists_holds fun _ _ _ => asNullableText_eq_ok_iff
        exact ⟨⟨some node.id, name, collectedMembers ms⟩, ⟨holds_text_iff.mpr h.id, hname, rfl⟩,
          rfl, hnameGet, (ofCollected_eq_ok_iff hkeys).mpr h.kind⟩
  | _ =>
    constructor
    · intro hread
      cases depth <;> cases hread
    · rintro ⟨⟩

end NodeDefinitionDraft

namespace ProcessDraft

/-- The slots of a process; nodes and flows may open so many brackets. The name and the flows may be
left out. -/
def slots (depth : Nat) : List (Slot Error ProcessDraft) :=
  [⟨"process_id", String, ProcessDraft.processId,
      fun processId draft => { draft with processId := some processId }, asText .text, false,
      fun _ _ => rfl⟩,
    ⟨"name", Option String, ProcessDraft.name, fun name draft => { draft with name := some name },
      asNullableText, true, fun _ _ => rfl⟩,
    ⟨"nodes", List NodeDefinition, ProcessDraft.nodes,
      fun nodes draft => { draft with nodes := some nodes },
      asList NodeDefinitionDraft.asNode depth, false, fun _ _ => rfl⟩,
    ⟨"flows", List FlowDefinition, ProcessDraft.flows,
      fun flows draft => { draft with flows := some flows },
      asList (asRecord FlowDefinition.record fun _ => FlowDraft.slots) depth, true,
      fun _ _ => rfl⟩]

/-- The record of a process lies in its slots: each field is read into the slot of its name, and
lists are read by the readers of their elements. -/
theorem layout : Layout ProcessDefinition.record slots processNames 3 where
  describes depth := .cons (.of _ (reads_text .text)) <| .cons (.of _ reads_nullableText) <|
    .cons (.of _ (reads_list NodeDefinitionDraft.reads_node depth)) <|
    .cons (.of _ (reads_list (reads_record FlowDraft.layout.describes) depth)) .nil
  separate _ := ⟨show processNames.Nodup by decide, by simp [slots], by simp⟩
  ext _ draft filled h := by
    cases draft
    cases filled
    simpa [slots] using h
  blank _ := by simp [slots, ProcessDefinition.record]
  names _ := rfl
  least _ n := by
    rcases n with _ | _ | _ | _ | n <;> simp [slots]

/-- A process is finished when its id and its nodes have been read; what has not been read has its
default, which is no name and no flows. -/
theorem finish_eq_ok_iff {draft : ProcessDraft} {definition : ProcessDefinition} :
    ProcessDefinition.record.finish draft = .ok definition ↔
      draft.processId = some definition.processId ∧ draft.name.getD none = definition.name ∧
        draft.nodes = some definition.nodes ∧ draft.flows.getD [] = definition.flows := by
  obtain ⟨processId, name, nodes, flows⟩ := definition
  simp only [ProcessDefinition.record, bind_eq_ok_iff, required_eq_ok_iff, join_eq_getD,
    Except.ok.injEq, ProcessDefinition.mk.injEq]
  constructor
  · rintro ⟨processId, hprocessId, nodes, hnodes, rfl, hname, rfl, hflows⟩
    exact ⟨hprocessId, hname, hnodes, hflows⟩
  · rintro ⟨hprocessId, hname, hnodes, hflows⟩
    exact ⟨processId, hprocessId, nodes, hnodes, rfl, hname, rfl, hflows⟩

/-- A process definition is decoded exactly from what encodes it, down to its nodes and flows. -/
theorem decodes : Decodes (asRecord ProcessDefinition.record slots) EncodesProcess := by
  refine layout.decodes fun depth ms hms definition => ?_
  have hnodes (v : Json) (hv : ("nodes", v) ∈ ms) (nodes : List NodeDefinition) :
      asList NodeDefinitionDraft.asNode depth v = .ok nodes ↔ Lists EncodesNode v nodes :=
    decodes_list NodeDefinitionDraft.decodes (hms _ hv).1 (hms _ hv).2 nodes
  have hflows (v : Json) (hv : ("flows", v) ∈ ms) (flows : List FlowDefinition) :
      asList (asRecord FlowDefinition.record fun _ => FlowDraft.slots) depth v = .ok flows ↔
        Lists EncodesFlow v flows :=
    decodes_list FlowDraft.decodes (hms _ hv).1 (hms _ hv).2 flows
  simp only [slots, List.forall_mem_cons, List.not_mem_nil, false_implies, implies_true, and_true,
    finish_eq_ok_iff]
  constructor
  · rintro ⟨draft, ⟨hid, hname, hnodesHeld, hflowsHeld⟩, hidSome, hnameGet, hnodesSome, hflowsGet⟩
    rw [hidSome] at hid
    rw [hnodesSome] at hnodesHeld
    exact ⟨holds_text_iff.mp hid,
      hnameGet ▸ optionally_of_holds hname (fun _ _ _ => asNullableText_eq_ok_iff) none,
      (holds_some_iff hnodes).mp hnodesHeld, hflowsGet ▸ optionally_of_holds hflowsHeld hflows []⟩
  · intro h
    obtain ⟨name, hname, hnameGet⟩ := h.name.exists_holds fun _ _ _ => asNullableText_eq_ok_iff
    obtain ⟨flows, hflowsHeld, hflowsGet⟩ := h.flows.exists_holds hflows
    exact ⟨⟨some definition.processId, name, some definition.nodes, flows⟩,
      ⟨holds_text_iff.mpr h.processId, hname, (holds_some_iff hnodes).mpr h.nodes, hflowsHeld⟩,
      rfl, hnameGet, rfl, hflowsGet⟩

end ProcessDraft

namespace ProcessDefinition

/-- A text that says a value is read as what the value is decoded to. Two texts that say the same
are therefore read alike. -/
theorem ofJsonText_eq_asRecord {text : String} {v : Json} (htext : Says text v) :
    ofJsonText text = asRecord record ProcessDraft.slots maxDepth v :=
  (reads_record ProcessDraft.layout.describes maxDepth v).readWhole htext

/-- A text that says a value with at most 127 levels and distinct keys is read as a definition
exactly if the value encodes the definition, whatever the spelling of the value and the order of its
members. -/
theorem ofJsonText_eq_ok_iff_encodes {text : String} {v : Json} (htext : Says text v)
    (hdepth : v.depth ≤ 127) (hkeys : DistinctKeys v) (definition : ProcessDefinition) :
    ofJsonText text = .ok definition ↔ EncodesProcess v definition := by
  rw [ofJsonText_eq_asRecord htext]
  exact ProcessDraft.decodes hdepth hkeys definition

/-- A definition with its nodes in front, a kind told by its number, an escape in a key, a flow
written as a list, and a member that is passed over. -/
def looseText : String :=
  "\n\x7b\"nodes\" : [ \x7b\"type\":3,\"\\u0069d\":\"e\"\x7d]," ++
    "\"flows\":[[\"f\",\"e\",\"e\"]],\"x\":[null],\"process_id\":\"p\"\x7d"

/-- The value that the text says. -/
def looseValue : Json :=
  .object [("nodes", .list [.object [("type", .number (.integer 3)), ("id", .text "e")]]),
    ("flows", .list [.list [.text "f", .text "e", .text "e"]]), ("x", .list [.null]),
    ("process_id", .text "p")]

/-- The definition that the text holds. -/
def looseDefinition : ProcessDefinition :=
  ⟨"p", none, [.endEvent "e"], [.between "f" "e" "e"]⟩

/-- The text says the value, with its blanks and its escape. -/
theorem says_looseText : Says looseText looseValue := by
  have hspace : Blank [' '] := by simp [Blank, isSpace]
  have hline : Blank ['\n'] := by simp [Blank, isSpace]
  have hkey (s : String) := spellsBody_written s.toList
  have htext (s : String) : Spells (.text s) _ := .text (hkey s)
  have hunit : SpellsUnit (((0 * 16 + 0) * 16 + 6) * 16 + 9) ['0', '0', '6', '9'] :=
    .digits (by decide) (by decide) (by decide) (by decide)
  have hid : SpellsBody "id".toList _ := .char (.unit hunit) (hkey "d")
  have hthree : Spells (.number (.integer 3)) _ := spells_integer (by decide) (by decide)
  have hnode : Spells (.object [("type", .number (.integer 3)), ("id", .text "e")]) _ :=
    .object (.cons (.first blank_nil) (hkey "type") (.colon blank_nil blank_nil) hthree
      (.cons (.later blank_nil blank_nil) hid (.colon blank_nil blank_nil) (htext "e") .nil))
      blank_nil
  have hflow : Spells (.list [.text "f", .text "e", .text "e"]) _ := spells_written (by simp)
  have hrest : Spells (.list [.null]) _ := spells_written (by simp)
  refine ⟨['\n'], _, [], hline, .object (.cons (.first blank_nil) (hkey "nodes")
    (.colon hspace hspace) (.list (.cons (.first hspace) hnode .nil) blank_nil)
    (.cons (.later blank_nil blank_nil) (hkey "flows") (.colon blank_nil blank_nil)
      (.list (.cons (.first blank_nil) hflow .nil) blank_nil)
    (.cons (.later blank_nil blank_nil) (hkey "x") (.colon blank_nil blank_nil) hrest
    (.cons (.later blank_nil blank_nil) (hkey "process_id") (.colon blank_nil blank_nil)
      (htext "p") .nil)))) blank_nil, blank_nil, ?_⟩
  rfl

/-- The text is read as the definition that its value encodes, although its fields stand in an
unusual order and one of its flows has no keys. -/
theorem ofJsonText_looseText :
    (Says looseText looseValue ∧ looseValue.depth ≤ 127 ∧ DistinctKeys looseValue) ∧
      EncodesProcess looseValue looseDefinition ∧ ofJsonText looseText = .ok looseDefinition := by
  have hdepth : looseValue.depth ≤ 127 := by decide
  have hkeys : DistinctKeys looseValue := by
    intro members hmembers
    simp only [looseValue, within_object, within_list, within_text, within_number, within_null,
      List.mem_cons, List.not_mem_nil, or_false, exists_eq_or_imp, exists_eq_left, reduceCtorEq,
      Json.object.injEq, false_or] at hmembers
    rcases hmembers with rfl | rfl <;> decide
  have hnode : EncodesNode (.object [("type", .number (.integer 3)), ("id", .text "e")])
      (.endEvent "e") :=
    .object ⟨by simp [NodeDefinition.endEvent], .missing (by simp),
      ⟨⟨_, List.mem_cons_self, .index rfl⟩, by rintro details ⟨⟩⟩⟩
  have hflow : EncodesFlow (.list [.text "f", .text "e", .text "e"]) (.between "f" "e" "e") := by
    refine ⟨_, .list (by decide) (by decide), ?_, ?_, ?_, .missing ?_, .missing ?_⟩ <;>
      simp [flowNames, FlowDefinition.between]
  have hencodes : EncodesProcess looseValue looseDefinition :=
    ⟨_, .object _, ⟨by simp [looseDefinition], .missing (by simp),
      ⟨_, List.mem_cons_self, .list (.cons hnode .nil)⟩,
      .given (by simp) (.list (.cons hflow .nil))⟩⟩
  exact ⟨⟨says_looseText, hdepth, hkeys⟩, hencodes,
    (ofJsonText_eq_ok_iff_encodes says_looseText hdepth hkeys looseDefinition).mpr hencodes⟩

end ProcessDefinition

end CaseRouting
