import CaseRouting.Proofs.NodeRoundTrip

/-!
# Parts of a graph read back

Nodes, kinds, flows and details of tasks are written by themselves, whatever texts and lists they
hold. Each of them is read back from its compact text and from its indented one. A node collects the
members of its kind and decodes them at its end; a kind by itself decodes its tag as soon as it
comes and collects the others; flows and details have all their fields in slots.
-/

namespace CaseRouting

open Json

/-- The reader gives back whatever is written: from the compact text, from the indented one, and
from the line that is printed of it. -/
def ReadsBack {α : Type} (reader : Nat → Reader α) (write : α → Json) : Prop :=
  ∀ a, readWhole (reader maxDepth) (write a).compact = .ok a ∧
    readWhole (reader maxDepth) (write a).pretty = .ok a ∧
    readWhole (reader maxDepth) ((write a).pretty ++ "\n") = .ok a

/-- What is written without numbers and is read as what it was written for is read back, for each of
the three texts says the same value. -/
theorem ReadsBack.of_reads {α : Type} {reader : Nat → Reader α} {write : α → Json}
    (hreads : ∀ a, Reads (reader maxDepth) (write a) (.ok a))
    (hnumbers : ∀ a n, ¬ Within (.number n) (write a)) : ReadsBack reader write := by
  intro a
  have hspelled (n : Number) (hn : Within (.number n) (write a)) : Spells (.number n) n.written :=
    absurd hn (hnumbers a n)
  have hend : Blank "".toList := blank_nil
  have hline : Blank "\n".toList := List.forall_mem_singleton.mpr rfl
  have hpretty := (hreads a).readWhole (says_pretty hspelled hend)
  rw [String.append_empty] at hpretty
  exact ⟨(hreads a).readWhole (says_compact hspelled), hpretty,
    (hreads a).readWhole (says_pretty hspelled hline)⟩

section Flows

namespace SequenceFlow

/-- The slots of a flow of a graph, of which a list may leave out none. Otherwise they are those of
the flow of a definition. -/
def slots : List (Slot Error FlowDraft) :=
  FlowDraft.slots.map fun slot => { slot with mayEndBefore := false }

/-- A flow of a graph is read from a text that says a value as it is made of that value. -/
theorem reads_flow (depth : Nat) (v : Json) :
    Reads (record.read depth) v (asRecord record (fun _ => slots) depth v) :=
  reads_record (fun _ => .cons (.of _ (reads_text .text)) <| .cons (.of _ (reads_text .text)) <|
    .cons (.of _ (reads_text .text)) <| .cons (.of _ reads_boolean) <|
    .cons (.of _ reads_nullableText) .nil) depth v

/-- What is written for a flow is decoded to the flow, since all five fields are written. -/
theorem asRecord_toJson (flow : SequenceFlow) (depth : Nat) :
    asRecord record (fun _ => slots) (depth + 1) flow.toJson = .ok flow := by
  simp [toJson, asRecord, asBraced, slots, FlowDraft.slots, fillMember, Slot.fill, asText,
    asBoolean, asNullableText_optionalText, record, FlowDraft.blank, required, finished]

/-- What is written for a flow is plain, with one bracket open: its own. -/
theorem plain_toJson (flow : SequenceFlow) : Plain 1 flow.toJson :=
  (writes_sequenceFlow ⟨flow.id, flow.source, flow.target, flow.isDefault, flow.condition⟩ 0).plain

end SequenceFlow

end Flows

section Details

namespace TaskDetails

/-- The slots of the details of a task; a list of actions may open so many brackets. Both fields may
be left out. -/
def slots (depth : Nat) : List (Slot Error TaskDraft) :=
  [{ taskTypeSlot with decode := asNullableText, mayEndBefore := true },
    { actionsSlot with decode := asList (fun _ => asText .text) depth, mayEndBefore := true }]

/-- The details of a task are read from a text that says a value as they are made of that value. -/
theorem reads_details (depth : Nat) (v : Json) :
    Reads (record.read depth) v (asRecord record slots depth v) :=
  reads_record (fun depth => .cons (.of _ reads_nullableText) <|
    .cons (.of _ (reads_list (fun _ => reads_text .text) depth)) .nil) depth v

/-- What is written for the details of a task is decoded to the details, also where an absent type
is left out. -/
theorem asRecord_toJson (details : TaskDetails) (depth : Nat) :
    asRecord record slots (depth + 2) details.toJson = .ok details := by
  obtain ⟨taskType, actions⟩ := details
  cases taskType <;>
    simp [toJson, members, optionalMember, asRecord, asBraced, slots, taskTypeSlot, actionsSlot,
      fillMember, Slot.fill, asNullableText, asList_texts, record, finished, TaskDraft.details]

end TaskDetails

end Details

section Kinds

/-- Members that tell a kind make a plain object, in which they open at most one bracket. -/
theorem WritesKind.plain_object {ms : List (String × Json)} {kind : NodeKind}
    (h : WritesKind ms kind) : Plain 2 (.object ms) :=
  .object ((show ["type", "task_type", "actions"].Nodup by decide).sublist h.keys) h.plain

/-- What is written for the details of a task is plain: it stands in what is written for the
task. -/
theorem TaskDetails.plain_toJson (details : TaskDetails) : Plain 2 details.toJson := by
  have hkind := writesKind_members (.task details)
  exact .object (((show ["type", "task_type", "actions"].Nodup by decide).sublist hkind.keys).tail)
    fun m hm => hkind.plain m (List.mem_cons_of_mem _ hm)

/-- What a reader of the name of a kind makes of a value: a text is looked for among the names. -/
def KindTag.asTag (v : Json) : Except Error KindTag := do
  let name ← asText .kindName v
  finished (KindTag.ofName name)

/-- The name of a kind is read from a text that says a value as it is made of that value. -/
theorem KindTag.reads_tag (v : Json) : Reads KindTag.read v (asTag v) := by
  intro ws cs rest hws hcs hrest
  rw [KindTag.read, reads_text .kindName v hws hcs hrest, asTag]
  cases asText .kindName v with
  | error e => rfl
  | ok name =>
    simp only [map_ok, ok_bind]
    cases finished (KindTag.ofName name) <;> rfl

namespace KindDraft

/-- What a member does to the draft of a kind that stands by itself: the type is decoded at once and
may come only once, and any other member is collected. -/
def takeMember (depth : Nat) (draft : KindDraft) (m : String × Json) : Except Error KindDraft :=
  if m.1 = kindField then
    if draft.tag.isSome then .error (duplicateField kindField)
    else (KindTag.asTag m.2).map fun tag => { draft with tag := some tag }
  else (asTree depth m.2).map fun v => { draft with collected := draft.collected ++ [(m.1, v)] }

/-- Reading a member of a kind behind its key does to the draft what the member does to it. -/
theorem reads_member (depth : Nat) (draft : KindDraft) (m : String × Json) :
    ReadsBehindColon (member depth m.1 draft) m.2 (takeMember depth draft m) := by
  intro join cs rest hjoin hcs hrest
  obtain ⟨vs, hvs, hcolon⟩ := colon_join hjoin (cs ++ rest)
  unfold member takeMember
  split
  · split
    · rfl
    · rw [hcolon, ok_bind, KindTag.reads_tag m.2 hvs hcs hrest]
      cases KindTag.asTag m.2 <;> rfl
  · simp only [collectMember, hcolon, ok_bind, reads_tree depth m.2 hvs hcs hrest]
    cases asTree depth m.2 <;> rfl

end KindDraft

namespace NodeKind

/-- What a reader of kinds makes of the members of an object: a type is required, and what has been
collected gives the details. -/
def asMembers (depth : Nat) (ms : List (String × Json)) : Except Error NodeKind := do
  let draft ← ms.foldlM (KindDraft.takeMember depth) ⟨none, []⟩
  let tag ← finished (required kindField draft.tag)
  finished (NodeKind.ofMembers tag draft.collected)

/-- A kind is read from a text that says an object as it is made of the members of the object. -/
theorem reads_object (name : String) (depth : Nat) (ms : List (String × Json)) :
    Reads (NodeKind.read name (depth + 1)) (.object ms) (asMembers depth ms) := by
  intro ws cs rest hws hcs hrest
  unfold NodeKind.read
  rw [skipSpace_of_spells hws hcs rest]
  cases hcs with
  | object hbody hvs =>
    have hobject := objectBody_of_spells (fun m _ draft => KindDraft.reads_member depth draft m)
      hbody hvs ⟨none, []⟩ (fun draft => do
        let tag ← required kindField draft.tag
        .ok (tag, draft.collected)) rest
    simp only [List.cons_append, List.append_assoc, List.nil_append, hobject, asMembers]
    cases ms.foldlM (KindDraft.takeMember depth) ⟨none, []⟩ with
    | error e => rfl
    | ok draft =>
      obtain ⟨tag?, collected⟩ := draft
      cases tag? with
      | none => rfl
      | some tag =>
        simp only [required, ok_bind, finished, map_ok]
        cases NodeKind.ofMembers tag collected <;> rfl

/-- The type of a kind is written in front of its details, and no other member has its key. -/
theorem exists_members_eq (kind : NodeKind) :
    ∃ details, kind.members = ("type", .text kind.name) :: details ∧
      ∀ m ∈ details, m.1 ≠ kindField := by
  refine ⟨kind.members.tail, rfl, fun m hm hkey => ?_⟩
  have hkeys := (show ["type", "task_type", "actions"].Nodup by decide).sublist
    (writesKind_members kind).keys
  have hbehind : m.1 ∈ kind.members.tail.map Prod.fst := List.mem_map_of_mem hm
  rw [hkey] at hbehind
  exact (List.nodup_cons.mp hkeys).1 hbehind

/-- What is collected behind the type tells the kind, as it does behind the type in a node. -/
theorem ofMembers_details {kind : NodeKind} {details : List (String × Json)}
    (hmembers : kind.members = ("type", .text kind.name) :: details)
    (hother : ∀ m ∈ details, m.1 ≠ kindField) :
    NodeKind.ofMembers kind.tag (details.map fun m => (m.1, m.2.canonical)) = .ok kind := by
  have htag : KindTag.ofName kind.name = .ok kind.tag :=
    KindTag.ofName_eq_ok_iff.mpr kind.tag_name.symm
  have habsent : ∀ v, (kindField, v) ∉ details.map fun m => (m.1, m.2.canonical) := by
    intro v hv
    obtain ⟨m, hm, heq⟩ := List.mem_map.mp hv
    exact hother m hm (congrArg Prod.fst heq)
  have hsplit : splitKind none (("type", .text kind.name) ::
      details.map fun m => (m.1, m.2.canonical)) =
        .ok (kind.tag, details.map fun m => (m.1, m.2.canonical)) := by
    simp [splitKind, kindField, KindTag.ofValue, htag, splitKind_some _ habsent]
  have hkind := (writesKind_members kind).ofCollected
  rw [hmembers] at hkind
  change (splitKind none (("type", .text kind.name) ::
    details.map fun m => (m.1, m.2.canonical)) >>= _) = _ at hkind
  rwa [hsplit] at hkind

/-- What is written for a kind is decoded to the kind, with all details of a task. -/
theorem asMembers_members (kind : NodeKind) (depth : Nat) :
    asMembers (depth + 1) kind.members = .ok kind := by
  obtain ⟨details, hmembers, hother⟩ := kind.exists_members_eq
  have hdepth : ∀ m ∈ details, m.2.depth ≤ depth + 1 := by
    intro m hm
    have hplain := (writesKind_members kind).plain m (hmembers ▸ List.mem_cons_of_mem _ hm)
    exact Nat.le_trans hplain.depth_le (Nat.le_add_left 1 depth)
  have hfront : KindDraft.takeMember (depth + 1) ⟨none, []⟩ ("type", .text kind.name) =
      .ok ⟨some kind.tag, []⟩ := by
    simp [KindDraft.takeMember, kindField, KindTag.asTag, asText,
      KindTag.ofName_eq_ok_iff.mpr kind.tag_name.symm, finished]
  have hstep : ∀ m ∈ details, ∀ collected,
      KindDraft.takeMember (depth + 1) ⟨some kind.tag, collected⟩ m =
        .ok ⟨some kind.tag, collected ++ [(m.1, m.2.canonical)]⟩ := by
    intro m hm collected
    rw [KindDraft.takeMember, if_neg (hother m hm), asTree_of_depth_le (hdepth m hm), map_ok]
  have hbehind := foldlM_collecting (KindDraft.mk (some kind.tag)) hstep []
  rw [asMembers, hmembers, List.foldlM_cons, hfront, ok_bind, hbehind, ok_bind]
  simp only [required, finished, ok_bind, List.nil_append, ofMembers_details hmembers hother]

end NodeKind

end Kinds

/-- Every part of a graph is read back from what is written for it, in one line or indented: nodes,
kinds, flows, details of tasks, and a node that may be absent. -/
theorem elements_read_back :
    ReadsBack Node.read Node.toJson ∧
    ReadsBack (NodeKind.read "NodeKind") NodeKind.toJson ∧
    ReadsBack SequenceFlow.record.read SequenceFlow.toJson ∧
    ReadsBack TaskDetails.record.read TaskDetails.toJson ∧
    ReadsBack Node.readOptional Node.optionalJson := by
  refine ⟨.of_reads (fun node => ?_) fun node => node.plain_toJson.not_within_number,
    .of_reads (fun kind => ?_) fun kind => (writesKind_members kind).plain_object.not_within_number,
    .of_reads (fun flow => ?_) fun flow => flow.plain_toJson.not_within_number,
    .of_reads (fun details => ?_) fun details => details.plain_toJson.not_within_number,
    .of_reads (fun node? => ?_) Node.not_within_optionalJson⟩
  · exact Node.asNode_toJson node 125 ▸ NodeDraft.reads_node maxDepth node.toJson
  · exact kind.asMembers_members 125 ▸ NodeKind.reads_object "NodeKind" 126 kind.members
  · exact flow.asRecord_toJson 126 ▸ SequenceFlow.reads_flow maxDepth flow.toJson
  · exact details.asRecord_toJson 125 ▸ TaskDetails.reads_details maxDepth details.toJson
  · exact Node.asNullable_optionalJson node? 125 ▸
      reads_nullable (NodeDraft.reads_node maxDepth) (Node.optionalJson node?)

end CaseRouting
