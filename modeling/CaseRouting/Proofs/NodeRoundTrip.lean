import CaseRouting.Graph.Read
import CaseRouting.Proofs.DefinitionRoundTrip
import CaseRouting.Proofs.JsonIndenting

/-!
# Nodes read back

A node of a graph is read like the node of a definition, with two more fields of its own. Whatever
node is written, in one line or indented, reading the text gives it back, and so it is for a node
that may be absent.
-/

namespace CaseRouting

open Json

/-- A value that is not nested too deep is read as its tree, in which the members of objects stand
in order. -/
theorem Json.asTree_of_depth_le {depth : Nat} {v : Json} (h : v.depth ≤ depth) :
    asTree depth v = .ok v.canonical := if_pos h

/-- Where every member is collected as a tree, all members are collected in turn, behind what has
been collected before. -/
theorem foldlM_collecting {δ : Type} {step : δ → String × Json → Except Error δ}
    (draft : List (String × Json) → δ) {ms : List (String × Json)}
    (hstep : ∀ m ∈ ms, ∀ collected,
      step (draft collected) m = .ok (draft (collected ++ [(m.1, m.2.canonical)])))
    (collected : List (String × Json)) :
    ms.foldlM step (draft collected) =
      .ok (draft (collected ++ ms.map fun m => (m.1, m.2.canonical))) := by
  induction ms generalizing collected with
  | nil =>
    rw [List.map_nil, List.append_nil]
    rfl
  | cons m ms ih =>
    obtain ⟨hfirst, hrest⟩ := List.forall_mem_cons.mp hstep
    rw [List.foldlM_cons, hfirst collected, ok_bind, ih hrest, List.append_assoc]
    rfl

namespace NodeDraft

/-- The slots of a node of a graph; a list of ids may open so many brackets. The kind has none, for
it is made of the collected members when the node ends. -/
def slots (depth : Nat) : List (Slot Error NodeDraft) :=
  [⟨"id", String, NodeDraft.id, fun id draft => { draft with id := some id }, asText .text, false,
      fun _ _ => rfl⟩,
    ⟨"name", Option String, NodeDraft.name, fun name draft => { draft with name := some name },
      asNullableText, false, fun _ _ => rfl⟩,
    ⟨"incoming", List String, NodeDraft.incoming,
      fun incoming draft => { draft with incoming := some incoming },
      asList (fun _ => asText .text) depth, false, fun _ _ => rfl⟩,
    ⟨"outgoing", List String, NodeDraft.outgoing,
      fun outgoing draft => { draft with outgoing := some outgoing },
      asList (fun _ => asText .text) depth, false, fun _ _ => rfl⟩]

/-- A member without a slot is collected as a tree, if it opens no more brackets than are left. -/
def collectTree (depth : Nat) (m : String × Json) (draft : NodeDraft) : Except Error NodeDraft :=
  (asTree depth m.2).map fun v => { draft with collected := draft.collected ++ [(m.1, v)] }

/-- What a member does to the draft of a node: it goes into the slot of its name, or is
collected. -/
def takeMember (depth : Nat) : NodeDraft → String × Json → Except Error NodeDraft :=
  fillMember duplicateField (slots depth) (collectTree depth)

/-- What a reader of nodes makes of a value, which must be an object, as for the node of a
definition. -/
def asNode : Nat → Json → Except Error Node :=
  asBraced (.record "Node") takeMember ⟨none, none, none, none, []⟩ finish

/-- A node is read from a text that says a value as it is made of that value, whatever the
spelling. -/
theorem reads_node (depth : Nat) (v : Json) : Reads (Node.read depth) v (asNode depth v) := by
  refine reads_braced (fun depth => reads_fieldMember ?_ ?_) (.record "Node")
    ⟨none, none, none, none, []⟩ finish depth v
  · exact .cons (.of _ (reads_text .text)) <| .cons (.of _ reads_nullableText) <|
      .cons (.of _ (reads_list (fun _ => reads_text .text) depth)) <|
      .cons (.of _ (reads_list (fun _ => reads_text .text) depth)) .nil
  · intro key draft w join cs rest hjoin hcs hrest
    obtain ⟨vs, hvs, hcolon⟩ := colon_join hjoin (cs ++ rest)
    have htree := reads_tree depth w hvs hcs hrest
    simp only [collect, collectMember, hcolon, ok_bind, htree, collectTree]
    cases asTree depth w <;> rfl

/-- Members that are none of the node's own and not nested too deep are collected in turn and leave
its slots as they are. -/
theorem foldlM_collect {depth : Nat} {ms : List (String × Json)}
    (hother : ∀ m ∈ ms, ∀ s ∈ slots depth, s.name ≠ m.1) (hdepth : ∀ m ∈ ms, m.2.depth ≤ depth)
    (draft : NodeDraft) :
    ms.foldlM (takeMember depth) draft = .ok { draft with
      collected := draft.collected ++ ms.map fun m => (m.1, m.2.canonical) } := by
  refine foldlM_collecting (fun collected => { draft with collected := collected })
    (fun m hm collected => ?_) draft.collected
  rw [takeMember, fillMember_other (hother m hm), collectTree, asTree_of_depth_le (hdepth m hm),
    map_ok]

end NodeDraft

/-- A list of texts is decoded to the texts, if a bracket may be opened for it. -/
theorem Json.asList_texts (depth : Nat) (ts : List String) :
    asList (fun _ => asText .text) (depth + 1) (Json.texts ts) = .ok ts := by
  have hmeans : ∀ v ∈ ts.map Json.text, ∀ s, asText .text v = .ok s ↔ v = .text s :=
    fun _ _ _ => asText_eq_ok_iff
  exact (mapM_eq_ok_iff hmeans).mpr (forall₂_text_iff.mpr rfl)

/-- A text or null is decoded to what it was written for, which is a text or none. -/
theorem Json.asNullableText_optionalText (s? : Option String) :
    asNullableText (Json.optionalText s?) = .ok s? := by
  cases s? <;> rfl

namespace NodeDraft

/-- The members that tell a kind are none of the node's own, so that they are collected and fill no
slot. -/
theorem name_ne_of_mem_members {kind : NodeKind} {m : String × Json} (hm : m ∈ kind.members)
    {depth : Nat} {s : Slot Error NodeDraft} (hs : s ∈ slots depth) : s.name ≠ m.1 := by
  have hkey : m.1 ∈ ["type", "task_type", "actions"] :=
    (writesKind_members kind).keys.subset (List.mem_map_of_mem hm)
  have hname : s.name ∈ ["id", "name", "incoming", "outgoing"] :=
    List.mem_map_of_mem (f := Slot.name) hs
  have hdisjoint : ∀ name ∈ ["id", "name", "incoming", "outgoing"],
      name ∉ ["type", "task_type", "actions"] := by decide
  exact fun hsame => hdisjoint s.name hname (hsame ▸ hkey)

end NodeDraft

namespace Node

/-- What is written for a node is plain, with at most two brackets open at a time: that of the node
and that of a list in it. -/
theorem plain_toJson (node : Node) : Plain 2 node.toJson := by
  have hwrites : Writes 2 EncodesNode node.toJson ⟨node.id, node.name, node.kind⟩ := by
    refine writes_node (writesKind_members node.kind) (by simp) ?_ List.mem_cons_self
      (.given (by simp) (nullableText_optionalText node.name))
    simp [Plain.text, Plain.texts, Plain.optionalText]
  exact hwrites.plain

/-- What is written for a node is decoded to the node: its own fields go back into their slots, and
its kind is made of the other members. -/
theorem asNode_toJson (node : Node) (depth : Nat) :
    NodeDraft.asNode (depth + 2) node.toJson = .ok node := by
  have hfront : [("id", Json.text node.id), ("name", Json.optionalText node.name),
      ("incoming", Json.texts node.incoming), ("outgoing", Json.texts node.outgoing)].foldlM
        (NodeDraft.takeMember (depth + 1)) ⟨none, none, none, none, []⟩ =
      .ok ⟨some node.id, some node.name, some node.incoming, some node.outgoing, []⟩ := by
    simp [NodeDraft.takeMember, NodeDraft.slots, fillMember, Slot.fill, asText,
      asNullableText_optionalText, asList_texts, pure, Except.pure]
  have hdepth : ∀ m ∈ node.kind.members, m.2.depth ≤ depth + 1 := fun m hm =>
    Nat.le_trans ((writesKind_members node.kind).plain m hm).depth_le (Nat.le_add_left 1 depth)
  have hbehind := NodeDraft.foldlM_collect
    (fun m hm s hs => NodeDraft.name_ne_of_mem_members hm hs) hdepth
    ⟨some node.id, some node.name, some node.incoming, some node.outgoing, []⟩
  rw [toJson, NodeDraft.asNode, asBraced, List.foldlM_append, hfront, ok_bind, hbehind, ok_bind]
  simp [NodeDraft.finish, required, (writesKind_members _).ofCollected, finished]

/-- What is written for a node that may be absent is decoded to the same, null being written for
none. -/
theorem asNullable_optionalJson (node? : Option Node) (depth : Nat) :
    asNullable (NodeDraft.asNode (depth + 2)) (optionalJson node?) = .ok node? := by
  cases node? with
  | none => rfl
  | some node =>
    have hnode : asNullable (NodeDraft.asNode (depth + 2)) node.toJson =
        (NodeDraft.asNode (depth + 2) node.toJson).map some := rfl
    rw [optionalJson, hnode, asNode_toJson, map_ok]

/-- A node that may be absent is read back from any text that says what it is written as, whatever
the layout of the text. -/
theorem readWhole_optionalJson {text : String} {node? : Option Node}
    (htext : Says text (optionalJson node?)) :
    readWhole (readOptional maxDepth) text = .ok node? :=
  ((reads_nullable (NodeDraft.reads_node maxDepth) (optionalJson node?)).readWhole htext).trans
    (asNullable_optionalJson node? 125)

/-- No number is written for a node that may be absent, so that no spelling of a number has to be
looked at. -/
theorem not_within_optionalJson (node? : Option Node) (n : Number) :
    ¬ Within (.number n) (optionalJson node?) := by
  cases node? with
  | none => rintro ⟨⟩
  | some node => exact node.plain_toJson.not_within_number n

/-- A node that may be absent is read back from its indented text, behind which white space may
stand. -/
theorem readWhole_pretty (node? : Option Node) {space : String} (hspace : Blank space.toList) :
    readWhole (readOptional maxDepth) ((optionalJson node?).pretty ++ space) = .ok node? :=
  readWhole_optionalJson <|
    says_pretty (fun n hn => absurd hn (not_within_optionalJson node? n)) hspace

end Node

end CaseRouting
