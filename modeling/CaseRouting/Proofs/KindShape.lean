import CaseRouting.Proofs.DefinitionShape

/-!
# The kind of a node from its members

The members of a node that are not its own are collected as trees and looked at when the node ends.
What comes of them is what the members themselves tell, in whatever order they stand: putting the
objects within them in order changes neither a text nor a number nor a list of texts.
-/

namespace CaseRouting

open Json

/-- The name of a kind without details, as it stands in a text under the key of the type. -/
def KindTag.name : KindTag → String
  | .startEvent => "start_event"
  | .task => "task"
  | .gateway => "gateway"
  | .endEvent => "end_event"

/-- The kind of a node without the details of a task. -/
def NodeKind.tag : NodeKind → KindTag
  | .startEvent => .startEvent
  | .task _ => .task
  | .gateway => .gateway
  | .endEvent => .endEvent

/-- Details do not change the name of a kind. -/
theorem NodeKind.tag_name (kind : NodeKind) : kind.tag.name = kind.name := by
  cases kind <;> rfl

/-- A kind is found under its own name and under no other, so that the name tells the kind. -/
theorem KindTag.ofName_eq_ok_iff {name : String} {tag : KindTag} :
    KindTag.ofName name = .ok tag ↔ name = tag.name := by
  constructor
  · intro h
    unfold KindTag.ofName at h
    split_ifs at h with hstart htask hgateway hend <;> obtain rfl := Except.ok.inj h
    · exact hstart
    · exact htask
    · exact hgateway
    · exact hend
  · rintro rfl
    cases tag <;> rfl

/-- A kind is found under its number, which is the place of its name among the names of the
kinds. -/
theorem KindTag.ofIndex_eq_ok_iff {i : Nat} {tag : KindTag} :
    KindTag.ofIndex i = .ok tag ↔ kindNames[i]? = some tag.name := by
  match i with
  | 0 => cases tag <;> simp [KindTag.ofIndex, kindNames, KindTag.name]
  | 1 => cases tag <;> simp [KindTag.ofIndex, kindNames, KindTag.name]
  | 2 => cases tag <;> simp [KindTag.ofIndex, kindNames, KindTag.name]
  | 3 => cases tag <;> simp [KindTag.ofIndex, kindNames, KindTag.name]
  | i + 4 => simp [KindTag.ofIndex, kindNames]

/-- Every kind has its name among the names of the kinds, so that it can be told by a number too. -/
theorem KindTag.name_mem (tag : KindTag) : tag.name ∈ kindNames := by
  cases tag <;> decide

/-- A kind is found exactly for the values that tell it, which are the text of its name and the
number of its place. -/
theorem KindTag.ofValue_eq_ok_iff {v : Json} {tag : KindTag} :
    KindTag.ofValue v = .ok tag ↔ TellsKind v tag.name := by
  constructor
  · intro h
    match v with
    | .text name =>
      rw [KindTag.ofName_eq_ok_iff.mp h]
      exact .name tag.name_mem
    | .number (.integer (.ofNat i)) => exact .index (KindTag.ofIndex_eq_ok_iff.mp h)
    | .number (.integer (.negSucc i)) => exact absurd h nofun
    | .number (.decimal x) => exact absurd h nofun
    | .null => exact absurd h nofun
    | .boolean b => exact absurd h nofun
    | .list items => exact absurd h nofun
    | .object members => exact absurd h nofun
  · intro h
    generalize hname : tag.name = name at h
    cases h with
    | name => exact KindTag.ofName_eq_ok_iff.mpr hname.symm
    | index hindex => exact KindTag.ofIndex_eq_ok_iff.mpr (hname ▸ hindex)

/-- A collected value is taken as an optional text exactly if it is null or a text. -/
theorem nullableOfValue_eq_ok_iff {v : Json} {s? : Option String} :
    nullableOfValue v = .ok s? ↔ NullableText v s? := by
  constructor
  · intro h
    cases v with
    | null =>
      obtain rfl := Except.ok.inj h
      exact .null
    | text s =>
      obtain rfl := Except.ok.inj h
      exact .text s
    | _ => exact absurd h nofun
  · intro h
    cases h <;> rfl

/-- A collected value is taken as a text exactly if it is one. -/
theorem textOfValue_eq_ok_iff {v : Json} {s : String} :
    textOfValue v = .ok s ↔ v = .text s := by
  cases v <;> simp [textOfValue, refuseValue]

/-- Elements that are texts, one by one, make the list of these texts and nothing else. -/
theorem forall₂_text_iff {items : List Json} {ts : List String} :
    List.Forall₂ (fun v s => v = .text s) items ts ↔ items = ts.map Json.text := by
  have hmap : List.Forall₂ Eq items (ts.map Json.text) ↔
      List.Forall₂ (fun v s => v = .text s) items ts := List.forall₂_map_right_iff
  rw [← hmap, List.forall₂_eq_eq_eq]

/-- A collected value is taken as a list of texts exactly if it is a list all of whose elements are
texts. -/
theorem textsOfValue_eq_ok_iff {v : Json} {ts : List String} :
    textsOfValue v = .ok ts ↔ v = Json.texts ts := by
  cases v with
  | list items =>
    rw [textsOfValue, mapM_eq_ok_iff fun v _ s => textOfValue_eq_ok_iff, forall₂_text_iff,
      Json.texts, Json.list.injEq]
  | _ => exact ⟨nofun, nofun⟩

section Task

/-- The slot for the type of a task, which may be null and may be left out. -/
def taskTypeSlot : Slot Mismatch TaskDraft where
  name := "task_type"
  Value := Option String
  get := TaskDraft.taskType
  put taskType draft := { draft with taskType := some taskType }
  decode := nullableOfValue
  mayEndBefore := true
  get_put _ _ := rfl

/-- The slot for the actions of a task, a list of texts which may be left out. -/
def actionsSlot : Slot Mismatch TaskDraft where
  name := "actions"
  Value := List String
  get := TaskDraft.actions
  put actions draft := { draft with actions := some actions }
  decode := textsOfValue
  mayEndBefore := true
  get_put _ _ := rfl

/-- The slots of a task. Members with other names belong to none of them and are passed over. -/
def taskSlots : List (Slot Mismatch TaskDraft) := [taskTypeSlot, actionsSlot]

/-- The slots of a task are separate: filling one leaves what is in the other, and a member that is
passed over leaves both. -/
theorem taskSlots_separate : Separate taskSlots fun _ draft => .ok draft where
  names := by decide
  apart := by simp [taskSlots, taskTypeSlot, actionsSlot]
  absorbed := by simp

/-- The members of a task fill its slots in turn, as those of a record do. The details are taken
from the draft when the members end. -/
theorem taskDetails_eq_foldlM (draft : TaskDraft) (cs : List (String × Json)) :
    taskDetails draft cs =
      (cs.foldlM (fillMember .duplicateField taskSlots fun _ draft => .ok draft) draft).map
        TaskDraft.details := by
  induction cs generalizing draft with
  | nil => rfl
  | cons m cs ih =>
    obtain ⟨key, v⟩ := m
    rw [taskDetails, List.foldlM_cons]
    simp only [ih]
    by_cases htype : key = "task_type"
    · subst htype
      cases hread : draft.taskType <;> cases hv : nullableOfValue v <;>
        simp [fillMember, taskSlots, taskTypeSlot, Slot.fill, hread, hv]
    · by_cases hactions : key = "actions"
      · subst hactions
        cases hread : draft.actions <;> cases hv : textsOfValue v <;>
          simp [fillMember, taskSlots, taskTypeSlot, actionsSlot, Slot.fill, hread, hv]
      · simp [fillMember, taskSlots, taskTypeSlot, actionsSlot, htype, hactions, eq_comm]

/-- A task has the details that its members give, wherever they stand: the value under the key where
there is one, and the default where there is none. -/
theorem taskDetails_eq_ok_iff {cs : List (String × Json)} (hkeys : (cs.map Prod.fst).Nodup)
    {details : TaskDetails} :
    taskDetails ⟨none, none⟩ cs = .ok details ↔ TaskMembers cs details := by
  have hext (draft filled : TaskDraft)
      (h : ∀ s ∈ taskSlots, s.get draft = s.get filled) : draft = filled := by
    cases draft
    cases filled
    simpa [taskSlots, taskTypeSlot, actionsSlot] using h
  have hempty : ∀ s ∈ taskSlots, s.get ⟨none, none⟩ = none := by
    simp [taskSlots, taskTypeSlot, actionsSlot]
  rw [taskDetails_eq_foldlM, map_eq_ok_iff]
  simp only [taskSlots_separate.foldlM_eq_ok_iff hext hkeys hempty]
  constructor
  · rintro ⟨⟨taskType, actions⟩, hholds, rfl⟩
    have htaskType : Holds cs "task_type" nullableOfValue taskType :=
      hholds taskTypeSlot (by simp [taskSlots])
    have hactions : Holds cs "actions" textsOfValue actions :=
      hholds actionsSlot (by simp [taskSlots])
    constructor
    · rw [TaskDraft.details, join_eq_getD]
      exact optionally_of_holds htaskType (fun _ _ _ => nullableOfValue_eq_ok_iff) none
    · exact optionally_of_holds hactions (fun _ _ _ => textsOfValue_eq_ok_iff) []
  · rintro ⟨htaskType, hactions⟩
    obtain ⟨taskType, htaskType, hname⟩ :=
      htaskType.exists_holds fun _ _ _ => nullableOfValue_eq_ok_iff
    obtain ⟨actions, hactions, hlist⟩ := hactions.exists_holds fun _ _ _ => textsOfValue_eq_ok_iff
    refine ⟨⟨taskType, actions⟩, ?_, ?_⟩
    · exact List.forall_mem_cons.mpr ⟨htaskType, List.forall_mem_singleton.mpr hactions⟩
    · rw [TaskDraft.details, join_eq_getD, hname, hlist]

end Task

/-- Members without a kind are all kept behind a kind that has been found, in their order. -/
theorem splitKind_some (tag : KindTag) {cs : List (String × Json)}
    (habsent : ∀ v, (kindField, v) ∉ cs) : splitKind (some tag) cs = .ok (tag, cs) := by
  induction cs with
  | nil => rfl
  | cons m cs ih =>
    obtain ⟨key, v⟩ := m
    have hkey : key ≠ kindField := by
      rintro rfl
      exact habsent v List.mem_cons_self
    simp [splitKind, hkey, ih fun w hw => habsent w (List.mem_cons_of_mem _ hw)]

/-- Splitting members with distinct keys finds the kind that the type tells, wherever it stands, and
keeps all other members. Either the first member tells the kind and no later one does, or later
members tell it and the first is kept. -/
theorem splitKind_none_eq_ok_iff {cs : List (String × Json)} (hkeys : (cs.map Prod.fst).Nodup)
    {tag : KindTag} {others : List (String × Json)} :
    splitKind none cs = .ok (tag, others) ↔
      (∃ v, (kindField, v) ∈ cs ∧ TellsKind v tag.name) ∧
        others = cs.filter fun m => m.1 ≠ kindField := by
  induction cs generalizing others with
  | nil => simp [splitKind]
  | cons m cs ih =>
    obtain ⟨key, v⟩ := m
    obtain ⟨hkey, hkeys⟩ := List.nodup_cons.mp hkeys
    by_cases htype : key = kindField
    · subst htype
      have habsent : ∀ w, (kindField, w) ∉ cs := fun w hw => hkey (List.mem_map.mpr ⟨_, hw, rfl⟩)
      have hfilter : (cs.filter fun m => m.1 ≠ kindField) = cs := by
        refine List.filter_eq_self.mpr fun m hm => ?_
        simpa using fun hname : m.1 = kindField => habsent m.2 (hname ▸ hm)
      have hfound : (∃ w, (kindField, w) ∈ (kindField, v) :: cs ∧ TellsKind w tag.name) ↔
          TellsKind v tag.name := by
        simp [habsent]
      rw [hfound, ← KindTag.ofValue_eq_ok_iff, List.filter_cons_of_neg (by simp), hfilter]
      simp only [splitKind, if_true, Option.isSome_none, Bool.false_eq_true, if_false,
        bind_eq_ok_iff, splitKind_some _ habsent, Except.ok.injEq, Prod.mk.injEq]
      constructor
      · rintro ⟨_, hv, rfl, rfl⟩
        exact ⟨hv, rfl⟩
      · rintro ⟨hv, rfl⟩
        exact ⟨tag, hv, rfl, rfl⟩
    · have hfound : (∃ w, (kindField, w) ∈ (key, v) :: cs ∧ TellsKind w tag.name) ↔
          ∃ w, (kindField, w) ∈ cs ∧ TellsKind w tag.name := by
        simp [Ne.symm htype]
      simp only [splitKind, htype, if_false, bind_eq_ok_iff, Prod.exists, hfound]
      simp [htype, ih hkeys, eq_comm]

/-- A node of a task has the details that its members give. For the other kinds nothing is read from
the members. -/
theorem ofMembers_eq_ok_iff {tag : KindTag} {cs : List (String × Json)}
    (hkeys : (cs.map Prod.fst).Nodup) {kind : NodeKind} :
    NodeKind.ofMembers tag cs = .ok kind ↔
      kind.tag = tag ∧ ∀ details, kind = .task details → TaskMembers cs details := by
  cases tag with
  | task =>
    simp only [NodeKind.ofMembers, bind_eq_ok_iff, taskDetails_eq_ok_iff hkeys]
    cases kind <;> simp [NodeKind.tag]
  | _ => cases kind <;> simp [NodeKind.ofMembers, NodeKind.tag]

section Collected

/-- The members that a node collects: all but those of its own fields, as trees. They are kept until
the node ends, for the type may stand behind the details. -/
def collectedMembers (ms : List (String × Json)) : List (String × Json) :=
  (ms.filter fun m => m.1 ∉ ["id", "name"]).map fun m => (m.1, m.2.canonical)

/-- A member of the node's own is not collected, for it fills a slot. -/
theorem collectedMembers_cons_own {m : String × Json} (hown : m.1 ∈ ["id", "name"])
    (ms : List (String × Json)) : collectedMembers (m :: ms) = collectedMembers ms := by
  have hleft : decide (m.1 ∉ ["id", "name"]) = false := decide_eq_false (not_not.mpr hown)
  rw [collectedMembers, List.filter_cons, hleft]
  rfl

/-- Any other member is collected as a tree, behind its key. -/
theorem collectedMembers_cons_other {m : String × Json} (hother : m.1 ∉ ["id", "name"])
    (ms : List (String × Json)) :
    collectedMembers (m :: ms) = (m.1, m.2.canonical) :: collectedMembers ms := by
  rw [collectedMembers, List.filter_cons, decide_eq_true hother]
  rfl

/-- Under a key that is none of the node's own stands, among what is collected, the tree of what
stood there. -/
theorem mem_collectedMembers {ms : List (String × Json)} {key : String} {w : Json}
    (hkey : key ∉ ["id", "name"]) :
    (key, w) ∈ collectedMembers ms ↔ ∃ v, (key, v) ∈ ms ∧ v.canonical = w := by
  simp only [collectedMembers, List.mem_map, List.mem_filter, decide_eq_true_eq, Prod.exists,
    Prod.mk.injEq]
  constructor
  · rintro ⟨k, v, ⟨hmem, -⟩, rfl, hv⟩
    exact ⟨v, hmem, hv⟩
  · rintro ⟨v, hmem, hv⟩
    exact ⟨key, v, ⟨hmem, hkey⟩, rfl, hv⟩

/-- Collected members have distinct keys as all members have, since collecting leaves the keys as
they are. -/
theorem nodup_collectedMembers {ms : List (String × Json)} (hkeys : (ms.map Prod.fst).Nodup) :
    ((collectedMembers ms).map Prod.fst).Nodup := by
  have hmap : (collectedMembers ms).map Prod.fst =
      (ms.filter fun m => m.1 ∉ ["id", "name"]).map Prod.fst := by
    simp [collectedMembers]
  rw [hmap]
  exact hkeys.sublist (List.filter_sublist.map Prod.fst)

/-- A key gives the same in other members where the same stands under it, up to what the meaning
does not look at. So what an optional field is read as may be asked of the collected members or of
all. -/
theorem optionally_congr {α : Type} {means : Json → α → Prop} {f : Json → Json}
    {ms cs : List (String × Json)} {key : String}
    (hmem : ∀ w, (key, w) ∈ cs ↔ ∃ v, (key, v) ∈ ms ∧ f v = w)
    (hmeans : ∀ v a, means (f v) a ↔ means v a) {default a : α} :
    Optionally cs key means default a ↔ Optionally ms key means default a := by
  constructor
  · intro h
    cases h with
    | missing habsent =>
      exact .missing fun v hv => habsent (f v) ((hmem (f v)).mpr ⟨v, hv, rfl⟩)
    | given hw hmeaning =>
      obtain ⟨v, hv, rfl⟩ := (hmem _).mp hw
      exact .given hv ((hmeans v a).mp hmeaning)
  · intro h
    cases h with
    | missing habsent =>
      refine .missing fun w hw => ?_
      obtain ⟨v, hv, -⟩ := (hmem w).mp hw
      exact habsent v hv
    | given hv hmeaning =>
      exact .given ((hmem _).mpr ⟨_, hv, rfl⟩) ((hmeans _ a).mpr hmeaning)

/-- The tree of a value is null or a text exactly when the value is, for putting members in order
changes neither. -/
theorem nullableText_canonical {v : Json} {s? : Option String} :
    NullableText v.canonical s? ↔ NullableText v s? := by
  cases v with
  | list items => exact ⟨nofun, nofun⟩
  | object members => exact ⟨nofun, nofun⟩
  | _ => exact Iff.rfl

/-- The tree of a value tells a kind exactly when the value does, for a text and a number are trees
as they stand. -/
theorem tellsKind_canonical {v : Json} {name : String} :
    TellsKind v.canonical name ↔ TellsKind v name := by
  cases v with
  | list items => exact ⟨nofun, nofun⟩
  | object members => exact ⟨nofun, nofun⟩
  | _ => exact Iff.rfl

/-- The tree of a value is a text exactly when the value is that text. -/
theorem canonical_eq_text_iff {v : Json} {s : String} : v.canonical = .text s ↔ v = .text s := by
  cases v <;> simp [canonical]

/-- The trees of elements are texts exactly when the elements are, one by one. -/
theorem canonicalItems_eq_texts_iff {items : List Json} {ts : List String} :
    canonicalItems items = ts.map Json.text ↔ items = ts.map Json.text := by
  induction items generalizing ts with
  | nil => rfl
  | cons v items ih =>
    cases ts with
    | nil => simp [canonicalItems]
    | cons s ts => simp [canonicalItems, canonical_eq_text_iff, ih]

/-- The tree of a value is a list of texts exactly when the value is that list. -/
theorem canonical_eq_texts_iff {v : Json} {ts : List String} :
    v.canonical = Json.texts ts ↔ v = Json.texts ts := by
  cases v <;> simp [canonical, Json.texts, canonicalItems_eq_texts_iff]

/-- The kind of a node is made of its collected members exactly as its members give it. What is
collected is all but the node's own members, and what is left of it without the type gives the
details; under each of the keys that are asked for there, both hold what the members hold. -/
theorem ofCollected_eq_ok_iff {ms : List (String × Json)} (hkeys : (ms.map Prod.fst).Nodup)
    {kind : NodeKind} :
    NodeKind.ofCollected (collectedMembers ms) = .ok kind ↔ KindMembers ms kind := by
  have hnodup := nodup_collectedMembers hkeys
  have hothers : (((collectedMembers ms).filter fun m => m.1 ≠ kindField).map Prod.fst).Nodup :=
    hnodup.sublist (List.filter_sublist.map Prod.fst)
  have htells (name : String) : (∃ w, (kindField, w) ∈ collectedMembers ms ∧ TellsKind w name) ↔
      ∃ v, (kindField, v) ∈ ms ∧ TellsKind v name := by
    simp only [mem_collectedMembers (show kindField ∉ ["id", "name"] by decide)]
    constructor
    · rintro ⟨_, ⟨v, hv, rfl⟩, htells⟩
      exact ⟨v, hv, tellsKind_canonical.mp htells⟩
    · rintro ⟨v, hv, htells⟩
      exact ⟨v.canonical, ⟨v, hv, rfl⟩, tellsKind_canonical.mpr htells⟩
  have hmember {key : String} (hown : key ∉ ["id", "name"]) (hkind : key ≠ kindField) (w : Json) :
      (key, w) ∈ (collectedMembers ms).filter (fun m => m.1 ≠ kindField) ↔
        ∃ v, (key, v) ∈ ms ∧ v.canonical = w := by
    rw [List.mem_filter, ← mem_collectedMembers hown]
    simp [hkind]
  have htask (details : TaskDetails) :
      TaskMembers ((collectedMembers ms).filter fun m => m.1 ≠ kindField) details ↔
        TaskMembers ms details := by
    have htaskType : Optionally _ "task_type" NullableText none details.taskType ↔
        Optionally ms "task_type" NullableText none details.taskType :=
      optionally_congr (hmember (by decide) (by decide)) fun _ _ => nullableText_canonical
    have hactions : Optionally _ "actions" (fun v ts => v = Json.texts ts) [] details.actions ↔
        Optionally ms "actions" (fun v ts => v = Json.texts ts) [] details.actions :=
      optionally_congr (hmember (by decide) (by decide)) fun _ _ => canonical_eq_texts_iff
    exact ⟨fun h => ⟨htaskType.mp h.taskType, hactions.mp h.actions⟩,
      fun h => ⟨htaskType.mpr h.taskType, hactions.mpr h.actions⟩⟩
  unfold NodeKind.ofCollected
  simp only [bind_eq_ok_iff, Prod.exists, splitKind_none_eq_ok_iff hnodup, htells]
  constructor
  · rintro ⟨tag, others, ⟨htype, rfl⟩, hkind⟩
    obtain ⟨rfl, hdetails⟩ := (ofMembers_eq_ok_iff hothers).mp hkind
    rw [kind.tag_name] at htype
    exact ⟨htype, fun details hdetail => (htask details).mp (hdetails details hdetail)⟩
  · rintro ⟨htype, hdetails⟩
    rw [← kind.tag_name] at htype
    exact ⟨kind.tag, _, ⟨htype, rfl⟩, (ofMembers_eq_ok_iff hothers).mpr
      ⟨rfl, fun details hdetail => (htask details).mpr (hdetails details hdetail)⟩⟩

end Collected

end CaseRouting
