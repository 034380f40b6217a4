import CaseRouting.Gateway.CaseText
import CaseRouting.Proofs.JsonWriting
import CaseRouting.Proofs.RecordReading
import CaseRouting.Proofs.TreeReading

/-!
# Case data read back

The payload of a case is a value whose objects are dictionaries: their members ascend by key. What
is written for a case is read as the case, unless the payload opens more brackets at once than the
reader has left behind that of the case itself; the writer knows no such limit.
-/

namespace CaseRouting

open Json

namespace Json

/-- The members of every object within the value ascend by key, as the entries of dictionaries
do. -/
def Ordered (v : Json) : Prop := ∀ members, Within (.object members) v → Ascending members

/-- Every number within the value is an integer that a text gives exactly, that is, none is a
floating-point number. -/
def Exact (v : Json) : Prop :=
  ∀ n, Within (.number n) v →
    ∃ i : Int, n = .integer i ∧ -(maxNegative : Int) ≤ i ∧ i ≤ maxInteger

/-- A key beyond all others is inserted at the end, so that entries put in by ascending keys keep
their order. -/
theorem insertMember_append {α : Type} {entries : List (String × α)} {key : String}
    (h : ∀ entry ∈ entries, entry.1 < key) (value : α) :
    insertMember key value entries = entries ++ [(key, value)] := by
  induction entries with
  | nil => rfl
  | cons entry entries ih =>
    obtain ⟨k, v⟩ := entry
    have hlt : k < key := h (k, v) List.mem_cons_self
    have hnot : ¬ key < k := String.lt_asymm hlt
    have hne : key ≠ k := by
      rintro rfl
      exact hnot hlt
    simp [insertMember, hnot, hne, ih fun entry hentry => h entry (List.mem_cons_of_mem _ hentry)]

/-- Entries that ascend are those behind which the last one is inserted: each has a smaller key. -/
theorem lt_of_ascending {α : Type} {front rest : List (String × α)} {entry : String × α}
    (h : Ascending (front ++ entry :: rest)) : ∀ other ∈ front, other.1 < entry.1 :=
  fun other hother => (List.pairwise_append.mp h).2.2 other hother entry List.mem_cons_self

/-- Members that ascend are gathered as they stand, if their values are already in order. -/
theorem gather_of_ascending {front members : List (String × Json)}
    (h : Ascending (front ++ members)) (hcanonical : ∀ m ∈ members, m.2.canonical = m.2) :
    gather front members = front ++ members := by
  induction members generalizing front with
  | nil => rw [gather, List.append_nil]
  | cons m members ih =>
    obtain ⟨key, value⟩ := m
    have hvalue : value.canonical = value := hcanonical (key, value) List.mem_cons_self
    have hsplit : front ++ (key, value) :: members = front ++ [(key, value)] ++ members :=
      List.append_cons front (key, value) members
    rw [gather, hvalue, insertMember_append (lt_of_ascending h)]
    rw [hsplit] at h ⊢
    exact ih h fun m hm => hcanonical m (List.mem_cons_of_mem _ hm)

/-- Elements that are in order stay as they are, one by one. -/
theorem canonicalItems_eq_self {items : List Json} (h : ∀ v ∈ items, v.canonical = v) :
    canonicalItems items = items := by
  induction items with
  | nil => rfl
  | cons v items ih =>
    rw [canonicalItems, h v List.mem_cons_self, ih fun w hw => h w (List.mem_cons_of_mem _ hw)]

/-- Putting an ordered value in order changes nothing, at any depth, so that reading it gives the
value itself. -/
theorem Ordered.canonical_eq {v : Json} (h : Ordered v) : v.canonical = v := by
  induction v using Json.induction with
  | list items ih =>
    rw [canonical, canonicalItems_eq_self fun w hw => ih w hw fun members hmembers =>
      h members (.item hw hmembers)]
  | object members ih =>
    have hmembers (m : String × Json) (hm : m ∈ members) : m.2.canonical = m.2 :=
      ih m hm fun inner hinner => h inner (.member hm hinner)
    have hascending : Ascending ([] ++ members) := h members .self
    rw [canonical, gather_of_ascending hascending hmembers, List.nil_append]
  | _ => rfl

/-- The numbers of an exact value are spelled by what is written for them. -/
theorem Exact.spells {v : Json} (h : Exact v) (n : Number) (hn : Within (.number n) v) :
    Spells (.number n) n.written := by
  obtain ⟨i, rfl, hlow, hhigh⟩ := h n hn
  exact spells_integer hlow hhigh

end Json

section Dictionaries

/-- An entry of a dictionary of texts goes in under its key, in the place of one that was there
before. -/
def insertText (entries : Dictionary String) (m : String × Json) :
    Except Error (Dictionary String) :=
  (asText .text m.2).map (entries.insert m.1 ·)

/-- What a reader of dictionaries of texts makes of a value; a key may come twice here, and the last
one counts. -/
def asDictionary : Nat → Json → Except Error (Dictionary String) :=
  asBraced .dictionary (fun _ => insertText) Dictionary.empty .ok

/-- A dictionary of texts is read from a text that says a value as it is made of that value. -/
theorem reads_dictionary (depth : Nat) (v : Json) :
    Reads (readDictionary depth) v (asDictionary depth v) :=
  reads_braced (fun _ entries m =>
    ((reads_text .text m.2).map fun s => entries.insert m.1 s).behindColon) .dictionary
    Dictionary.empty .ok depth v

/-- Entries that ascend are inserted as they stand, behind those that are there. -/
theorem foldlM_insertText {front : Dictionary String} {entries : List (String × String)}
    (h : Ascending (front.entries ++ entries)) :
    ∃ filled, (entries.map fun entry => (entry.1, Json.text entry.2)).foldlM insertText front =
      .ok filled ∧ filled.entries = front.entries ++ entries := by
  induction entries generalizing front with
  | nil => exact ⟨front, rfl, (List.append_nil _).symm⟩
  | cons entry entries ih =>
    obtain ⟨key, s⟩ := entry
    have hinsert : (front.insert key s).entries = front.entries ++ [(key, s)] :=
      insertMember_append (lt_of_ascending h) s
    have hsplit : front.entries ++ (key, s) :: entries =
        (front.insert key s).entries ++ entries := by
      rw [hinsert, ← List.append_cons]
    rw [hsplit] at h ⊢
    exact ih h

/-- What is written for a dictionary of texts is read as the dictionary, for its entries ascend. -/
theorem asDictionary_entries (depth : Nat) (values : Dictionary String) :
    asDictionary (depth + 1)
      (.object (values.entries.map fun entry => (entry.1, .text entry.2))) = .ok values := by
  have hascending : Ascending (Dictionary.empty.entries ++ values.entries) := values.ascending
  obtain ⟨filled, hfold, hentries⟩ := foldlM_insertText hascending
  have hsame : filled = values := by
    cases filled
    cases values
    simpa [Dictionary.empty] using hentries
  simp [asDictionary, asBraced, hfold, hsame, finished]

end Dictionaries

namespace CaseDraft

/-- The slots of case data; the data values and the payload may open so many brackets. Each field
may be left out. -/
def slots (depth : Nat) : List (Slot Error CaseDraft) :=
  [⟨"instance_id", String, CaseDraft.instanceId,
      fun instanceId draft => { draft with instanceId := some instanceId }, asText .text, true,
      fun _ _ => rfl⟩,
    ⟨"data_values", Dictionary String, CaseDraft.dataValues,
      fun dataValues draft => { draft with dataValues := some dataValues }, asDictionary depth,
      true, fun _ _ => rfl⟩,
    ⟨"data", Json, CaseDraft.data, fun data draft => { draft with data := some data },
      asTree depth, true, fun _ _ => rfl⟩]

/-- Each field of case data reads what its slot decodes, the payload as a tree of any shape. -/
theorem describes (depth : Nat) :
    List.Forall₂ (Describes depth) (slots depth) CaseData.record.fields :=
  .cons (.of _ (reads_text .text)) <| .cons (.of _ (reads_dictionary depth)) <|
    .cons (.of _ (reads_tree depth)) .nil

end CaseDraft

namespace CaseData

/-- What is written for case data is read as the case data, unless the payload is nested too deep. A
bracket is spent on the case itself. -/
theorem asRecord_toJson (case : CaseData) (hdata : Ordered case.data) (depth : Nat) :
    asRecord record CaseDraft.slots (depth + 2) case.toJson =
      if case.data.depth ≤ depth + 1 then .ok case else .error .malformed := by
  have hvalues := asDictionary_entries depth case.dataValues
  have htree : asTree (depth + 1) case.data =
      if case.data.depth ≤ depth + 1 then .ok case.data else .error .malformed := by
    rw [asTree, hdata.canonical_eq]
  by_cases hdepth : case.data.depth ≤ depth + 1 <;>
    simp [asRecord, asBraced, toJson, fillMember, CaseDraft.slots, Slot.fill, asText, record,
      hvalues, htree, hdepth, finished]

/-- The text that is written for case data says what is written, with every number in it. -/
theorem says_toJson (case : CaseData) (hexact : Exact case.data) :
    Says case.toJson.compact case.toJson := by
  refine says_compact fun n hn => hexact.spells n ?_
  simpa [toJson] using hn

/-- Case data without floating-point numbers are read back from their text exactly if the payload
opens at most 126 brackets at once, and else the text is refused as malformed. -/
theorem ofJsonText_toJson (case : CaseData) (hordered : Ordered case.data)
    (hexact : Exact case.data) :
    (ofJsonText case.toJson.compact = .ok case ↔ case.data.depth ≤ 126) ∧
      (126 < case.data.depth → ofJsonText case.toJson.compact = .error .malformed) := by
  have hread : ofJsonText case.toJson.compact =
      if case.data.depth ≤ 126 then .ok case else .error .malformed := by
    unfold ofJsonText
    rw [(reads_record CaseDraft.describes maxDepth case.toJson).readWhole
      (case.says_toJson hexact)]
    exact case.asRecord_toJson hordered 125
  constructor
  · rw [hread]
    split <;> simp [*]
  · intro hdeep
    rw [hread, if_neg (Nat.not_le.mpr hdeep)]

/-- A case with texts that need escapes and with the smallest and the largest exact integer. -/
def extremeCase : CaseData where
  instanceId := "\"é\x01"
  dataValues := ((Dictionary.empty.insert "ü" "").insert "" "\\").insert "a" "\n"
  data := .object [("", .null), ("n", .list [.number (.integer (-9223372036854775808)),
    .number (.integer 18446744073709551615), .object [("a", .text "\""), ("ä", .boolean true)]])]

/-- The case is read back, with its escapes, its two integers at the ends of the range and the keys
of its objects. -/
theorem ofJsonText_toJson_extremeCase :
    (Ordered extremeCase.data ∧ Exact extremeCase.data ∧ extremeCase.data.depth ≤ 126) ∧
      ofJsonText extremeCase.toJson.compact = .ok extremeCase := by
  have hordered : Ordered extremeCase.data := by
    intro members hmembers
    simp only [extremeCase, within_object, within_list, within_text, within_number, within_null,
      within_boolean, List.mem_cons, List.not_mem_nil, or_false, exists_eq_or_imp, exists_eq_left,
      reduceCtorEq, Json.object.injEq, false_or] at hmembers
    unfold Ascending
    rcases hmembers with rfl | rfl <;> decide
  have hexact : Exact extremeCase.data := by
    intro n hn
    simp only [extremeCase, within_object, within_list, within_text, within_number, within_null,
      within_boolean, List.mem_cons, List.not_mem_nil, or_false, exists_eq_or_imp, exists_eq_left,
      reduceCtorEq, Json.number.injEq, false_or] at hn
    rcases hn with rfl | rfl <;> exact ⟨_, rfl, by decide, by decide⟩
  have hdepth : extremeCase.data.depth ≤ 126 := by decide
  exact ⟨⟨hordered, hexact, hdepth⟩,
    (ofJsonText_toJson extremeCase hordered hexact).1.mpr hdepth⟩

end CaseData

end CaseRouting
