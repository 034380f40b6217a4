import CaseRouting.Proofs.BlockDocument
import CaseRouting.Proofs.JsonAsYaml

/-!
# Definitions written without quotation marks

A designer writes a definition in blocks: a line for each field, two columns of indentation, hyphens
in front of nodes, actions and flows, and no quotation marks. As long as its strings are names, such
a text is read as the definition, although some names are also words for booleans or for null: where
a text is required no name is anything else. Only where nothing may stand a name must not be a word
for null, and where any value may stand it must not be a word for a boolean either.
-/

namespace CaseRouting

namespace Yaml

open Lexer (IsWord isWordChar toNat_of_isAlpha toNat_of_isDigit)
open Text (digitRun hexValue? radixNumber?)

section Names

/-- A letter followed by letters, digits and underscores, as ids usually are. -/
def IsName (s : String) : Prop :=
  s.toList.head?.any Char.isAlpha = true ∧ ∀ c ∈ s.toList.tail, isWordChar c = true

instance (s : String) : Decidable (IsName s) := @instDecidableAnd _ _ _ (List.decidableBAll _ _)

/-- The names that are words for null, in the spellings of a YAML text. -/
def nullNames : List String := ["null", "Null", "NULL"]

/-- The names that are words for booleans, in the spellings of a YAML text. -/
def booleanNames : List String := ["true", "True", "TRUE", "false", "False", "FALSE"]

variable {s : String} {c : Char} {cs : List Char}

/-- A name begins with a letter, and what follows stands in words. -/
theorem IsName.exists_cons (h : IsName s) :
    ∃ c cs, s.toList = c :: cs ∧ c.isAlpha = true ∧ ∀ d ∈ cs, isWordChar d = true := by
  obtain ⟨hfirst, hword⟩ := h
  cases hs : s.toList with
  | nil =>
    rw [hs] at hfirst
    cases hfirst
  | cons c cs =>
    rw [hs] at hfirst hword
    exact ⟨c, cs, rfl, hfirst, hword⟩

/-- A name is a word, and needs no quotation marks. -/
theorem IsName.isWord (h : IsName s) : IsWord s.toList := by
  obtain ⟨c, cs, hs, hc, hword⟩ := h.exists_cons
  rw [hs]
  refine ⟨List.cons_ne_nil _ _, List.forall_mem_cons.mpr ⟨?_, hword⟩⟩
  simp [isWordChar, Char.isAlphanum, hc]

/-- A letter is none of the characters that are not letters. -/
theorem ne_of_isAlpha {d : Char} (hc : c.isAlpha = true) (hd : d.isAlpha = false) : c ≠ d :=
  fun h => Bool.false_ne_true (hd.symm.trans (h ▸ hc))

/-- A letter is not a decimal digit. -/
theorem isDigit_of_isAlpha (hc : c.isAlpha = true) : c.isDigit = false := by
  refine Bool.eq_false_iff.mpr fun hdigit => ?_
  have hletter := toNat_of_isAlpha hc
  have hcode := toNat_of_isDigit hdigit
  omega

/-- As a digit a letter is worth at least ten, so that it is none in a decimal number. -/
theorem ten_le_of_hexValue? (hc : c.isAlpha = true) {n : Nat} (hn : hexValue? c = some n) :
    10 ≤ n := by
  have hcode := toNat_of_isAlpha hc
  simp only [hexValue?, Char.le_def, UInt32.le_iff_toNat_le] at hn
  split_ifs at hn with hdigit hlower hupper
  · have hrange : 48 ≤ c.toNat ∧ c.toNat ≤ 57 := hdigit
    omega
  · have hrange : 97 ≤ c.toNat ∧ c.toNat ≤ 102 := hlower
    have hvalue := Option.some.inj hn
    omega
  · have hrange : 65 ≤ c.toNat ∧ c.toNat ≤ 70 := hupper
    have hvalue := Option.some.inj hn
    omega

/-- What begins with a letter is no decimal number, whatever follows. -/
theorem radixNumber?_of_isAlpha (hc : c.isAlpha = true) : radixNumber? 10 0 (c :: cs) = none := by
  rw [radixNumber?]
  cases hvalue : hexValue? c with
  | none => rfl
  | some n => exact if_neg (Nat.not_lt.mpr (ten_le_of_hexValue? hc hvalue))

/-- In front of a letter there is no sign to be left out. -/
theorem behindSign_of_isAlpha (hc : c.isAlpha = true) : behindSign (c :: cs) = c :: cs := by
  have hplus : c ≠ '+' := ne_of_isAlpha hc rfl
  have hminus : c ≠ '-' := ne_of_isAlpha hc rfl
  simp [behindSign, hplus, hminus]

/-- A letter is no needless zero at the front of a number. -/
theorem hasNeedlessZero_of_isAlpha (hc : c.isAlpha = true) : hasNeedlessZero (c :: cs) = false := by
  have hzero : c ≠ '0' := ne_of_isAlpha hc rfl
  simp [hasNeedlessZero, hzero]

/-- What begins with a letter is not an integer, in any radix. -/
theorem integer?_of_isAlpha (hc : c.isAlpha = true) : integer? (c :: cs) = none := by
  have hzero : c ≠ '0' := ne_of_isAlpha hc rfl
  have hmagnitude : magnitude? (c :: cs) = none := by
    simp [magnitude?, hzero, hasNeedlessZero_of_isAlpha hc, based?, radixNumber?_of_isAlpha hc]
  simp [integer?, behindSign_of_isAlpha hc, hmagnitude]

/-- What begins with a letter is not a floating-point number; the words for infinity begin with a
point. -/
theorem float?_of_isAlpha (hc : c.isAlpha = true) : float? (c :: cs) = none := by
  have hdigits : digitRun (c :: cs) = ([], c :: cs) := by
    simp [digitRun, isDigit_of_isAlpha hc]
  have hpoint : c ≠ '.' := ne_of_isAlpha hc rfl
  have hform : decimalForm? (c :: cs) = none := by
    simp [decimalForm?, hdigits, hpoint]
  simp [float?, behindSign_of_isAlpha hc, hform, isAmong, hpoint.symm]

/-- A text is among words when it is one of them, character by character. -/
theorem isAmong_toList (words : List String) (s : String) :
    isAmong words s.toList = decide (s ∈ words) := by
  rw [Bool.eq_iff_iff]
  simp [isAmong, String.toList_inj]

/-- A name that is no word for null is no tilde either. -/
theorem IsName.isNullWord_eq_false (h : IsName s) (hnull : s ∉ nullNames) :
    isNullWord s.toList = false := by
  have htilde : s ≠ "~" := by
    rintro rfl
    exact absurd h (by decide)
  have hwords : s ∉ ["null", "Null", "NULL", "~"] := by
    simpa [nullNames, htilde] using hnull
  rw [isNullWord, isAmong_toList, decide_eq_false hwords]

/-- A name that is no word for null is not taken for nothing where nothing may stand. -/
theorem IsName.isPresent (h : IsName s) (hnull : s ∉ nullNames) : IsPresent .plain s := by
  obtain ⟨c, cs, hs, hc, -⟩ := h.exists_cons
  have hnone : s.toList ≠ [] := by simp [hs]
  simp [IsPresent, Decoder.isAbsent?, Properties.absent, hnone, h.isNullWord_eq_false hnull]

/-- A name that is neither a word for null nor for a boolean is a text wherever any value may
stand. -/
theorem IsName.isText (h : IsName s) (hother : s ∉ nullNames ++ booleanNames) :
    IsText .plain s := by
  obtain ⟨hnull, hboolean⟩ := not_or.mp fun hmem => hother (List.mem_append.mpr hmem)
  obtain ⟨c, cs, hs, hc, -⟩ := h.exists_cons
  have htext : String.ofList (c :: cs) = s := by rw [← hs, String.ofList_toList]
  have hword := h.isNullWord_eq_false hnull
  have hnoBoolean : boolean? s.toList = none := by
    have htrue : s ∉ ["true", "True", "TRUE"] :=
      fun hmem => hboolean (List.mem_append_left ["false", "False", "FALSE"] hmem)
    have hfalse : s ∉ ["false", "False", "FALSE"] :=
      fun hmem => hboolean (List.mem_append_right ["true", "True", "TRUE"] hmem)
    simp only [boolean?, isAmong_toList, htrue, hfalse, decide_false, Bool.false_eq_true, if_false]
  rw [hs] at hword hnoBoolean
  have huntagged : untagged? (c :: cs) = some (.text s) := by
    simp [untagged?, hword, hnoBoolean, integer?_of_isAlpha hc, behindSign_of_isAlpha hc,
      hasNeedlessZero_of_isAlpha hc, float?_of_isAlpha hc, htext]
  simp [IsText, scalarValue?, Properties.absent, hs, huntagged]

end Names

end Yaml

open Yaml (Blocky IsKeyWord IsName IsPresent IsText blockText booleanNames nodeOf nullNames)

section Blocks

/-- In blocks a value has the form that is read when its keys and strings are words. -/
theorem spreads_blocky : Spreads Blocky IsKeyWord fun s => Yaml.Lexer.IsWord s.toList where
  boolean := .scalar (by decide)
  text h := .scalar h
  list := .list
  object hne h := .object hne (fun m hm => (h m hm).1) fun m hm => (h m hm).2
  keys := by decide
  kinds kind := by
    cases kind with
    | task details => exact show Yaml.Lexer.IsWord "task".toList by decide
    | _ => decide

/-- What a designer writes for a definition. Flows are left out if there are none, since an empty
list has no lines. -/
def ProcessDefinition.toBlocks (definition : ProcessDefinition) : Json :=
  .object (("process_id", .text definition.processId) :: optionalMember "name" definition.name ++
    ("nodes", .list (definition.nodes.map NodeDefinition.toJson)) ::
      if definition.flows.isEmpty then []
      else [("flows", .list (definition.flows.map FlowDefinition.toJson))])

/-- The text that a designer writes for a definition, line by line. -/
def ProcessDefinition.toBlockText (definition : ProcessDefinition) : String :=
  String.ofList (blockText 0 definition.toBlocks)

/-- The names and conditions of a definition, which are shown to people or left out. -/
def ProcessDefinition.labels (definition : ProcessDefinition) : List String :=
  definition.name.toList ++ (definition.nodes.flatMap (fun node => node.name.toList) ++
    definition.flows.flatMap fun flow => flow.condition.toList)

/-- A definition with nodes that needs no quotation marks: its strings are names, and none of them
is taken for something else where it stands. -/
structure ProcessDefinition.IsPlain (definition : ProcessDefinition) : Prop where
  nodes : definition.nodes ≠ []
  strings : ∀ s ∈ definition.strings, IsName s
  labels : ∀ s ∈ definition.labels, s ∉ nullNames
  kinds : ∀ node ∈ definition.nodes, ∀ s ∈ node.kind.strings, s ∉ nullNames ++ booleanNames

variable {definition : ProcessDefinition}

/-- In blocks such a definition has the form that is read. -/
theorem ProcessDefinition.IsPlain.blocky (h : definition.IsPlain) : Blocky definition.toBlocks := by
  have hwords : ∀ s ∈ definition.strings, Yaml.Lexer.IsWord s.toList :=
    fun s hs => (h.strings s hs).isWord
  refine spreads_blocky.object (by simp)
    (List.forall_mem_append.mpr ⟨spreads_blocky.labels hwords, ?_⟩)
  refine List.forall_mem_cons.mpr ⟨⟨spreads_blocky.keys _ (by simp),
    .list ?_ (spreads_blocky.nodes hwords)⟩, ?_⟩
  · exact fun hnil => h.nodes (List.map_eq_nil_iff.mp hnil)
  · split
    · exact List.forall_mem_nil _
    next hflows =>
      refine List.forall_mem_singleton.mpr ⟨spreads_blocky.keys _ (by simp),
        .list ?_ (spreads_blocky.flows hwords)⟩
      exact fun hnil => hflows (List.isEmpty_iff.mpr (List.map_eq_nil_iff.mp hnil))

/-- No label of such a definition is taken for nothing, which is what may stand in its place. -/
theorem ProcessDefinition.IsPlain.isPresent (h : definition.IsPlain) :
    (∀ s ∈ definition.name, IsPresent .plain s) ∧
      (∀ node ∈ definition.nodes, ∀ s ∈ node.name, IsPresent .plain s) ∧
      ∀ flow ∈ definition.flows, ∀ s ∈ flow.condition, IsPresent .plain s := by
  have hlabel {s : String} (hstring : s ∈ definition.strings) (hs : s ∈ definition.labels) :
      IsPresent .plain s := (h.strings s hstring).isPresent (h.labels s hs)
  simp only [ProcessDefinition.labels, List.mem_append] at hlabel
  refine ⟨fun s hs => ?_, fun node hnode s hs => ?_, fun flow hflow s hs => ?_⟩
  · have hname := Option.mem_toList.mpr hs
    exact hlabel (mem_strings_of_name hname) (.inl hname)
  · have hname := Option.mem_toList.mpr hs
    have hstring : s ∈ node.strings := List.mem_cons_of_mem _ (List.mem_append_left _ hname)
    exact hlabel (mem_strings_of_node hnode hstring)
      (.inr (.inl (List.mem_flatMap_of_mem hnode hname)))
  · have hcondition := Option.mem_toList.mpr hs
    have hstring : s ∈ flow.strings := List.mem_append_right _ hcondition
    exact hlabel (mem_strings_of_flow hflow hstring)
      (.inr (.inr (List.mem_flatMap_of_mem hflow hcondition)))

/-- No string that tells the kind of a node of such a definition is anything but a text. -/
theorem ProcessDefinition.IsPlain.isText (h : definition.IsPlain) {node : NodeDefinition}
    (hnode : node ∈ definition.nodes) :
    ∀ s ∈ node.kind.name :: node.kind.strings, IsText .plain s := by
  refine List.forall_mem_cons.mpr ⟨?_, fun s hs => ?_⟩
  · cases node.kind with
    | task details => exact IsName.isText (s := "task") (by decide) (by decide)
    | _ => exact IsName.isText (by decide) (by decide)
  · have hstring : s ∈ node.strings := List.mem_cons_of_mem _ (List.mem_append_right _ hs)
    exact (h.strings s (mem_strings_of_node hnode hstring)).isText (h.kinds node hnode s hs)

/-- Such a definition is decoded from the node of its text, field by field. -/
theorem ProcessDefinition.IsPlain.decode (h : definition.IsPlain) :
    ProcessDefinition.decode (nodeOf .plain definition.toBlocks) = pure definition := by
  obtain ⟨hname, hnodes, hconditions⟩ := h.isPresent
  have hread := fun node hnode => And.intro (hnodes node hnode) (h.isText hnode)
  rw [ProcessDefinition.toBlocks]
  by_cases hflows : definition.flows.isEmpty = true
  · rw [if_pos hflows]
    refine decode_members none hname hread (fun draft hdraft => ?_)
      (List.isEmpty_iff.mp hflows).symm
    rw [← hdraft]
    rfl
  · rw [if_neg hflows]
    exact decode_members (some definition.flows) hname hread
      (fun draft hdraft => ProcessDraft.take_flows hconditions hdraft) rfl

/-- A definition whose strings are names is read back from the text that a designer writes for
it. -/
theorem ProcessDefinition.ofYamlText_toBlockText (h : definition.IsPlain) :
    ProcessDefinition.ofYamlText definition.toBlockText = some definition := by
  have hroot : Yaml.Node.ofText? definition.toBlockText.toList =
      some (nodeOf .plain definition.toBlocks) := by
    rw [toBlockText, String.toList_ofList]
    exact Yaml.Node.ofText?_blockText h.blocky
  rw [ofYamlText, hroot]
  exact Yaml.Decoder.run?_eq h.decode

/-- A definition whose strings look like booleans and null. -/
def lookAlikeNames : ProcessDefinition where
  processId := "null"
  name := some "true"
  nodes := [⟨"true", some "no", .task ⟨some "yes", ["no", "off"]⟩⟩, ⟨"null", none, .gateway⟩,
    ⟨"No", some "FALSE", .endEvent⟩]
  flows := [⟨"false", "true", "null", false, none⟩, ⟨"Null", "null", "No", true, some "True"⟩]

/-- Every such string stays the same in its field, in the text that is shown here. -/
theorem ProcessDefinition.ofYamlText_toBlockText_lookAlikes :
    lookAlikeNames.IsPlain ∧ ofYamlText lookAlikeNames.toBlockText = some lookAlikeNames ∧
      lookAlikeNames.toBlockText = "process_id: null\nname: true\nnodes:\n" ++
        "  - id: true\n    name: no\n    type: task\n    task_type: yes\n" ++
        "    actions:\n      - no\n      - off\n" ++
        "  - id: null\n    type: gateway\n  - id: No\n    name: FALSE\n    type: end_event\n" ++
        "flows:\n  - id: false\n    source: true\n    target: null\n" ++
        "  - id: Null\n    source: null\n    target: No\n    is_default: true\n" ++
        "    condition: True\n" := by
  have hplain : lookAlikeNames.IsPlain := ⟨by decide, by decide, by decide, by decide⟩
  exact ⟨hplain, ofYamlText_toBlockText hplain, by cbv⟩

end Blocks

end CaseRouting
