import Mathlib.Data.List.Forall2
import CaseRouting.Proofs.JsonSkipping

/-!
# What readers make of a spelled record

A field of a record acts on values through its slot: the place of the field in the draft and what
the value of its member is decoded to. Reading an object fills the slots in the order of the
members, and a member without a slot is absorbed. Reading a list fills the slots in the order of
their declaration. What comes of it depends on the value alone.
-/

namespace CaseRouting.Json

/-- A field of a record as it acts on values; drafts of the record have type `δ`. What has been put
into the draft is found there again. -/
structure Slot (ε δ : Type) where
  /-- The name of the member. -/
  name : String
  /-- The type of what the draft holds. -/
  Value : Type
  /-- What has been put into the draft. -/
  get : δ → Option Value
  /-- Puts a value into the draft. -/
  put : Value → δ → δ
  /-- What the value of the member is decoded to. -/
  decode : Json → Except ε Value
  /-- Whether a list may end in front of the field. -/
  mayEndBefore : Bool
  /-- What has been put into the draft is found there. -/
  get_put : ∀ a draft, get (put a draft) = some a

section Members

variable {ε δ : Type}

/-- Decodes a value and puts it into the draft, or refuses the value. -/
def Slot.fill (slot : Slot ε δ) (v : Json) (draft : δ) : Except ε δ :=
  (slot.decode v).map (slot.put · draft)

/-- A member goes into the slot of its name, unless that is filled already; a member without a slot
is absorbed. -/
def fillMember (duplicate : String → ε) (slots : List (Slot ε δ))
    (absorb : String × Json → δ → Except ε δ) (draft : δ) (m : String × Json) : Except ε δ :=
  match slots.find? fun slot => slot.name = m.1 with
  | some slot => if (slot.get draft).isSome then .error (duplicate m.1) else slot.fill m.2 draft
  | none => absorb m draft

end Members

section Objects

variable {δ α : Type}

/-- The refusal of a field that comes a second time, which names the field. -/
def duplicateField (key : String) : Error := .mismatch (.duplicateField key)

/-- The slot tells what the field reads where so many brackets may be opened: on every text that
says a value, the field reads what the slot decodes. -/
inductive Describes (depth : Nat) : Slot Error δ → RecordField δ → Prop
  | of (slot : Slot Error δ) {value : Nat → Reader slot.Value}
      (h : ∀ v, Reads (value depth) v (slot.decode v)) :
      Describes depth slot (.of slot.name slot.get slot.put value slot.mayEndBefore)

/-- Slot and field of one name are found together, or neither is found. -/
theorem find?_describes {depth : Nat} {slots : List (Slot Error δ)} {fields : List (RecordField δ)}
    (h : List.Forall₂ (Describes depth) slots fields) (key : String) :
    Option.Rel (Describes depth) (slots.find? fun slot => slot.name = key)
      (fields.find? fun field => field.name = key) := by
  induction h with
  | nil => exact .none
  | @cons slot field slots fields hhead htail ih =>
    have hname : field.name = slot.name := by
      cases hhead
      rfl
    by_cases hkey : slot.name = key
    · simpa [List.find?_cons, hname, hkey] using Option.Rel.some hhead
    · simpa [List.find?_cons, hname, hkey] using ih

/-- A described field reads a value into its slot, and leaves the other slots as they are. -/
theorem Describes.reads {depth : Nat} {slot : Slot Error δ} {field : RecordField δ}
    (h : Describes depth slot field) (draft : δ) (v : Json) :
    Reads (field.read depth draft) v (slot.fill v draft) := by
  cases h with
  | of hvalue => exact (hvalue v).map fun a => slot.put a draft

/-- Reading a member behind its key fills the slot of the key, or absorbs the member where no slot
has the name. -/
theorem reads_fieldMember {depth : Nat} {slots : List (Slot Error δ)}
    {fields : List (RecordField δ)} (hfields : List.Forall₂ (Describes depth) slots fields)
    {other : String → δ → Reader δ} {absorb : String × Json → δ → Except Error δ}
    (hother : ∀ key draft v, ReadsBehindColon (other key draft) v (absorb (key, v) draft))
    (draft : δ) (m : String × Json) :
    ReadsBehindColon (fieldMember fields other depth m.1 draft) m.2
      (fillMember duplicateField slots absorb draft m) := by
  obtain ⟨key, v⟩ := m
  intro join cs rest hjoin hcs hrest
  have hfound := find?_describes hfields key
  unfold fieldMember fillMember
  dsimp only
  generalize (slots.find? fun slot => slot.name = key) = slot? at hfound ⊢
  generalize (fields.find? fun field => field.name = key) = field? at hfound ⊢
  cases hfound with
  | none => exact hother key draft v hjoin hcs hrest
  | @some slot field hdescribes =>
    have hread := (hdescribes.reads draft v).behindColon hjoin hcs hrest
    have hfilled : field.isRead draft = (slot.get draft).isSome := by
      cases hdescribes
      rfl
    dsimp only
    rw [hfilled]
    cases (slot.get draft).isSome with
    | true => rfl
    | false => exact hread

/-- What a reader of objects makes of a value; at most so many brackets may be opened, and anything
but an object is refused as what it is. -/
def asBraced (wanted : Wanted) (step : Nat → δ → String × Json → Except Error δ) (blank : δ)
    (finish : δ → Except Mismatch α) : Nat → Json → Except Error α
  | 0, .object _ => .error .malformed
  | depth + 1, .object members => do
    let draft ← members.foldlM (step depth) blank
    finished (finish draft)
  | _, v => refusal wanted v

/-- Reading an object takes its members one after the other, each as the step says, and makes of the
draft what there is to be made of it at the closing bracket. -/
theorem reads_braced {member : Nat → String → δ → Reader δ}
    {step : Nat → δ → String × Json → Except Error δ}
    (hread : ∀ depth draft m, ReadsBehindColon (member depth m.1 draft) m.2 (step depth draft m))
    (wanted : Wanted) (blank : δ) (finish : δ → Except Mismatch α) (depth : Nat) (v : Json) :
    Reads (fun cs =>
      match skipSpace cs with
      | '\x7b' :: rest =>
        match depth with
        | 0 => .error .malformed
        | depth + 1 => objectBody (member depth) blank finish rest
      | cs => refuse wanted cs) v (asBraced wanted step blank finish depth v) := by
  intro ws cs rest hws hcs hrest
  have hrefuse := refuse_of_spells (α := α × List Char) hcs hrest wanted
  dsimp only
  rw [skipSpace_of_spells hws hcs rest]
  cases v with
  | object members =>
    cases hcs with
    | object hbody hvs =>
      cases depth with
      | zero => rfl
      | succ depth =>
        have hobject := objectBody_of_spells (fun m _ draft => hread depth draft m) hbody hvs blank
          finish rest
        simpa [asBraced] using hobject
  | _ =>
    obtain ⟨c, tail, rfl, hopens⟩ := hcs.exists_head
    split
    next heq =>
      obtain ⟨rfl, -⟩ := List.cons.inj heq
      simp [Opens] at hopens
    next => cases depth <;> exact hrefuse

end Objects

section Lists

variable {δ α : Type}

/-- Fills the slots with the elements of a list from the field with the given index on; the
elements left over are returned with the draft. -/
def fillListed (record : String) (count : Nat) :
    List (Slot Error δ) → Nat → List Json → δ → Except Error (List Json × δ)
  | [], _, items, draft => .ok (items, draft)
  | slot :: slots, index, [], draft =>
    if slot.mayEndBefore then fillListed record count slots (index + 1) [] draft
    else .error (.mismatch (.tooShort index record count))
  | slot :: slots, index, item :: items, draft => do
    let draft ← slot.fill item draft
    fillListed record count slots (index + 1) items draft

/-- Reading the fields of a record from a list stops in front of the elements left over. Fields are
read in turn; when the elements run out, the fields left are read from none. -/
theorem listedFields_of_spells {depth : Nat} {slots : List (Slot Error δ)}
    {fields : List (RecordField δ)} (hfields : List.Forall₂ (Describes depth) slots fields)
    (record : String) (count index : Nat) {first : Bool} {items : List Json}
    {body ws : List Char} (hbody : SpellsItems first items body) (hws : Blank ws) (draft : δ)
    (rest : List Char) :
    ∃ later more,
      (∀ filled, fillListed record count slots index items draft = .ok filled →
        SpellsItems later filled.1 more) ∧
      listedFields record count depth fields index first draft (body ++ (ws ++ ']' :: rest)) =
        (fillListed record count slots index items draft).map
          fun filled => (filled.2, more ++ (ws ++ ']' :: rest)) := by
  induction hfields generalizing index first items body draft with
  | nil =>
    refine ⟨first, body, fun filled hfilled => ?_, rfl⟩
    obtain rfl := Except.ok.inj hfilled
    exact hbody
  | @cons slot field slots fields hhead htail ih =>
    cases hbody with
    | nil =>
      have hend : field.mayEndBefore = slot.mayEndBefore := by
        cases hhead
        rfl
      have hnil : SpellsItems first [] [] := .nil
      obtain ⟨later, more, hmore, hlisted⟩ := ih (index + 1) hnil draft
      refine ⟨later, more, ?_, ?_⟩
      · intro filled hfilled
        rw [fillListed] at hfilled
        split at hfilled
        · exact hmore filled hfilled
        · exact absurd hfilled nofun
      · simp only [List.nil_append] at hlisted
        simp only [List.nil_append, listedFields, nextElement_close first hws, ok_bind, hend,
          fillListed, hlisted]
        cases slot.mayEndBefore <;> rfl
    | @cons _ gap cs behind item items hgap hitem hbehind =>
      obtain ⟨c, tail, rfl, hopens⟩ := hitem.exists_head
      obtain ⟨hspace, hclose⟩ := hopens.ne
      have hnext := nextElement_gap hgap hspace hclose (tail ++ (behind ++ (ws ++ ']' :: rest)))
      have hread : field.read depth draft (c :: (tail ++ (behind ++ (ws ++ ']' :: rest)))) =
          (slot.fill item draft).map (·, behind ++ (ws ++ ']' :: rest)) :=
        hhead.reads draft item (List.forall_mem_nil _) hitem (closes_items hbehind hws rest)
      simp only [List.append_assoc, List.cons_append, listedFields, hnext, ok_bind, hread,
        fillListed]
      cases slot.fill item draft with
      | error e => exact ⟨true, [], fun _ hfilled => absurd hfilled nofun, rfl⟩
      | ok filled => exact ih (index + 1) hbehind filled

/-- A list is closed only behind its last element, so that elements left over are refused. -/
theorem closeList_items {first : Bool} {items : List Json} {body ws : List Char}
    (hbody : SpellsItems first items body) (hws : Blank ws) (rest : List Char) :
    closeList (body ++ (ws ++ ']' :: rest)) =
      if items.isEmpty then .ok rest else .error .malformed := by
  cases hbody with
  | nil => exact closeList_close hws rest
  | @cons _ gap cs more item items hgap hitem hmore =>
    obtain ⟨c, tail, rfl, hopens⟩ := hitem.exists_head
    obtain ⟨hspace, hclose⟩ := hopens.ne
    cases hgap with
    | first hvs =>
      simp [closeList, skipSpace_append hvs hspace, hclose]
    | later hvs hus =>
      simp [closeList, skipSpace_append hvs (show isSpace ',' = false by decide)]

/-- What a reader of a record makes of a value; at most so many brackets may be opened. A list gives
the fields in their order, and everything else is taken as an object or refused. -/
def asRecord (record : Record δ α) (slots : Nat → List (Slot Error δ)) :
    Nat → Json → Except Error α
  | 0, .list _ => .error .malformed
  | depth + 1, .list items => do
    let (left, draft) ←
      fillListed record.name record.fields.length (slots depth) 0 items record.blank
    let a ← finished (record.finish draft)
    if left.isEmpty then .ok a else .error .malformed
  | depth, v =>
    asBraced (.record record.name)
      (fun depth => fillMember duplicateField (slots depth) fun _ draft => .ok draft) record.blank
      record.finish depth v

/-- Reading a record, written as an object or as a list, comes to what is made of the value that the
text says. -/
theorem reads_record {record : Record δ α} {slots : Nat → List (Slot Error δ)}
    (hfields : ∀ depth, List.Forall₂ (Describes depth) (slots depth) record.fields) (depth : Nat)
    (v : Json) : Reads (record.read depth) v (asRecord record slots depth v) := by
  intro ws cs rest hws hcs hrest
  have hmember : ∀ depth draft m,
      ReadsBehindColon (fieldMember record.fields skipMember depth m.1 draft) m.2
        (fillMember duplicateField (slots depth) (fun _ draft => .ok draft) draft m) :=
    fun depth => reads_fieldMember (hfields depth) skipMember_of_spells
  have hbraced := reads_braced hmember (.record record.name) record.blank record.finish depth v hws
    hcs hrest
  have hskip := skipSpace_of_spells hws hcs rest
  unfold Record.read
  dsimp only at hbraced
  rw [hskip] at hbraced ⊢
  cases v with
  | list items =>
    cases hcs with
    | @list _ body vs hbody hvs =>
      cases depth with
      | zero => rfl
      | succ depth =>
        obtain ⟨later, more, hmore, hlisted⟩ := listedFields_of_spells (hfields depth) record.name
          record.fields.length 0 hbody hvs record.blank rest
        simp only [List.cons_append, List.append_assoc, List.nil_append, asRecord, hlisted]
        generalize
          fillListed record.name record.fields.length (slots depth) 0 items record.blank = outcome
          at hmore ⊢
        cases outcome with
        | error e => rfl
        | ok filled =>
          have hclose := closeList_items (hmore filled rfl) hvs rest
          simp only [map_ok, ok_bind, hclose]
          cases finished (record.finish filled.2) with
          | error e => rfl
          | ok a => cases filled.1 <;> rfl
  | object members =>
    obtain ⟨c, tail, rfl, hopens⟩ := hcs.exists_head
    obtain rfl : c = '\x7b' := hopens
    cases depth <;> exact hbraced
  | _ =>
    obtain ⟨c, tail, rfl, hopens⟩ := hcs.exists_head
    split
    next heq =>
      obtain ⟨rfl, -⟩ := List.cons.inj heq
      simp [Opens] at hopens
    next heq =>
      obtain ⟨rfl, -⟩ := List.cons.inj heq
      simp [Opens] at hopens
    next =>
      have hrefuse := refuse_of_spells (α := α × List Char) hcs hrest (.record record.name)
      cases depth <;> exact hrefuse

end Lists

end CaseRouting.Json
