import Mathlib.Data.List.Nodup
import CaseRouting.Proofs.RecordReading

/-!
# Which members make a record

A draft into which all members went holds, for each slot, what the member of its name was decoded
to, or nothing if there is none. When no key comes twice, the members go into the draft exactly if
each slot decodes the value under its name. So the order of the members does not matter, and a
record written as a list is the record with the elements as members in the order of the fields.
-/

namespace CaseRouting.Json

/-- What has been decoded of the members with a key: nothing if there is none, and otherwise what
the value under the key was decoded to. -/
inductive Holds {ε β : Type} (ms : List (String × Json)) (key : String)
    (decode : Json → Except ε β) : Option β → Prop
  | missing (h : ∀ v, (key, v) ∉ ms) : Holds ms key decode none
  | given {v : Json} {b : β} (h : (key, v) ∈ ms) (hv : decode v = .ok b) :
      Holds ms key decode (some b)

/-- Under a key that comes once stands one value, so that what a field was read from is
determined. -/
theorem value_unique {ms : List (String × Json)} (hkeys : (ms.map Prod.fst).Nodup) {key : String}
    {v w : Json} (hv : (key, v) ∈ ms) (hw : (key, w) ∈ ms) : v = w :=
  congrArg Prod.snd (List.inj_on_of_nodup_map hkeys hv hw rfl)

namespace Holds

variable {ε β : Type} {ms : List (String × Json)} {key : String} {decode : Json → Except ε β}
  {b? : Option β}

/-- Where a member with the key stands, its value has been decoded, and what it was decoded to is
there. -/
theorem eq_some (h : Holds ms key decode b?) (hkeys : (ms.map Prod.fst).Nodup) {v : Json} {b : β}
    (hmem : (key, v) ∈ ms) (hv : decode v = .ok b) : b? = some b := by
  cases h with
  | missing habsent => exact absurd hmem (habsent v)
  | given hmem' hv' =>
    obtain rfl := value_unique hkeys hmem hmem'
    rw [hv] at hv'
    rw [Except.ok.inj hv']

/-- Where no member with the key stands, nothing has been decoded. -/
theorem eq_none (h : Holds ms key decode b?) (habsent : ∀ v, (key, v) ∉ ms) : b? = none := by
  cases h with
  | missing => rfl
  | given hmem => exact absurd hmem (habsent _)

/-- The value of a member with the key has been decoded, and was therefore accepted. -/
theorem exists_decode (h : Holds ms key decode b?) (hkeys : (ms.map Prod.fst).Nodup) {v : Json}
    (hmem : (key, v) ∈ ms) : ∃ b, decode v = .ok b := by
  cases h with
  | missing habsent => exact absurd hmem (habsent v)
  | given hmem' hv =>
    obtain rfl := value_unique hkeys hmem hmem'
    exact ⟨_, hv⟩

/-- Of members with distinct keys, one thing is decoded, whatever their order. -/
theorem unique (h : Holds ms key decode b?) (hkeys : (ms.map Prod.fst).Nodup) {c? : Option β}
    (hc : Holds ms key decode c?) : b? = c? := by
  cases hc with
  | missing habsent => exact h.eq_none habsent
  | given hmem hv => exact h.eq_some hkeys hmem hv

/-- A member with another key changes nothing in what has been decoded of this one. -/
theorem cons (h : Holds ms key decode b?) {other : String} (hkey : key ≠ other) (v : Json) :
    Holds ((other, v) :: ms) key decode b? := by
  cases h with
  | missing habsent =>
    refine .missing fun w hw => ?_
    rcases List.mem_cons.mp hw with heq | hw
    · exact hkey (congrArg Prod.fst heq)
    · exact habsent w hw
  | given hmem hv => exact .given (List.mem_cons_of_mem _ hmem) hv

end Holds

section Members

variable {ε δ : Type} {slots : List (Slot ε δ)} {duplicate : String → ε}
  {absorb : String × Json → δ → Except ε δ}

/-- Every slot has a name and a place of its own, in which filling another slot and absorbing a
member leave no trace. -/
structure Separate (slots : List (Slot ε δ)) (absorb : String × Json → δ → Except ε δ) : Prop where
  names : (slots.map Slot.name).Nodup
  apart : ∀ s ∈ slots, ∀ t ∈ slots, s.name ≠ t.name →
    ∀ a draft, t.get (s.put a draft) = t.get draft
  absorbed : ∀ s ∈ slots, ∀ m draft kept, absorb m draft = .ok kept → s.get kept = s.get draft

/-- A slot is found under its name, since no two have the same. -/
theorem Separate.find?_name (h : Separate slots absorb) {s : Slot ε δ} (hs : s ∈ slots) :
    (slots.find? fun slot => slot.name = s.name) = some s := by
  cases hfound : slots.find? fun slot => slot.name = s.name with
  | none => exact absurd (List.find?_eq_none.mp hfound s hs) (by simp)
  | some t =>
    have hname : t.name = s.name := by simpa using List.find?_some hfound
    rw [List.inj_on_of_nodup_map h.names (List.mem_of_find?_eq_some hfound) hs hname]

/-- The member of an empty slot is decoded into it, and refused if it cannot be decoded. -/
theorem Separate.fillMember_name (h : Separate slots absorb) {s : Slot ε δ} (hs : s ∈ slots)
    {draft : δ} (hempty : s.get draft = none) (v : Json) :
    fillMember duplicate slots absorb draft (s.name, v) = s.fill v draft := by
  simp [fillMember, h.find?_name hs, hempty]

/-- A member without a slot is absorbed, whatever has been read so far. -/
theorem fillMember_other {m : String × Json} (hother : ∀ s ∈ slots, s.name ≠ m.1) (draft : δ) :
    fillMember duplicate slots absorb draft m = absorb m draft := by
  have hfound : (slots.find? fun slot => slot.name = m.1) = none :=
    List.find?_eq_none.mpr fun s hs => by simpa using hother s hs
  simp [fillMember, hfound]

/-- A member that was taken went into the empty slot of its name or was absorbed. So what a member
does to a draft is one of two things. -/
theorem Separate.fillMember_cases (h : Separate slots absorb) {draft filled : δ}
    {m : String × Json} (hfill : fillMember duplicate slots absorb draft m = .ok filled) :
    (∃ s ∈ slots, ∃ a, s.name = m.1 ∧ s.get draft = none ∧ s.decode m.2 = .ok a ∧
      filled = s.put a draft) ∨
    (∀ s ∈ slots, s.name ≠ m.1) ∧ absorb m draft = .ok filled := by
  by_cases hslot : ∃ s ∈ slots, s.name = m.1
  · obtain ⟨s, hs, hname⟩ := hslot
    refine Or.inl ⟨s, hs, ?_⟩
    cases hget : s.get draft with
    | some a =>
      have hfound := h.find?_name hs
      rw [hname] at hfound
      simp [fillMember, hfound, hget] at hfill
    | none =>
      have hdecode : s.fill m.2 draft = .ok filled := by
        rw [← h.fillMember_name hs hget, hname]
        exact hfill
      unfold Slot.fill at hdecode
      cases ha : s.decode m.2 with
      | error e => simp [ha] at hdecode
      | ok a => exact ⟨a, hname, rfl, rfl, by simpa [ha] using hdecode.symm⟩
  · have hother : ∀ s ∈ slots, s.name ≠ m.1 := fun s hs hname => hslot ⟨s, hs, hname⟩
    rw [fillMember_other hother] at hfill
    exact Or.inr ⟨hother, hfill⟩

/-- A member with another key leaves a slot as it is, whether it went into another slot or was
absorbed. -/
theorem Separate.get_other (h : Separate slots absorb) {s : Slot ε δ} (hs : s ∈ slots)
    {draft filled : δ} {m : String × Json} (hkey : s.name ≠ m.1)
    (hfill : fillMember duplicate slots absorb draft m = .ok filled) :
    s.get filled = s.get draft := by
  rcases h.fillMember_cases hfill with ⟨t, ht, a, hname, -, -, rfl⟩ | ⟨-, habsorb⟩
  · exact h.apart t ht s hs (fun heq => hkey (heq ▸ hname)) a draft
  · exact h.absorbed s hs m draft filled habsorb

/-- The member of a slot was decoded into it, and the slot was empty before. -/
theorem Separate.get_name (h : Separate slots absorb) {s : Slot ε δ} (hs : s ∈ slots)
    {draft filled : δ} {v : Json}
    (hfill : fillMember duplicate slots absorb draft (s.name, v) = .ok filled) :
    s.get draft = none ∧ ∃ a, s.decode v = .ok a ∧ s.get filled = some a := by
  rcases h.fillMember_cases hfill with ⟨t, ht, a, hname, hempty, hdecode, rfl⟩ | ⟨hother, -⟩
  · obtain rfl := List.inj_on_of_nodup_map h.names ht hs hname
    exact ⟨hempty, a, hdecode, t.get_put a draft⟩
  · exact absurd rfl (hother s hs)

/-- What a slot holds stays there while members are taken, for a second member of its name would
have been refused. -/
theorem Separate.get_of_isSome (h : Separate slots absorb) {s : Slot ε δ} (hs : s ∈ slots)
    {ms : List (String × Json)} {draft filled : δ} (hfull : (s.get draft).isSome)
    (hfold : ms.foldlM (fillMember duplicate slots absorb) draft = .ok filled) :
    s.get filled = s.get draft := by
  induction ms generalizing draft with
  | nil =>
    obtain rfl := Except.ok.inj hfold
    rfl
  | cons m ms ih =>
    rw [List.foldlM_cons] at hfold
    cases hfill : fillMember duplicate slots absorb draft m with
    | error e => simp [hfill] at hfold
    | ok next =>
      have hkey : s.name ≠ m.1 := by
        intro hname
        obtain ⟨key, v⟩ := m
        obtain rfl : s.name = key := hname
        have hempty := (h.get_name hs hfill).1
        simp [hempty] at hfull
      have hkept := h.get_other hs hkey hfill
      rw [← hkept]
      exact ih (by rwa [hkept]) (by simpa [hfill] using hfold)

/-- When all members have been taken, an empty slot holds what its member was decoded to, or is
still empty if there was none. -/
theorem Separate.holds_of_foldlM (h : Separate slots absorb) {s : Slot ε δ} (hs : s ∈ slots)
    {ms : List (String × Json)} {draft filled : δ} (hempty : s.get draft = none)
    (hfold : ms.foldlM (fillMember duplicate slots absorb) draft = .ok filled) :
    Holds ms s.name s.decode (s.get filled) := by
  induction ms generalizing draft with
  | nil =>
    obtain rfl := Except.ok.inj hfold
    rw [hempty]
    exact .missing fun _ => List.not_mem_nil
  | cons m ms ih =>
    obtain ⟨key, v⟩ := m
    rw [List.foldlM_cons] at hfold
    cases hfill : fillMember duplicate slots absorb draft (key, v) with
    | error e => simp [hfill] at hfold
    | ok next =>
      have hrest : ms.foldlM (fillMember duplicate slots absorb) next = .ok filled := by
        simpa [hfill] using hfold
      by_cases hkey : s.name = key
      · subst hkey
        obtain ⟨-, a, ha, hnext⟩ := h.get_name hs hfill
        rw [h.get_of_isSome hs (by rw [hnext]; rfl) hrest, hnext]
        exact .given List.mem_cons_self ha
      · have hkept := h.get_other hs hkey hfill
        exact (ih (hkept.trans hempty) hrest).cons hkey v

/-- Members with distinct keys are all taken if every slot decodes the value under its name and all
else is absorbed. Not all slots stay empty on the way, but those whose members are still to come
do. -/
theorem Separate.exists_foldlM (h : Separate slots absorb) {ms : List (String × Json)}
    (hkeys : (ms.map Prod.fst).Nodup)
    (hdecode : ∀ s ∈ slots, ∀ v, (s.name, v) ∈ ms → ∃ a, s.decode v = .ok a)
    (habsorb : ∀ m ∈ ms, ∀ draft, ∃ kept, absorb m draft = .ok kept) {draft : δ}
    (hempty : ∀ s ∈ slots, ∀ v, (s.name, v) ∈ ms → s.get draft = none) :
    ∃ filled, ms.foldlM (fillMember duplicate slots absorb) draft = .ok filled := by
  induction ms generalizing draft with
  | nil => exact ⟨draft, rfl⟩
  | cons m ms ih =>
    obtain ⟨key, v⟩ := m
    obtain ⟨hkey, hkeys⟩ := List.nodup_cons.mp hkeys
    have hnext : ∃ next, fillMember duplicate slots absorb draft (key, v) = .ok next := by
      by_cases hslot : ∃ s ∈ slots, s.name = key
      · obtain ⟨s, hs, rfl⟩ := hslot
        obtain ⟨a, ha⟩ := hdecode s hs v List.mem_cons_self
        rw [h.fillMember_name hs (hempty s hs v List.mem_cons_self)]
        exact ⟨s.put a draft, by simp [Slot.fill, ha]⟩
      · rw [fillMember_other fun s hs hname => hslot ⟨s, hs, hname⟩]
        exact habsorb (key, v) List.mem_cons_self draft
    obtain ⟨next, hfill⟩ := hnext
    have hempty' : ∀ s ∈ slots, ∀ w, (s.name, w) ∈ ms → s.get next = none := by
      intro s hs w hw
      have hname : s.name ≠ key := by
        rintro rfl
        exact hkey (List.mem_map.mpr ⟨_, hw, rfl⟩)
      rw [h.get_other hs hname hfill]
      exact hempty s hs w (List.mem_cons_of_mem _ hw)
    obtain ⟨filled, hfold⟩ := ih hkeys
      (fun s hs w hw => hdecode s hs w (List.mem_cons_of_mem _ hw))
      (fun m hm => habsorb m (List.mem_cons_of_mem _ hm)) hempty'
    exact ⟨filled, by simpa [List.foldlM_cons, hfill] using hfold⟩

/-- When a draft is nothing but its slots and other members are passed over, members with distinct
keys make exactly the draft that holds for each slot what its member is decoded to. -/
theorem Separate.foldlM_eq_ok_iff (h : Separate slots fun _ draft => .ok draft)
    (hext : ∀ draft filled : δ, (∀ s ∈ slots, s.get draft = s.get filled) → draft = filled)
    {ms : List (String × Json)} (hkeys : (ms.map Prod.fst).Nodup) {draft filled : δ}
    (hempty : ∀ s ∈ slots, s.get draft = none) :
    ms.foldlM (fillMember duplicate slots fun _ draft => .ok draft) draft = .ok filled ↔
      ∀ s ∈ slots, Holds ms s.name s.decode (s.get filled) := by
  refine ⟨fun hfold s hs => h.holds_of_foldlM hs (hempty s hs) hfold, fun hholds => ?_⟩
  have hfold : ∃ found,
      ms.foldlM (fillMember duplicate slots fun _ draft => .ok draft) draft = .ok found :=
    h.exists_foldlM hkeys (fun s hs _ hv => (hholds s hs).exists_decode hkeys hv)
      (fun _ _ draft => ⟨draft, rfl⟩) fun s hs _ _ => hempty s hs
  obtain ⟨found, hfold⟩ := hfold
  have heq : found = filled := hext found filled fun s hs =>
    (h.holds_of_foldlM hs (hempty s hs) hfold).unique hkeys (hholds s hs)
  rw [hfold, heq]

/-- Filling slots in turn is taking the elements as members under the names of the slots, so that a
list is an object whose members stand in the order of the fields. -/
theorem Separate.foldlM_zip (h : Separate slots absorb) {listed : List (Slot ε δ)}
    (hlisted : ∀ s ∈ listed, s ∈ slots) (hnames : (listed.map Slot.name).Nodup)
    (items : List Json) {draft : δ} (hempty : ∀ s ∈ listed, s.get draft = none) :
    (listed.zip items).foldlM (fun draft p => p.1.fill p.2 draft) draft =
      ((listed.map Slot.name).zip items).foldlM (fillMember duplicate slots absorb) draft := by
  induction listed generalizing items draft with
  | nil => rfl
  | cons s listed ih =>
    cases items with
    | nil => rfl
    | cons item items =>
      obtain ⟨hname, hnames⟩ := List.nodup_cons.mp hnames
      have hs := hlisted s List.mem_cons_self
      have hfill : fillMember duplicate slots absorb draft (s.name, item) = s.fill item draft :=
        h.fillMember_name hs (hempty s List.mem_cons_self) item
      simp only [List.map_cons, List.zip_cons_cons, List.foldlM_cons, hfill]
      unfold Slot.fill
      cases s.decode item with
      | error e => rfl
      | ok a =>
        refine ih (fun t ht => hlisted t (List.mem_cons_of_mem _ ht)) hnames items fun t ht => ?_
        have hne : s.name ≠ t.name := fun heq => hname (heq ▸ List.mem_map_of_mem ht)
        rw [h.apart s hs t (hlisted t (List.mem_cons_of_mem _ ht)) hne]
        exact hempty t (List.mem_cons_of_mem _ ht)

end Members

section Records

variable {δ α : Type}

/-- A draft that has been finished makes the record, and one that could not be finished is
refused. -/
theorem finished_eq_ok_iff {outcome : Except Mismatch α} {a : α} :
    finished outcome = .ok a ↔ outcome = .ok a := by
  cases outcome <;> simp [finished]

/-- The elements of a list fill the slots in turn; none may be left over, and only slots that a list
may end before are left out. -/
theorem fillListed_eq_ok_iff {slots : List (Slot Error δ)} {record : String}
    {count index : Nat} {items : List Json} {draft filled : δ} :
    fillListed record count slots index items draft = .ok ([], filled) ↔
      items.length ≤ slots.length ∧ (∀ s ∈ slots.drop items.length, s.mayEndBefore = true) ∧
        (slots.zip items).foldlM (fun draft p => p.1.fill p.2 draft) draft = .ok filled := by
  induction slots generalizing index items draft with
  | nil => cases items <;> simp [fillListed, pure, Except.pure]
  | cons slot slots ih =>
    cases items with
    | nil =>
      have hnil : fillListed record count slots (index + 1) [] draft = .ok ([], filled) ↔ _ := ih
      simp only [List.length_nil, List.drop_zero, List.zip_nil_right, List.foldlM_nil,
        Nat.zero_le, true_and] at hnil ⊢
      rw [fillListed, List.forall_mem_cons]
      cases slot.mayEndBefore <;> simp [hnil]
    | cons item items =>
      simp only [fillListed, List.length_cons, Nat.add_le_add_iff_right, List.drop_succ_cons,
        List.zip_cons_cons, List.foldlM_cons]
      cases slot.fill item draft with
      | error e => simp
      | ok next => exact ih

/-- The members that a value gives to a record: those of an object, or the elements of a list under
the names of the fields, of which the last ones may be left out. -/
inductive Presents (names : List String) (least : Nat) : Json → List (String × Json) → Prop
  | object (members : List (String × Json)) : Presents names least (.object members) members
  | list {items : List Json} (hleast : least ≤ items.length)
      (hmost : items.length ≤ names.length) :
      Presents names least (.list items) (names.zip items)

/-- The members given to a record have distinct keys: those of an object because no key comes twice,
and those of a list because the fields have distinct names. -/
theorem Presents.nodup {names : List String} {least : Nat} {v : Json} {ms : List (String × Json)}
    (h : Presents names least v ms) (hnames : names.Nodup) (hv : DistinctKeys v) :
    (ms.map Prod.fst).Nodup := by
  cases h with
  | object => exact hv ms .self
  | list hleast hmost =>
    rw [List.zip_eq_zip_take_min, List.map_fst_zip (by simp)]
    exact hnames.sublist (List.take_sublist _ _)

/-- What stands in the members of a record stands in the value, whether it is an object or a
list. -/
theorem Presents.within {names : List String} {least : Nat} {v w : Json}
    {ms : List (String × Json)} (h : Presents names least v ms) {m : String × Json} (hm : m ∈ ms)
    (hw : Within w m.2) : Within w v := by
  cases h with
  | object => exact .member hm hw
  | list hleast hmost => exact .item (List.of_mem_zip hm).2 hw

/-- The members of a record are at least one level less deep than the record, whose own bracket they
stand in. -/
theorem Presents.depth_le {names : List String} {least depth : Nat} {v : Json}
    {ms : List (String × Json)} (h : Presents names least v ms) (hdepth : v.depth ≤ depth + 1)
    {m : String × Json} (hm : m ∈ ms) : m.2.depth ≤ depth := by
  cases h with
  | object => exact depth_object_le_iff.mp hdepth m hm
  | list hleast hmost => exact depth_list_le_iff.mp hdepth m.2 (List.of_mem_zip hm).2

/-- How a record lies in its slots: each field has one, a draft is nothing but its slots, all of
which are empty in the blank draft, and a list may end behind so many of them. -/
structure Layout (record : Record δ α) (slots : Nat → List (Slot Error δ)) (names : List String)
    (least : Nat) : Prop where
  describes : ∀ depth, List.Forall₂ (Describes depth) (slots depth) record.fields
  separate : ∀ depth, Separate (slots depth) fun _ draft => .ok draft
  ext : ∀ depth draft filled, (∀ s ∈ slots depth, s.get draft = s.get filled) → draft = filled
  blank : ∀ depth, ∀ s ∈ slots depth, s.get record.blank = none
  names : ∀ depth, (slots depth).map Slot.name = names
  least : ∀ depth n, (∀ s ∈ (slots depth).drop n, s.mayEndBefore = true) ↔ least ≤ n

namespace Layout

variable {record : Record δ α} {slots : Nat → List (Slot Error δ)} {names : List String}
  {least : Nat}

/-- The names of the fields are distinct, as those of separate slots are. -/
theorem nodup (h : Layout record slots names least) : names.Nodup := by
  rw [← h.names 0]
  exact (h.separate 0).names

/-- A value is read as a record exactly if its members, taken in turn, make a draft that can be
finished. -/
theorem asRecord_eq_ok_iff_foldlM (h : Layout record slots names least) {depth : Nat} {v : Json}
    {a : α} :
    asRecord record slots (depth + 1) v = .ok a ↔
      ∃ ms draft, Presents names least v ms ∧
        ms.foldlM (fillMember duplicateField (slots depth) fun _ draft => .ok draft) record.blank =
          .ok draft ∧ record.finish draft = .ok a := by
  have hcount : (slots depth).length = names.length := by rw [← h.names depth, List.length_map]
  have hzip (items : List Json) :
      ((slots depth).zip items).foldlM (fun draft p => p.1.fill p.2 draft) record.blank =
        (names.zip items).foldlM
          (fillMember duplicateField (slots depth) fun _ draft => .ok draft) record.blank := by
    rw [← h.names depth]
    exact (h.separate depth).foldlM_zip (fun _ hs => hs) (h.separate depth).names items
      (h.blank depth)
  constructor
  · intro hread
    cases v with
    | list items =>
      obtain ⟨⟨left, draft⟩, hfill, hread⟩ := bind_eq_ok_iff.mp hread
      obtain ⟨b, hfinish, hread⟩ := bind_eq_ok_iff.mp hread
      cases left with
      | cons item left => exact absurd hread nofun
      | nil =>
        obtain rfl : b = a := Except.ok.inj hread
        obtain ⟨hmost, hends, hfold⟩ := fillListed_eq_ok_iff.mp hfill
        rw [hzip] at hfold
        exact ⟨_, draft, .list ((h.least depth _).mp hends) (hcount ▸ hmost), hfold,
          finished_eq_ok_iff.mp hfinish⟩
    | object members =>
      obtain ⟨draft, hfold, hfinish⟩ := bind_eq_ok_iff.mp hread
      exact ⟨members, draft, .object members, hfold, finished_eq_ok_iff.mp hfinish⟩
    | _ => exact absurd hread nofun
  · rintro ⟨ms, draft, hms, hfold, hfinish⟩
    cases hms with
    | object => exact bind_eq_ok_iff.mpr ⟨draft, hfold, finished_eq_ok_iff.mpr hfinish⟩
    | @list items hleast hmost =>
      rw [← hzip] at hfold
      have hends := (h.least depth items.length).mpr hleast
      exact bind_eq_ok_iff.mpr
        ⟨([], draft), fillListed_eq_ok_iff.mpr ⟨hcount ▸ hmost, hends, hfold⟩,
          bind_eq_ok_iff.mpr ⟨a, finished_eq_ok_iff.mpr hfinish, rfl⟩⟩

/-- A value is read as a record exactly if for each slot the draft holds what the member of its name
is decoded to, and the draft can be finished. The order of the members no longer shows. -/
theorem asRecord_eq_ok_iff (h : Layout record slots names least) {depth : Nat} {v : Json} {a : α}
    (hv : DistinctKeys v) :
    asRecord record slots (depth + 1) v = .ok a ↔
      ∃ ms draft, Presents names least v ms ∧
        (∀ s ∈ slots depth, Holds ms s.name s.decode (s.get draft)) ∧
        record.finish draft = .ok a := by
  rw [h.asRecord_eq_ok_iff_foldlM]
  refine exists_congr fun ms => exists_congr fun draft => and_congr_right fun hms => ?_
  rw [(h.separate depth).foldlM_eq_ok_iff (h.ext depth) (hms.nodup h.nodup hv) (h.blank depth)]

end Layout

end Records

end CaseRouting.Json
