import CaseRouting.Json.Value

/-!
# Dictionaries

A dictionary maps texts to values. Its entries stand in ascending order of their keys, compared
code point by code point, and every key has one entry; equal dictionaries therefore have equal
entries.
-/

namespace CaseRouting

open Json (insertMember)

/-- The keys of a list of entries ascend strictly, so that none comes twice and there is one list
only for the same entries. -/
def Ascending {α : Type} (entries : List (String × α)) : Prop :=
  entries.Pairwise fun a b => a.1 < b.1

/-- Inserting keeps every key other than the inserted one: an entry of the longer list is the new
one or was there before. -/
theorem key_of_mem_insertMember {α : Type} {key : String} {value : α}
    {entries : List (String × α)} {entry : String × α}
    (h : entry ∈ insertMember key value entries) : entry.1 = key ∨ entry ∈ entries := by
  induction entries with
  | nil =>
    simp only [insertMember, List.mem_singleton] at h
    exact Or.inl (congrArg Prod.fst h)
  | cons head rest ih =>
    obtain ⟨k, v⟩ := head
    simp only [insertMember] at h
    split at h
    · rcases List.mem_cons.1 h with rfl | h
      · exact Or.inl rfl
      · exact Or.inr h
    · split at h
      · rcases List.mem_cons.1 h with rfl | h
        · exact Or.inl rfl
        · exact Or.inr (List.mem_cons_of_mem _ h)
      · rcases List.mem_cons.1 h with rfl | h
        · exact Or.inr List.mem_cons_self
        · exact (ih h).imp_right (List.mem_cons_of_mem _)

/-- Inserting keeps the keys in strictly ascending order, by induction on the entries in front of
the place where the new one goes. -/
theorem ascending_insertMember {α : Type} {key : String} {value : α}
    {entries : List (String × α)} (h : Ascending entries) :
    Ascending (insertMember key value entries) := by
  unfold Ascending at *
  induction entries with
  | nil => simp [insertMember]
  | cons head rest ih =>
    obtain ⟨k, v⟩ := head
    rw [List.pairwise_cons] at h
    simp only [insertMember]
    split
    · rename_i hlt
      refine List.pairwise_cons.2 ⟨fun entry hentry => ?_, List.pairwise_cons.2 h⟩
      rcases List.mem_cons.1 hentry with rfl | hentry
      · exact hlt
      · exact String.lt_trans hlt (h.1 entry hentry)
    · split
      · rename_i heq
        subst heq
        exact List.pairwise_cons.2 ⟨h.1, h.2⟩
      · rename_i hlt hne
        refine List.pairwise_cons.2 ⟨fun entry hentry => ?_, ih h.2⟩
        rcases key_of_mem_insertMember hentry with hkey | hentry
        · rw [hkey]
          rcases String.le_total k key with hle | hle
          · exact Decidable.byContradiction fun hnot =>
              hne (String.le_antisymm hle (String.not_lt.1 hnot)).symm
          · exact absurd (String.le_antisymm (String.not_lt.1 hlt) hle).symm hne
        · exact h.1 entry hentry

/-- A map from texts to values with its entries in ascending order. The order is part of the type,
so that dictionaries with the same entries are equal. -/
structure Dictionary (α : Type) where
  /-- The entries in ascending order of their keys. -/
  entries : List (String × α)
  /-- No key comes twice, and the order is that of the code points. -/
  ascending : Ascending entries

namespace Dictionary

/-- The dictionary without entries, from which every other is made by inserting. -/
def empty {α : Type} : Dictionary α := ⟨[], List.Pairwise.nil⟩

/-- Sets the value of a key, at the place that the order gives to the key; an entry that the key had
is replaced. -/
def insert {α : Type} (d : Dictionary α) (key : String) (value : α) : Dictionary α :=
  ⟨insertMember key value d.entries, ascending_insertMember d.ascending⟩

/-- The value of a key, if the dictionary has an entry for it. -/
def get? {α : Type} (d : Dictionary α) (key : String) : Option α := d.entries.lookup key

end Dictionary

end CaseRouting
