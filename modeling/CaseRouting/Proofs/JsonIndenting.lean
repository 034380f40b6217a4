import CaseRouting.Proofs.JsonWriting

/-!
# What an indented text says

The indented text of a value says the value as the compact one does: it has line breaks and spaces
where the grammar allows white space, and nothing else is different.
-/

namespace CaseRouting.Json

/-- The line breaks between elements are white space, with the spaces that indent the next line. -/
theorem blank_newLine (depth : Nat) : Blank (newLine depth) := by
  refine List.forall_mem_cons.mpr ⟨rfl, fun c hc => ?_⟩
  rw [List.eq_of_mem_replicate hc]
  rfl

/-- A single space is white space; it stands behind each colon. -/
theorem blank_space : Blank [' '] := List.forall_mem_singleton.mpr rfl

/-- The further elements of an indented list are spelled up to the line of its bracket, each on a
line of its own. -/
theorem spellsItems_indentedMore {items : List Json}
    (h : ∀ v ∈ items, ∀ depth, Spells v (v.indented depth)) (depth : Nat) :
    ∃ body, SpellsItems false items body ∧
      indentedMoreItems depth items = body ++ (newLine depth ++ [']']) := by
  induction items with
  | nil => exact ⟨[], .nil, rfl⟩
  | cons v items ih =>
    obtain ⟨body, hbody, hmore⟩ := ih fun w hw => h w (List.mem_cons_of_mem _ hw)
    refine ⟨_, .cons (.later blank_nil (blank_newLine (depth + 1)))
      (h v List.mem_cons_self (depth + 1)) hbody, ?_⟩
    simp [indentedMoreItems, hmore]

/-- The elements of an indented list are spelled up to the white space in front of its bracket;
there is none in an empty list. -/
theorem spellsItems_indented {items : List Json}
    (h : ∀ v ∈ items, ∀ depth, Spells v (v.indented depth)) (depth : Nat) :
    ∃ body ws, SpellsItems true items body ∧ Blank ws ∧
      indentedItems depth items = body ++ (ws ++ [']']) := by
  cases items with
  | nil => exact ⟨[], [], .nil, blank_nil, rfl⟩
  | cons v items =>
    obtain ⟨body, hbody, hmore⟩ :=
      spellsItems_indentedMore (fun w hw => h w (List.mem_cons_of_mem _ hw)) depth
    refine ⟨_, newLine depth, .cons (.first (blank_newLine (depth + 1)))
      (h v List.mem_cons_self (depth + 1)) hbody, blank_newLine depth, ?_⟩
    simp [indentedItems, hmore]

/-- The further members of an indented object are spelled up to the line of its brace, each on a
line of its own. -/
theorem spellsMembers_indentedMore {members : List (String × Json)}
    (h : ∀ m ∈ members, ∀ depth, Spells m.2 (m.2.indented depth)) (depth : Nat) :
    ∃ body, SpellsMembers false members body ∧
      indentedMoreMembers depth members = body ++ (newLine depth ++ ['\x7d']) := by
  induction members with
  | nil => exact ⟨[], .nil, rfl⟩
  | cons m members ih =>
    obtain ⟨body, hbody, hmore⟩ := ih fun n hn => h n (List.mem_cons_of_mem _ hn)
    refine ⟨_, .cons (.later blank_nil (blank_newLine (depth + 1)))
      (spellsBody_written m.1.toList) (.colon blank_nil blank_space)
      (h m List.mem_cons_self (depth + 1)) hbody, ?_⟩
    simp [indentedMoreMembers, writtenText, hmore]

/-- The members of an indented object are spelled up to the white space in front of its brace; there
is none in an empty object. -/
theorem spellsMembers_indented {members : List (String × Json)}
    (h : ∀ m ∈ members, ∀ depth, Spells m.2 (m.2.indented depth)) (depth : Nat) :
    ∃ body ws, SpellsMembers true members body ∧ Blank ws ∧
      indentedMembers depth members = body ++ (ws ++ ['\x7d']) := by
  cases members with
  | nil => exact ⟨[], [], .nil, blank_nil, rfl⟩
  | cons m members =>
    obtain ⟨body, hbody, hmore⟩ :=
      spellsMembers_indentedMore (fun n hn => h n (List.mem_cons_of_mem _ hn)) depth
    refine ⟨_, newLine depth, .cons (.first (blank_newLine (depth + 1)))
      (spellsBody_written m.1.toList) (.colon blank_nil blank_space)
      (h m List.mem_cons_self (depth + 1)) hbody, blank_newLine depth, ?_⟩
    simp [indentedMembers, writtenText, hmore]

/-- An indented value spells the value when the numbers within do, however far it is indented. -/
theorem spells_indented {v : Json}
    (hnumbers : ∀ n, Within (.number n) v → Spells (.number n) n.written) (depth : Nat) :
    Spells v (v.indented depth) := by
  induction v using Json.induction generalizing depth with
  | null => exact .null
  | boolean b => cases b with
    | true => exact .trueWord
    | false => exact .falseWord
  | number n => exact hnumbers n .self
  | text s => exact .text (spellsBody_written s.toList)
  | list items ih =>
    obtain ⟨body, ws, hbody, hws, hindented⟩ :=
      spellsItems_indented (fun w hw => ih w hw fun n hn => hnumbers n (.item hw hn)) depth
    rw [indented, hindented]
    exact .list hbody hws
  | object members ih =>
    obtain ⟨body, ws, hbody, hws, hindented⟩ :=
      spellsMembers_indented (fun m hm => ih m hm fun n hn => hnumbers n (.member hm hn)) depth
    rw [indented, hindented]
    exact .object hbody hws

/-- The indented text of a value says the value when the numbers within are spelled, and white space
may stand behind it. -/
theorem says_pretty {v : Json}
    (hnumbers : ∀ n, Within (.number n) v → Spells (.number n) n.written) {space : String}
    (hspace : Blank space.toList) : Says (v.pretty ++ space) v :=
  ⟨[], v.indented 0, space.toList, blank_nil, spells_indented hnumbers 0, hspace, by
    simp [pretty]⟩

end CaseRouting.Json
