import CaseRouting.Proofs.JsonReading

/-!
# Reading a value of any shape

A value that is read without a shape in mind is kept as a tree in which the members of every object
ascend by key. It is read exactly if no more brackets are open at once than may be.
-/

namespace CaseRouting.Json

/-- What a reader of values of any shape makes of a value: its tree, unless it is nested too
deep. -/
def asTree (depth : Nat) (v : Json) : Except Error Json :=
  if v.depth ≤ depth then .ok v.canonical else .error .malformed

/-- The elements of a list are read as trees exactly if none of them is nested too deep. -/
theorem mapM_asTree (depth : Nat) (items : List Json) :
    items.mapM (asTree depth) =
      if depthOfItems items ≤ depth then .ok (canonicalItems items) else .error .malformed := by
  induction items with
  | nil => rfl
  | cons item rest ih =>
    rw [List.mapM_cons, ih]
    simp only [asTree, depthOfItems, canonicalItems, Nat.max_le]
    by_cases hitem : item.depth ≤ depth <;> by_cases hrest : depthOfItems rest ≤ depth <;>
      simp [hitem, hrest, bind, Except.bind, pure, Except.pure]

/-- The members of an object are read as trees exactly if none of them is nested too deep, and are
put into those read before. -/
theorem foldlM_asTree (depth : Nat) (ms gathered : List (String × Json)) :
    ms.foldlM (fun gathered m => (asTree depth m.2).map fun v => insertMember m.1 v gathered)
        gathered =
      if depthOfMembers ms ≤ depth then .ok (gather gathered ms) else .error .malformed := by
  induction ms generalizing gathered with
  | nil => rfl
  | cons m rest ih =>
    obtain ⟨key, value⟩ := m
    simp only [List.foldlM_cons, depthOfMembers, Nat.max_le]
    by_cases hvalue : value.depth ≤ depth
    · have hhead : asTree depth value = .ok value.canonical := if_pos hvalue
      rw [hhead]
      simpa [hvalue, gather] using ih (insertMember key value.canonical gathered)
    · have hhead : asTree depth value = .error .malformed := if_neg hvalue
      rw [hhead, if_neg fun h => hvalue h.1]
      rfl

/-- The reader of trees has the shape of a reader of members that puts them in order, so that what
is known of the latter holds of it. -/
theorem treeMembers_eq_members (value : Reader Json) (fuel : Nat) (first : Bool)
    (gathered : List (String × Json)) (cs : List Char) :
    treeMembers value fuel first gathered cs = members (fun key gathered cs => do
      let cs ← colon cs
      let (v, cs) ← value cs
      .ok (insertMember key v gathered, cs)) fuel first gathered cs := by
  induction fuel generalizing first gathered cs with
  | zero => rfl
  | succ fuel ih =>
    simp only [treeMembers, members, ih, bind, Except.bind]
    cases nextKey first cs with
    | error e => rfl
    | ok next =>
      cases next with
      | none => rfl
      | some keyChars =>
        dsimp only
        cases stringBody keyChars with
        | error e => rfl
        | ok key =>
          dsimp only
          cases colon key.2 with
          | error e => rfl
          | ok cs =>
            dsimp only
            cases value cs <;> rfl

/-- A value that is neither list nor object is read as it is. Its first character tells which of the
readers of scalars takes it. -/
theorem treeScalar_of_spells {v : Json} {cs rest : List Char} (h : Spells v cs)
    (hrest : Closes rest) (hdepth : v.depth = 0) : treeScalar (cs ++ rest) = .ok (v, rest) := by
  cases h with
  | null => rfl
  | trueWord => rfl
  | falseWord => rfl
  | text h => simp [treeScalar, stringBody_of_spells h]
  | list => simp [depth] at hdepth
  | object => simp [depth] at hdepth
  | @number p n hvalue =>
    have hnumeral := numeral_of_spells hvalue hrest
    obtain ⟨c, tail, hchars, hopens⟩ := (Spells.number hvalue).exists_head
    obtain ⟨hn, ht, hf, hquote, -, -⟩ := hopens.number_ne
    have hopens : c = '-' ∨ c.isDigit = true := hopens
    rw [hchars, List.cons_append] at hnumeral ⊢
    simp [treeScalar, hopens, hnumeral]

/-- A scalar is read as it is at every depth, for it opens no bracket. -/
theorem readTree_scalar (depth : Nat) {v : Json} {ws cs rest : List Char} (hws : Blank ws)
    (hcs : Spells v cs) (hrest : Closes rest) (hdepth : v.depth = 0) :
    readTree depth (ws ++ (cs ++ rest)) = .ok (v, rest) := by
  have hscalar := treeScalar_of_spells hcs hrest hdepth
  obtain ⟨c, tail, rfl, hopens⟩ := hcs.exists_head
  obtain ⟨hlist, hobject⟩ := hopens.scalar_ne hdepth
  cases depth <;> unfold readTree <;> rw [skipSpace_of_spells hws hcs rest] <;> split
  next heq => exact absurd (List.cons.inj heq).1 hlist
  next heq => exact absurd (List.cons.inj heq).1 hobject
  next => exact hscalar
  next heq => exact absurd (List.cons.inj heq).1 hlist
  next heq => exact absurd (List.cons.inj heq).1 hobject
  next => exact hscalar

/-- The members of an object are read as trees up to its brace, if none of them is nested too
deep. -/
theorem treeMembers_of_spells {depth : Nat} (hread : ∀ v, Reads (readTree depth) v (asTree depth v))
    {ms : List (String × Json)} {body ws : List Char} (hbody : SpellsMembers true ms body)
    (hws : Blank ws) (rest : List Char) :
    treeMembers (readTree depth) ((body ++ (ws ++ '\x7d' :: rest)).length + 1) true []
        (body ++ (ws ++ '\x7d' :: rest)) =
      if depthOfMembers ms ≤ depth then .ok (gather [] ms, ws ++ '\x7d' :: rest)
      else .error .malformed := by
  have hmember (m : String × Json) (gathered : List (String × Json)) :
      ReadsBehindColon (fun cs => do
        let cs ← colon cs
        let (v, cs) ← readTree depth cs
        .ok (insertMember m.1 v gathered, cs)) m.2
        ((asTree depth m.2).map fun v => insertMember m.1 v gathered) :=
    ((hread m.2).map fun v => insertMember m.1 v gathered).behindColon
  rw [treeMembers_eq_members, members_of_spells (fun m _ gathered => hmember m gathered) hbody hws
    (by rw [List.length_append]; omega) [] rest, foldlM_asTree]
  split <;> rfl

/-- A value of any shape is read as its tree, or refused as nested too deep. The induction is on the
brackets left and not on the value, since the reader of a list is that of its elements with a
bracket less. -/
theorem reads_tree (depth : Nat) (v : Json) : Reads (readTree depth) v (asTree depth v) := by
  induction depth generalizing v with
  | zero =>
    intro ws cs rest hws hcs hrest
    cases v with
    | list items =>
      unfold readTree
      rw [skipSpace_of_spells hws hcs rest]
      cases hcs
      simp [asTree, Json.depth]
    | object members =>
      unfold readTree
      rw [skipSpace_of_spells hws hcs rest]
      cases hcs
      simp [asTree, Json.depth]
    | _ => exact readTree_scalar 0 hws hcs hrest rfl
  | succ depth ih =>
    intro ws cs rest hws hcs hrest
    cases v with
    | list items =>
      unfold readTree
      rw [skipSpace_of_spells hws hcs rest]
      cases hcs with
      | list hbody hvs =>
        have hlist := listBody_of_spells (fun w _ => ih w) hbody hvs rest
        rw [mapM_asTree] at hlist
        simp only [List.cons_append, List.append_assoc, List.nil_append, hlist, asTree, Json.depth,
          canonical, Nat.add_le_add_iff_right]
        split <;> rfl
    | object members =>
      unfold readTree
      rw [skipSpace_of_spells hws hcs rest]
      cases hcs with
      | object hbody hvs =>
        have hmembers := treeMembers_of_spells ih hbody hvs rest
        simp only [List.cons_append, List.append_assoc, List.nil_append, hmembers, asTree,
          Json.depth, canonical, Nat.add_le_add_iff_right]
        split
        next => simp [closeObject_close hvs rest]
        next => rfl
    | _ => exact readTree_scalar (depth + 1) hws hcs hrest rfl

end CaseRouting.Json
