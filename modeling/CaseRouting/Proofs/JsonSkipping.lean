import CaseRouting.Proofs.JsonReading

/-!
# Skipping a spelled value

Skipping takes exactly the text of a value, however deep the value is nested. A value with its
brackets takes at most two steps for each of its characters, which is what the skipper allows for.
-/

namespace CaseRouting.Json

/-- A scalar is skipped with all its characters, whatever it is. -/
theorem skipScalar_of_spells {v : Json} {cs rest : List Char} (h : Spells v cs)
    (hrest : Closes rest) (hdepth : v.depth = 0) : skipScalar (cs ++ rest) = .ok rest := by
  cases h with
  | null => rfl
  | trueWord => rfl
  | falseWord => rfl
  | text h => simp [skipScalar, skipString_of_spells h]
  | list => simp [depth] at hdepth
  | object => simp [depth] at hdepth
  | @number p n hvalue =>
    have hskip := p.skipNumeral_chars hrest.endsNumber
    obtain ⟨c, tail, hchars, hopens⟩ := (Spells.number hvalue).exists_head
    obtain ⟨hn, ht, hf, hquote, -, -⟩ := hopens.number_ne
    have hopens : c = '-' ∨ c.isDigit = true := hopens
    rw [hchars, List.cons_append] at hskip ⊢
    simp [skipScalar, hn, ht, hf, hquote, hopens, hskip]

/-- The value is skipped in at most two steps for each character, under whatever brackets are
open. -/
def Skips (v : Json) : Prop :=
  ∀ cs, Spells v cs → ∃ steps ≤ 2 * cs.length, ∀ fuel brackets ws rest, Blank ws → Closes rest →
    skipFrom (fuel + steps) brackets .value (ws ++ (cs ++ rest)) =
      skipFrom fuel brackets .behind rest

/-- Where the skipping of a list or an object stands in front of its first element or of a later
one. -/
def pointBefore (first : Bool) : SkipPoint := if first then .opened else .behind

/-- A scalar is skipped in one step, since it opens no brackets. -/
theorem skips_scalar {v : Json} (hdepth : v.depth = 0) : Skips v := by
  intro cs hcs
  obtain ⟨c, tail, rfl, hopens⟩ := hcs.exists_head
  obtain ⟨hlist, hobject⟩ := hopens.scalar_ne hdepth
  refine ⟨1, by simp; omega, fun fuel brackets ws rest hws hrest => ?_⟩
  have hscalar := skipScalar_of_spells hcs hrest hdepth
  conv =>
    lhs
    unfold skipFrom
  rw [skipSpace_of_spells hws hcs rest]
  split
  next heq => exact absurd heq (List.cons_ne_nil _ _)
  next heq => exact absurd (List.cons.inj heq).1 hlist
  next heq => exact absurd (List.cons.inj heq).1 hobject
  next => rw [hscalar]

/-- A closing bracket is taken in one step, and the skipping goes on in the brackets around it. -/
theorem skipFrom_close (bracket : Bracket) (outer : List Bracket) (first : Bool) {ws : List Char}
    (hws : Blank ws) (fuel : Nat) (rest : List Char) :
    skipFrom (fuel + 1) (bracket :: outer) (pointBefore first)
        (ws ++ bracket.closing :: rest) = skipFrom fuel outer .behind rest := by
  have hspace : isSpace bracket.closing = false := by cases bracket <;> decide
  have hskip := skipSpace_append hws hspace rest
  cases first <;> simp [skipFrom, pointBefore, hskip]

/-- What stands in front of an element or a member is taken in one step, with the key if there is
one. -/
theorem skipFrom_gap {first : Bool} {gap : List Char} (hgap : Gap first gap) (bracket : Bracket)
    {c : Char} (hspace : isSpace c = false) (hclose : c ≠ bracket.closing) :
    ∃ vs, Blank vs ∧ ∀ fuel outer rest after, skipKey bracket (vs ++ c :: rest) = .ok after →
      skipFrom (fuel + 1) (bracket :: outer) (pointBefore first) (gap ++ c :: rest) =
        skipFrom fuel (bracket :: outer) .value after := by
  cases hgap with
  | first hws =>
    refine ⟨[], List.forall_mem_nil _, fun fuel outer rest after hkey => ?_⟩
    have hskip := skipSpace_append hws hspace rest
    rw [List.nil_append] at hkey
    simp [skipFrom, pointBefore, hskip, hclose, hkey]
  | @later ws vs hws hvs =>
    refine ⟨vs, hvs, fun fuel outer rest after hkey => ?_⟩
    have hskip := skipSpace_append hws (show isSpace ',' = false by decide) (vs ++ c :: rest)
    have hcomma : ',' ≠ bracket.closing := by cases bracket <;> decide
    simp [skipFrom, pointBefore, hskip, hcomma, hkey]

/-- The elements of a list are skipped up to and with its closing bracket. An element costs the step
in front of it besides its own; a comma pays for that step, and the first element, which has none,
takes it from the opening bracket. -/
theorem skips_items {items : List Json} (hitems : ∀ v ∈ items, Skips v) {first : Bool}
    {body : List Char} (hbody : SpellsItems first items body) :
    ∃ steps ≤ 2 * body.length + (if first then 2 else 1), ∀ fuel outer ws rest, Blank ws →
      skipFrom (fuel + steps) (.list :: outer) (pointBefore first) (body ++ (ws ++ ']' :: rest)) =
        skipFrom fuel outer .behind rest := by
  induction items generalizing first body with
  | nil =>
    cases hbody
    refine ⟨1, by split <;> omega, fun fuel outer ws rest hws => ?_⟩
    exact skipFrom_close .list outer first hws fuel rest
  | cons v items ih =>
    cases hbody with
    | @cons _ gap cs more _ _ hgap hitem hmore =>
      obtain ⟨steps, hsteps, hvalue⟩ := hitems v List.mem_cons_self cs hitem
      obtain ⟨later, hlater, hrest⟩ := ih (fun v hv => hitems v (List.mem_cons_of_mem _ hv)) hmore
      obtain ⟨c, tail, rfl, hopens⟩ := hitem.exists_head
      obtain ⟨hspace, hclose⟩ := hopens.ne
      obtain ⟨vs, hvs, hgapStep⟩ := skipFrom_gap hgap .list hspace hclose
      refine ⟨later + steps + 1, ?_, fun fuel outer ws rest hws => ?_⟩
      · have hgapLength : 2 ≤ 2 * gap.length + (if first then 2 else 1) := by
          cases hgap <;> simp only [List.length_append, List.length_cons, if_true] <;> omega
        simp only [List.length_append, Bool.false_eq_true, if_false] at hlater ⊢
        omega
      · have hfollows := closes_items hmore hws rest
        rw [List.append_assoc, List.append_assoc, List.cons_append,
          show fuel + (later + steps + 1) = fuel + later + steps + 1 by omega,
          hgapStep _ outer _ _ rfl]
        exact (hvalue (fuel + later) (.list :: outer) vs _ hvs hfollows).trans
          (hrest fuel outer ws rest hws)

/-- The key of a member and the colon behind it are skipped, whatever escapes the key is written
with. -/
theorem skipKey_object {ws ks join : List Char} {key : String} (hws : Blank ws)
    (hkey : SpellsBody key.toList ks) (hjoin : Join join) (rest : List Char) :
    ∃ vs, Blank vs ∧ skipKey .object (ws ++ '"' :: (ks ++ (join ++ rest))) = .ok (vs ++ rest) := by
  obtain ⟨vs, hvs, hcolon⟩ := colon_join hjoin rest
  have hquote := skipSpace_append hws (show isSpace '"' = false by decide) (ks ++ (join ++ rest))
  have hstring := skipString_of_spells hkey (join ++ rest)
  exact ⟨vs, hvs, by simp [skipKey, hquote, hstring, hcolon]⟩

/-- The members of an object are skipped up to and with its closing brace, at the same price as the
elements of a list. -/
theorem skips_members {members : List (String × Json)} (hmembers : ∀ m ∈ members, Skips m.2)
    {first : Bool} {body : List Char} (hbody : SpellsMembers first members body) :
    ∃ steps ≤ 2 * body.length + (if first then 2 else 1), ∀ fuel outer ws rest, Blank ws →
      skipFrom (fuel + steps) (.object :: outer) (pointBefore first)
          (body ++ (ws ++ '\x7d' :: rest)) = skipFrom fuel outer .behind rest := by
  induction members generalizing first body with
  | nil =>
    cases hbody
    refine ⟨1, by split <;> omega, fun fuel outer ws rest hws => ?_⟩
    exact skipFrom_close .object outer first hws fuel rest
  | cons m members ih =>
    cases hbody with
    | @cons _ gap ks join cs more key value _ hgap hkey hjoin hvalue hmore =>
      obtain ⟨steps, hsteps, hskip⟩ := hmembers (key, value) List.mem_cons_self cs hvalue
      obtain ⟨later, hlater, hrest⟩ :=
        ih (fun m hm => hmembers m (List.mem_cons_of_mem _ hm)) hmore
      obtain ⟨us, hus, hgapStep⟩ := skipFrom_gap hgap .object (c := '"') (by decide) (by decide)
      refine ⟨later + steps + 1, ?_, fun fuel outer ws rest hws => ?_⟩
      · simp only [List.length_append, List.length_cons, Bool.false_eq_true, if_false]
          at hlater ⊢
        split <;> omega
      · have hfollows := closes_members hmore hws rest
        obtain ⟨vs, hvs, hkeyStep⟩ :=
          skipKey_object hus hkey hjoin (cs ++ (more ++ (ws ++ '\x7d' :: rest)))
        simp only [List.append_assoc, List.cons_append]
        rw [show fuel + (later + steps + 1) = fuel + later + steps + 1 by omega,
          hgapStep _ outer _ _ hkeyStep]
        exact (hskip (fuel + later) (.object :: outer) vs _ hvs hfollows).trans
          (hrest fuel outer ws rest hws)

/-- Every value is skipped, however deep it is nested, by induction on the values within it. -/
theorem skips (v : Json) : Skips v := by
  induction v using Json.induction with
  | null => exact skips_scalar rfl
  | boolean b => exact skips_scalar rfl
  | number n => exact skips_scalar rfl
  | text s => exact skips_scalar rfl
  | list items ih =>
    intro cs hcs
    cases hcs with
    | @list _ body vs hbody hvs =>
      obtain ⟨steps, hsteps, hskip⟩ := skips_items ih hbody
      refine ⟨steps + 1, ?_, fun fuel brackets ws rest hws hrest => ?_⟩
      · simp only [List.length_cons, List.length_append, List.length_nil, if_true] at hsteps ⊢
        omega
      · have hspace := skipSpace_append hws (show isSpace '[' = false by decide)
          (body ++ (vs ++ ']' :: rest))
        have hlist := hskip fuel brackets vs rest hvs
        rw [← Nat.add_assoc]
        simp only [List.cons_append, List.append_assoc, List.nil_append]
        simpa [skipFrom, hspace, pointBefore] using hlist
  | object members ih =>
    intro cs hcs
    cases hcs with
    | @object _ body vs hbody hvs =>
      obtain ⟨steps, hsteps, hskip⟩ := skips_members ih hbody
      refine ⟨steps + 1, ?_, fun fuel brackets ws rest hws hrest => ?_⟩
      · simp only [List.length_cons, List.length_append, List.length_nil, if_true] at hsteps ⊢
        omega
      · have hspace := skipSpace_append hws (show isSpace '\x7b' = false by decide)
          (body ++ (vs ++ '\x7d' :: rest))
        have hobject := hskip fuel brackets vs rest hvs
        rw [← Nat.add_assoc]
        simp only [List.cons_append, List.append_assoc, List.nil_append]
        simpa [skipFrom, hspace, pointBefore] using hobject

/-- Skipping a spelled value leaves what stands behind it, for twice its characters are steps
enough. -/
theorem skipValue_of_spells {v : Json} {ws cs rest : List Char} (hws : Blank ws)
    (hcs : Spells v cs) (hrest : Closes rest) : skipValue (ws ++ (cs ++ rest)) = .ok rest := by
  obtain ⟨steps, hsteps, hskip⟩ := skips v cs hcs
  have hlength : (ws ++ (cs ++ rest)).length = ws.length + (cs.length + rest.length) := by
    simp only [List.length_append]
  obtain ⟨fuel, hfuel⟩ := Nat.exists_eq_add_of_le'
    (show steps + 1 ≤ 2 * (ws ++ (cs ++ rest)).length + 2 by omega)
  have hvalue := hskip (fuel + 1) [] ws rest hws hrest
  rw [skipValue, hfuel, show fuel + (steps + 1) = fuel + 1 + steps by omega, hvalue]
  rfl

/-- Skipping the value of a member keeps the draft as it is. -/
theorem skipMember_of_spells {δ : Type} (key : String) (draft : δ) (v : Json) :
    ReadsBehindColon (skipMember key draft) v (.ok draft) := by
  intro join cs rest hjoin hcs hrest
  obtain ⟨vs, hvs, hcolon⟩ := colon_join hjoin (cs ++ rest)
  simp [skipMember, hcolon, skipValue_of_spells hvs hcs hrest]

end CaseRouting.Json
