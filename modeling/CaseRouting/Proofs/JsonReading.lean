import CaseRouting.Definition.Read
import CaseRouting.Proofs.Outcomes
import CaseRouting.Proofs.TextReading

/-!
# What readers make of a spelled value

On a text that spells a value a reader gives an outcome that depends on the value alone, and it
takes exactly the text of the value. What stands in front of an element or a member is taken
without a fault. So a list is read by reading its elements in turn, an object by giving its members
to the draft in turn, and a reader that wants another shape refuses the value for what it is.
-/

namespace CaseRouting.Json

/-- The reader takes a spelled value behind white space, exactly its text and no more, and gives the
outcome, whatever the spelling. -/
def Reads {α : Type} (reader : Reader α) (v : Json) (outcome : Except Error α) : Prop :=
  ∀ ⦃ws cs rest : List Char⦄, Blank ws → Spells v cs → Closes rest →
    reader (ws ++ (cs ++ rest)) = outcome.map (·, rest)

/-- The reader takes a colon and a spelled value and gives the outcome, as it is called behind the
key of a member. -/
def ReadsBehindColon {α : Type} (reader : Reader α) (v : Json) (outcome : Except Error α) : Prop :=
  ∀ ⦃join cs rest : List Char⦄, Join join → Spells v cs → Closes rest →
    reader (join ++ (cs ++ rest)) = outcome.map (·, rest)

/-- White space is skipped up to a character that is none, and no further. -/
theorem skipSpace_append {ws : List Char} (hws : Blank ws) {c : Char} (hc : isSpace c = false)
    (rest : List Char) : skipSpace (ws ++ c :: rest) = c :: rest := by
  unfold skipSpace
  rw [List.dropWhile_append_of_pos hws]
  simp [hc]

/-- White space alone is skipped, and nothing is left. -/
theorem skipSpace_blank {ws : List Char} (hws : Blank ws) : skipSpace ws = [] := by
  have hdrop : (ws ++ []).dropWhile isSpace = ([] : List Char).dropWhile isSpace :=
    List.dropWhile_append_of_pos hws
  simpa [skipSpace] using hdrop

/-- The characters with which a value can begin; they tell what kind of value it is. -/
def Opens : Json → Char → Prop
  | .null, c => c = 'n'
  | .boolean b, c => c = 't' ∧ b = true ∨ c = 'f' ∧ b = false
  | .number _, c => c = '-' ∨ c.isDigit = true
  | .text _, c => c = '"'
  | .list _, c => c = '['
  | .object _, c => c = '\x7b'

/-- A spelled value begins with one of its characters, whatever follows. -/
theorem Spells.exists_head {v : Json} {cs : List Char} (h : Spells v cs) :
    ∃ c tail, cs = c :: tail ∧ Opens v c := by
  cases h with
  | null => exact ⟨_, _, rfl, rfl⟩
  | trueWord => exact ⟨_, _, rfl, Or.inl ⟨rfl, rfl⟩⟩
  | falseWord => exact ⟨_, _, rfl, Or.inr ⟨rfl, rfl⟩⟩
  | text => exact ⟨_, _, rfl, rfl⟩
  | list => exact ⟨_, _, rfl, rfl⟩
  | object => exact ⟨_, _, rfl, rfl⟩
  | @number p n h =>
    obtain ⟨d, ds, hwhole, hd⟩ := p.whole_isDigits.exists_cons
    unfold Numeral.chars Numeral.signChars
    cases p.negative with
    | true => exact ⟨'-', _, rfl, Or.inl rfl⟩
    | false => exact ⟨d, _, by rw [hwhole]; rfl, Or.inr hd⟩

/-- A digit is none of the characters that are not digits, which are the marks and white space. -/
theorem isDigit_ne {c d : Char} (hc : c.isDigit = true) (hd : d.isDigit = false) : c ≠ d := by
  rintro rfl
  rw [hc] at hd
  exact absurd hd (by decide)

/-- A number begins with a character with which no other value begins. -/
theorem Opens.number_ne {n : Number} {c : Char} (h : Opens (.number n) c) :
    c ≠ 'n' ∧ c ≠ 't' ∧ c ≠ 'f' ∧ c ≠ '"' ∧ c ≠ '[' ∧ c ≠ '\x7b' := by
  have hne {d : Char} (hd : ¬ Opens (.number n) d) : c ≠ d := by
    rintro rfl
    exact hd h
  exact ⟨hne (by simp [Opens]), hne (by simp [Opens]), hne (by simp [Opens]),
    hne (by simp [Opens]), hne (by simp [Opens]), hne (by simp [Opens])⟩

/-- A scalar begins with no opening bracket, so that no bracket has to be counted for it. -/
theorem Opens.scalar_ne {v : Json} {c : Char} (h : Opens v c) (hdepth : v.depth = 0) :
    c ≠ '[' ∧ c ≠ '\x7b' := by
  constructor <;> rintro rfl <;> cases v <;> simp [Opens, Json.depth] at h hdepth

/-- A value begins neither with white space nor with a mark that ends a list. -/
theorem Opens.ne {v : Json} {c : Char} (h : Opens v c) : isSpace c = false ∧ c ≠ ']' := by
  cases v with
  | null => obtain rfl := h; decide
  | boolean b => rcases h with ⟨rfl, -⟩ | ⟨rfl, -⟩ <;> decide
  | text s => obtain rfl := h; decide
  | list items => obtain rfl := h; decide
  | object members => obtain rfl := h; decide
  | number n =>
    rcases h with rfl | hdigit
    · decide
    · have hspace : isSpace c = false := by
        simp [isSpace, isDigit_ne hdigit (show (' ' : Char).isDigit = false by decide),
          isDigit_ne hdigit (show ('\t' : Char).isDigit = false by decide),
          isDigit_ne hdigit (show ('\n' : Char).isDigit = false by decide),
          isDigit_ne hdigit (show ('\r' : Char).isDigit = false by decide)]
      exact ⟨hspace, isDigit_ne hdigit (by decide)⟩

/-- The list goes on: what stands in front of an element is taken, the comma included. -/
theorem nextElement_gap {first : Bool} {gap : List Char} (hgap : Gap first gap) {c : Char}
    (hspace : isSpace c = false) (hclose : c ≠ ']') (rest : List Char) :
    nextElement first (gap ++ c :: rest) = .ok (some (c :: rest)) := by
  cases hgap with
  | first hws =>
    unfold nextElement
    rw [skipSpace_append hws hspace]
    simp
  | later hws hvs =>
    have hcomma : isSpace ',' = false := by decide
    unfold nextElement
    rw [List.append_assoc, List.cons_append, skipSpace_append hws hcomma]
    simp [skipSpace_append hvs hspace, hclose]

/-- The list ends where its bracket comes next, in front of any element. -/
theorem nextElement_close (first : Bool) {ws : List Char} (hws : Blank ws) (rest : List Char) :
    nextElement first (ws ++ ']' :: rest) = .ok none := by
  have hclose : isSpace ']' = false := by decide
  unfold nextElement
  rw [skipSpace_append hws hclose]
  rfl

/-- The closing bracket of a list is taken with the white space in front of it. -/
theorem closeList_close {ws : List Char} (hws : Blank ws) (rest : List Char) :
    closeList (ws ++ ']' :: rest) = .ok rest := by
  have hclose : isSpace ']' = false := by decide
  unfold closeList
  rw [skipSpace_append hws hclose]
  rfl

/-- The object goes on: what stands in front of a key is taken with the quotation mark. -/
theorem nextKey_gap {first : Bool} {gap : List Char} (hgap : Gap first gap) (rest : List Char) :
    nextKey first (gap ++ '"' :: rest) = .ok (some rest) := by
  have hquote : isSpace '"' = false := by decide
  cases hgap with
  | first hws =>
    unfold nextKey
    rw [skipSpace_append hws hquote]
    rfl
  | later hws hvs =>
    have hcomma : isSpace ',' = false := by decide
    unfold nextKey
    rw [List.append_assoc, List.cons_append, skipSpace_append hws hcomma]
    simp [skipSpace_append hvs hquote]

/-- The object ends where its brace comes next, in front of any member. -/
theorem nextKey_close (first : Bool) {ws : List Char} (hws : Blank ws) (rest : List Char) :
    nextKey first (ws ++ '\x7d' :: rest) = .ok none := by
  have hclose : isSpace '\x7d' = false := by decide
  unfold nextKey
  rw [skipSpace_append hws hclose]
  rfl

/-- The closing brace of an object is taken with the white space in front of it. -/
theorem closeObject_close {ws : List Char} (hws : Blank ws) (rest : List Char) :
    closeObject (ws ++ '\x7d' :: rest) = .ok rest := by
  have hclose : isSpace '\x7d' = false := by decide
  unfold closeObject
  rw [skipSpace_append hws hclose]
  rfl

/-- A value does not go on where its list or object does, since a comma or white space comes
next. -/
theorem closes_gap {gap : List Char} (hgap : Gap false gap) (rest : List Char) :
    Closes (gap ++ rest) := by
  cases hgap with
  | @later ws vs hws hvs =>
    intro c hc
    cases ws with
    | nil => exact Or.inr (Or.inl (Option.some.inj hc).symm)
    | cons w ws =>
      obtain rfl : w = c := Option.some.inj hc
      exact Or.inl (hws w List.mem_cons_self)

/-- A value does not go on where its list or object ends, since a bracket or white space comes
next. -/
theorem closes_bracket {ws : List Char} (hws : Blank ws) {d : Char} (hd : d = ']' ∨ d = '\x7d')
    (rest : List Char) : Closes (ws ++ d :: rest) := by
  intro c hc
  cases ws with
  | nil =>
    obtain rfl : d = c := Option.some.inj hc
    exact Or.inr (Or.inr hd)
  | cons w ws =>
    obtain rfl : w = c := Option.some.inj hc
    exact Or.inl (hws w List.mem_cons_self)

/-- A value does not go on behind an element of a list, whether another one follows or the list
ends. -/
theorem closes_items {items : List Json} {more ws : List Char} (h : SpellsItems false items more)
    (hws : Blank ws) (rest : List Char) : Closes (more ++ (ws ++ ']' :: rest)) := by
  cases h with
  | nil => exact closes_bracket hws (Or.inl rfl) rest
  | cons hgap hitem hmore =>
    rw [List.append_assoc]
    exact closes_gap hgap _

/-- A value does not go on behind a member of an object, whether another one follows or the object
ends. -/
theorem closes_members {members : List (String × Json)} {more ws : List Char}
    (h : SpellsMembers false members more) (hws : Blank ws) (rest : List Char) :
    Closes (more ++ (ws ++ '\x7d' :: rest)) := by
  cases h with
  | nil => exact closes_bracket hws (Or.inr rfl) rest
  | cons hgap hkey hjoin hvalue hmore =>
    rw [List.append_assoc]
    exact closes_gap hgap _

/-- A number does not go on where a value does not, for neither a digit nor a point nor a letter
comes next. -/
theorem Closes.endsNumber {rest : List Char} (h : Closes rest) : EndsNumber rest := by
  intro c hc
  rcases h c hc with hspace | rfl | rfl | rfl
  · simp only [isSpace, Bool.or_eq_true, decide_eq_true_eq, or_assoc] at hspace
    rcases hspace with rfl | rfl | rfl | rfl <;> decide
  all_goals decide

/-- Reading the elements of a list comes to their outcomes in turn. One step is an element, and each
takes at least one character, so the fuel lasts to the bracket. -/
theorem elements_of_spells {α : Type} {item : Reader α} {outcome : Json → Except Error α}
    {items : List Json} (hread : ∀ v ∈ items, Reads item v (outcome v)) {first : Bool}
    {body ws : List Char} (hbody : SpellsItems first items body) (hws : Blank ws) {fuel : Nat}
    (hfuel : body.length < fuel) (rest : List Char) :
    elements item fuel first (body ++ (ws ++ ']' :: rest)) =
      (items.mapM outcome).map (·, ws ++ ']' :: rest) := by
  induction items generalizing first body fuel with
  | nil =>
    cases hbody
    obtain ⟨fuel, rfl⟩ := Nat.exists_eq_add_of_le' hfuel
    simp [elements, nextElement_close first hws, bind, Except.bind, Except.map, pure, Except.pure]
  | cons v items ih =>
    cases hbody with
    | @cons _ gap cs more _ _ hgap hitem hmore =>
      obtain ⟨c, tail, rfl, hopens⟩ := hitem.exists_head
      obtain ⟨hspace, hclose⟩ := hopens.ne
      have hlength : more.length + 1 < fuel := by
        simp only [List.length_append, List.length_cons] at hfuel
        omega
      obtain ⟨fuel, rfl⟩ := Nat.exists_eq_add_of_le' (show 1 ≤ fuel by omega)
      have hnext := nextElement_gap hgap hspace hclose (tail ++ (more ++ (ws ++ ']' :: rest)))
      have hfirst : item (c :: (tail ++ (more ++ (ws ++ ']' :: rest)))) =
          (outcome v).map (·, more ++ (ws ++ ']' :: rest)) :=
        hread v List.mem_cons_self (List.forall_mem_nil _) hitem (closes_items hmore hws rest)
      have hrest := ih (fun v hv => hread v (List.mem_cons_of_mem _ hv)) hmore
        (show more.length < fuel by omega)
      simp only [List.append_assoc, List.cons_append, elements, hnext, hfirst, bind, Except.bind,
        List.mapM_cons]
      cases outcome v with
      | error e => rfl
      | ok a =>
        simp only [Except.map, hrest]
        cases items.mapM outcome <;> rfl

/-- Reading a list behind its opening bracket comes to the outcomes of its elements in turn. -/
theorem listBody_of_spells {α : Type} {item : Reader α} {outcome : Json → Except Error α}
    {items : List Json} (hread : ∀ v ∈ items, Reads item v (outcome v))
    {body ws : List Char} (hbody : SpellsItems true items body) (hws : Blank ws)
    (rest : List Char) :
    listBody item (body ++ (ws ++ ']' :: rest)) = (items.mapM outcome).map (·, rest) := by
  have helements := elements_of_spells hread hbody hws
    (show body.length < (body ++ (ws ++ ']' :: rest)).length + 1 by
      rw [List.length_append]; omega) rest
  simp only [listBody, helements, bind, Except.bind]
  cases items.mapM outcome with
  | error e => rfl
  | ok values => simp [Except.map, closeList_close hws rest]

/-- The colon behind a key is taken with the white space in front of it; that behind it is left to
the reader of the value. -/
theorem colon_join {join : List Char} (hjoin : Join join) (rest : List Char) :
    ∃ vs, Blank vs ∧ colon (join ++ rest) = .ok (vs ++ rest) := by
  cases hjoin with
  | @colon ws vs hws hvs =>
    have hcolon : isSpace ':' = false := by decide
    refine ⟨vs, hvs, ?_⟩
    unfold Json.colon
    rw [List.append_assoc, List.cons_append, skipSpace_append hws hcolon]
    rfl

/-- A reader that takes a value takes it behind a colon, since it skips white space itself. -/
theorem Reads.behindColon {α : Type} {reader : Reader α} {v : Json} {outcome : Except Error α}
    (h : Reads reader v outcome) :
    ReadsBehindColon (fun cs => do
      let cs ← colon cs
      reader cs) v outcome := by
  intro join cs rest hjoin hcs hrest
  obtain ⟨vs, hvs, hcolon⟩ := colon_join hjoin (cs ++ rest)
  simp only [hcolon, bind, Except.bind]
  exact h hvs hcs hrest

/-- A reader whose value is put to use gives the outcome put to use, and takes no more of the
text. -/
theorem Reads.map {α β : Type} {reader : Reader α} {v : Json} {outcome : Except Error α}
    (h : Reads reader v outcome) (f : α → β) :
    Reads (fun cs => do
      let (a, cs) ← reader cs
      .ok (f a, cs)) v (outcome.map f) := by
  intro ws cs rest hws hcs hrest
  simp only [h hws hcs hrest]
  cases outcome <;> rfl

/-- Reading a text that says a value gives the outcome, for behind the value stands only white
space. -/
theorem Reads.readWhole {α : Type} {reader : Reader α} {v : Json} {outcome : Except Error α}
    (h : Reads reader v outcome) {text : String} (htext : Says text v) :
    readWhole reader text = outcome := by
  obtain ⟨ws, cs, vs, hws, hcs, hvs, hchars⟩ := htext
  have hcloses : Closes vs := fun c hc => Or.inl (hvs c (List.mem_of_mem_head? hc))
  unfold Json.readWhole
  rw [hchars, h hws hcs hcloses]
  cases outcome with
  | error e => rfl
  | ok a => simp [skipSpace_blank hvs]

/-- Reading the members of an object gives them to the draft in turn. One step is a member, and each
takes at least one character, so the fuel lasts to the brace. -/
theorem members_of_spells {δ : Type} {member : String → δ → Reader δ}
    {step : δ → String × Json → Except Error δ} {ms : List (String × Json)}
    (hread : ∀ m ∈ ms, ∀ draft, ReadsBehindColon (member m.1 draft) m.2 (step draft m))
    {first : Bool} {body ws : List Char} (hbody : SpellsMembers first ms body) (hws : Blank ws)
    {fuel : Nat} (hfuel : body.length < fuel) (draft : δ) (rest : List Char) :
    members member fuel first draft (body ++ (ws ++ '\x7d' :: rest)) =
      (ms.foldlM step draft).map (·, ws ++ '\x7d' :: rest) := by
  induction ms generalizing first body fuel draft with
  | nil =>
    cases hbody
    obtain ⟨fuel, rfl⟩ := Nat.exists_eq_add_of_le' hfuel
    simp [members, nextKey_close first hws, bind, Except.bind, Except.map, pure, Except.pure]
  | cons m ms ih =>
    cases hbody with
    | @cons _ gap ks join cs more key value _ hgap hkey hjoin hvalue hmore =>
      have hlength : more.length + 1 < fuel := by
        simp only [List.length_append, List.length_cons] at hfuel
        omega
      obtain ⟨fuel, rfl⟩ := Nat.exists_eq_add_of_le' (show 1 ≤ fuel by omega)
      have hnext := nextKey_gap hgap
        (ks ++ (join ++ (cs ++ (more ++ (ws ++ '\x7d' :: rest)))))
      have hkeyRead := stringBody_of_spells hkey
        (join ++ (cs ++ (more ++ (ws ++ '\x7d' :: rest))))
      have hvalueRead := hread (key, value) List.mem_cons_self draft hjoin hvalue
        (closes_members hmore hws rest)
      have hrest := ih (fun m hm => hread m (List.mem_cons_of_mem _ hm)) hmore
        (show more.length < fuel by omega)
      simp only [List.append_assoc, List.cons_append, members, hnext, hkeyRead, hvalueRead, bind,
        Except.bind, List.foldlM_cons]
      cases step draft (key, value) with
      | error e => rfl
      | ok draft => exact hrest draft

/-- Reading an object behind its opening brace finishes the draft behind all members. -/
theorem objectBody_of_spells {δ α : Type} {member : String → δ → Reader δ}
    {step : δ → String × Json → Except Error δ} {ms : List (String × Json)}
    (hread : ∀ m ∈ ms, ∀ draft, ReadsBehindColon (member m.1 draft) m.2 (step draft m))
    {body ws : List Char} (hbody : SpellsMembers true ms body) (hws : Blank ws) (blank : δ)
    (finish : δ → Except Mismatch α) (rest : List Char) :
    objectBody member blank finish (body ++ (ws ++ '\x7d' :: rest)) = (do
      let draft ← ms.foldlM step blank
      finished (finish draft)).map (·, rest) := by
  have hmembers := members_of_spells hread hbody hws
    (show body.length < (body ++ (ws ++ '\x7d' :: rest)).length + 1 by
      rw [List.length_append]; omega) blank rest
  simp only [objectBody, hmembers, bind, Except.bind]
  cases ms.foldlM step blank with
  | error e => rfl
  | ok draft =>
    simp only [Except.map]
    cases finished (finish draft) with
    | error e => rfl
    | ok a => simp [closeObject_close hws rest]

/-- The refusal of a value of another shape, which says what was found and what was wanted. -/
def refusal {α : Type} (wanted : Wanted) (v : Json) : Except Error α :=
  .error (.mismatch (.wrongType v.found wanted))

/-- What a reader of texts makes of a value: the text, or a refusal. -/
def asText (wanted : Wanted) : Json → Except Error String
  | .text s => .ok s
  | v => refusal wanted v

/-- What a reader of values or null makes of a value: null is none, and anything else is left to the
reader of values. -/
def asNullable {α : Type} (value : Json → Except Error α) : Json → Except Error (Option α)
  | .null => .ok none
  | v => (value v).map some

/-- What a reader of texts or null makes of a value: null is none, and anything but a text is
refused otherwise. -/
def asNullableText : Json → Except Error (Option String)
  | .null => .ok none
  | .text s => .ok (some s)
  | v => refusal .text v

/-- What a reader of booleans makes of a value: the boolean, or a refusal. -/
def asBoolean : Json → Except Error Bool
  | .boolean b => .ok b
  | v => refusal .boolean v

/-- What a reader of lists makes of a value; at most so many brackets may be opened, and anything
but a list is refused as what it is. -/
def asList {α : Type} (item : Nat → Json → Except Error α) :
    Nat → Json → Except Error (List α)
  | 0, .list _ => .error .malformed
  | depth + 1, .list items => items.mapM (item depth)
  | _, v => refusal .list v

/-- White space in front of a spelled value is skipped, and nothing of the value. -/
theorem skipSpace_of_spells {ws cs : List Char} {v : Json} (hws : Blank ws) (h : Spells v cs)
    (rest : List Char) : skipSpace (ws ++ (cs ++ rest)) = cs ++ rest := by
  obtain ⟨c, tail, rfl, hopens⟩ := h.exists_head
  exact skipSpace_append hws hopens.ne.1 _

/-- A spelled number is read as its value, up to where it ends. -/
theorem numeral_of_spells {p : Numeral} {n : Number} (hvalue : p.value? = some n)
    {rest : List Char} (hrest : Closes rest) : numeral (p.chars ++ rest) = .ok (n, rest) := by
  rw [p.numeral_chars hrest.endsNumber, hvalue]
  rfl

/-- A spelled value of another shape is refused for what it is, which its first character tells. -/
theorem refuse_of_spells {α : Type} {v : Json} {cs rest : List Char} (h : Spells v cs)
    (hrest : Closes rest) (wanted : Wanted) :
    refuse (α := α) wanted (cs ++ rest) = refusal wanted v := by
  cases h with
  | null => rfl
  | trueWord => rfl
  | falseWord => rfl
  | text h => simp [refuse, stringBody_of_spells h, bind, Except.bind, refusal, found]
  | list => rfl
  | object => rfl
  | @number p n hvalue =>
    have hnumeral := numeral_of_spells hvalue hrest
    obtain ⟨c, tail, hchars, hopens⟩ := (Spells.number hvalue).exists_head
    obtain ⟨hn, ht, hf, hquote, hlist, hobject⟩ := hopens.number_ne
    have hopens : c = '-' ∨ c.isDigit = true := hopens
    rw [hchars, List.cons_append] at hnumeral ⊢
    simp [refuse, hopens, hnumeral, refusal, found]

/-- A text is read as it is made of the value that stands in its place. -/
theorem reads_text (wanted : Wanted) (v : Json) : Reads (readText wanted) v (asText wanted v) := by
  intro ws cs rest hws hcs hrest
  have hrefuse := refuse_of_spells (α := String × List Char) hcs hrest wanted
  unfold readText
  rw [skipSpace_of_spells hws hcs rest]
  cases v with
  | text s =>
    cases hcs with
    | text h => exact stringBody_of_spells h rest
  | _ =>
    obtain ⟨c, tail, rfl, hopens⟩ := hcs.exists_head
    split
    next heq =>
      obtain ⟨rfl, -⟩ := List.cons.inj heq
      simp [Opens] at hopens
    next => exact hrefuse

/-- A value or null is read as it is made of the value that stands in its place, if values are. -/
theorem reads_nullable {α : Type} {reader : Reader α} {outcome : Json → Except Error α}
    (hread : ∀ v, Reads reader v (outcome v)) (v : Json) :
    Reads (readNullable reader) v (asNullable outcome v) := by
  intro ws cs rest hws hcs hrest
  have hvalue : reader (cs ++ rest) = (outcome v).map (·, rest) :=
    hread v (List.forall_mem_nil _) hcs hrest
  unfold readNullable
  rw [skipSpace_of_spells hws hcs rest]
  cases v with
  | null =>
    cases hcs
    rfl
  | _ =>
    obtain ⟨c, tail, rfl, hopens⟩ := hcs.exists_head
    split
    next heq =>
      obtain ⟨rfl, -⟩ := List.cons.inj heq
      simp [Opens] at hopens
    next =>
      rw [hvalue]
      change _ = ((outcome _).map some).map _
      cases outcome _ <;> rfl

/-- A text or null is read as it is made of the value that stands in its place. -/
theorem reads_nullableText (v : Json) : Reads readNullableText v (asNullableText v) := by
  have hsame : asNullableText v = asNullable (asText .text) v := by
    cases v <;> rfl
  rw [hsame]
  exact reads_nullable (reads_text .text) v

/-- A boolean is read as it is made of the value that stands in its place. -/
theorem reads_boolean (v : Json) : Reads readBoolean v (asBoolean v) := by
  intro ws cs rest hws hcs hrest
  have hrefuse := refuse_of_spells (α := Bool × List Char) hcs hrest .boolean
  unfold readBoolean
  rw [skipSpace_of_spells hws hcs rest]
  cases v with
  | boolean b =>
    cases hcs with
    | trueWord => rfl
    | falseWord => rfl
  | _ =>
    obtain ⟨c, tail, rfl, hopens⟩ := hcs.exists_head
    split
    next heq =>
      obtain ⟨rfl, -⟩ := List.cons.inj heq
      simp [Opens] at hopens
    next heq =>
      obtain ⟨rfl, -⟩ := List.cons.inj heq
      simp [Opens] at hopens
    next => exact hrefuse

/-- A list is read as it is made of the value that stands in its place, if its elements are. -/
theorem reads_list {α : Type} {item : Nat → Reader α} {outcome : Nat → Json → Except Error α}
    (hread : ∀ depth v, Reads (item depth) v (outcome depth v)) (depth : Nat) (v : Json) :
    Reads (readList item depth) v (asList outcome depth v) := by
  intro ws cs rest hws hcs hrest
  have hrefuse := refuse_of_spells (α := List α × List Char) hcs hrest .list
  unfold readList
  rw [skipSpace_of_spells hws hcs rest]
  cases v with
  | list items =>
    cases hcs with
    | list hbody hvs =>
      cases depth with
      | zero => rfl
      | succ depth =>
        have hlist := listBody_of_spells (fun w _ => hread depth w) hbody hvs rest
        simpa [asList] using hlist
  | _ =>
    obtain ⟨c, tail, rfl, hopens⟩ := hcs.exists_head
    split
    next heq =>
      obtain ⟨rfl, -⟩ := List.cons.inj heq
      simp [Opens] at hopens
    next => cases depth <;> exact hrefuse

end CaseRouting.Json
