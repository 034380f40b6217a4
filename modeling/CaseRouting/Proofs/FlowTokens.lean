import CaseRouting.Proofs.FlowLexing

/-!
# The tokens of a written value

The compact text of a value is a node between brackets, of which the lexer makes one token for each
bracket, comma, colon and scalar, and one in front of every key.
-/

namespace CaseRouting.Yaml

open Json (writtenChar writtenText)

section Values

mutual

/-- The tokens of a value between brackets: one for each bracket, comma, colon and scalar, and one
in front of every key. -/
def flowTokens : Json → List Token
  | .null => [.scalar .plain ['n', 'u', 'l', 'l']]
  | .boolean true => [.scalar .plain ['t', 'r', 'u', 'e']]
  | .boolean false => [.scalar .plain ['f', 'a', 'l', 's', 'e']]
  | .number n => [.scalar .plain n.written]
  | .text s => [.scalar .quoted s.toList]
  | .list items => .flowSequenceStart :: itemTokens items
  | .object members => .flowMappingStart :: memberTokens members

/-- The tokens of the elements of a list and of its closing bracket, from the first element on. -/
def itemTokens : List Json → List Token
  | [] => [.flowSequenceEnd]
  | item :: rest => flowTokens item ++ moreItemTokens rest

/-- The tokens of the further elements, each with its comma, and of the closing bracket. -/
def moreItemTokens : List Json → List Token
  | [] => [.flowSequenceEnd]
  | item :: rest => .flowEntry :: (flowTokens item ++ moreItemTokens rest)

/-- The tokens of the members of an object and of its closing brace, from the first member on. -/
def memberTokens : List (String × Json) → List Token
  | [] => [.flowMappingEnd]
  | (key, value) :: rest =>
    .key :: .scalar .quoted key.toList :: .value :: (flowTokens value ++ moreMemberTokens rest)

/-- The tokens of the further members, each with its comma, and of the closing brace. -/
def moreMemberTokens : List (String × Json) → List Token
  | [] => [.flowMappingEnd]
  | (key, value) :: rest =>
    .flowEntry :: .key :: .scalar .quoted key.toList :: .value ::
      (flowTokens value ++ moreMemberTokens rest)

end

/-- A text of common characters that is not too long, as it is written, to be recognised as a
key. -/
def IsShortKey (key : String) : Prop :=
  IsCommonText key ∧ octetCount (writtenText key) ≤ 1024

instance (key : String) : Decidable (IsShortKey key) := inferInstanceAs (Decidable (_ ∧ _))

/-- A value without numbers, in common characters and with short keys, at any depth. -/
inductive Flowing : Json → Prop
  | null : Flowing .null
  | boolean (b : Bool) : Flowing (.boolean b)
  | text {s : String} (h : IsCommonText s) : Flowing (.text s)
  | list {items : List Json} (h : ∀ item ∈ items, Flowing item) : Flowing (.list items)
  | object {members : List (String × Json)}
      (hkeys : ∀ m ∈ members, IsShortKey m.1)
      (h : ∀ m ∈ members, Flowing m.2) : Flowing (.object members)

end Values

namespace Lexer

section Nodes

/-- A comma or a bracket comes next, so that a node between brackets ends here. -/
def EndsNode (rest : List Char) : Prop :=
  ∃ d behind, rest = d :: behind ∧ isFlowIndicator d = true

/-- From wherever such a text stands between brackets, in front of a comma or bracket, the lexer
reaches the end of the text and has taken these tokens. -/
def Tokenizes (cs : List Char) (ts : List Token) : Prop :=
  ∀ {level : Nat} {allowed : Bool} {tokens : List Token} {rest : List Char} {lexer : Lexer},
    EndsNode rest → At (level + 1) allowed tokens (cs ++ rest) lexer →
      Reaches lexer (At (level + 1) false (ts.reverse ++ tokens) rest)

variable {level : Nat} {allowed : Bool} {tokens : List Token} {rest : List Char} {lexer : Lexer}

/-- Words are tokens between brackets, each by itself. -/
theorem tokenizes_word {word : List Char} (hne : word ≠ [])
    (hword : ∀ c ∈ word, isWordChar c = true) : Tokenizes word [.scalar .plain word] := by
  intro level allowed tokens rest lexer hends h
  obtain ⟨d, behind, rfl, hd⟩ := hends
  exact h.reaches_word hne hword hd

/-- Behind an element of a list stands a comma or the bracket. -/
theorem endsNode_writtenMoreItems (items : List Json) (rest : List Char) :
    EndsNode (Json.writtenMoreItems items ++ rest) := by
  cases items with
  | nil => exact ⟨']', rest, rfl, rfl⟩
  | cons item items => exact ⟨',', _, rfl, rfl⟩

/-- Behind a member of an object stands a comma or the brace. -/
theorem endsNode_writtenMoreMembers (members : List (String × Json)) (rest : List Char) :
    EndsNode (Json.writtenMoreMembers members ++ rest) := by
  cases members with
  | nil => exact ⟨'\x7d', rest, rfl, rfl⟩
  | cons member members => exact ⟨',', _, rfl, rfl⟩

/-- The further elements of a list are taken, each behind its comma, and the bracket of the list. -/
theorem At.reaches_moreItems {items : List Json}
    (hitems : ∀ item ∈ items, Tokenizes item.written (flowTokens item))
    (h : At (level + 1) allowed tokens (Json.writtenMoreItems items ++ rest) lexer) :
    Reaches lexer (At level false ((moreItemTokens items).reverse ++ tokens) rest) := by
  induction items generalizing allowed tokens lexer with
  | nil => exact h.reaches_closing .list
  | cons item items ih =>
    obtain ⟨hitem, hitems⟩ := List.forall_mem_cons.mp hitems
    rw [Json.writtenMoreItems, List.cons_append, List.append_assoc] at h
    refine h.reaches_comma.trans fun next hnext => ?_
    refine (hitem (endsNode_writtenMoreItems items rest) hnext).trans fun next hnext => ?_
    simpa [moreItemTokens] using ih hitems hnext

/-- The elements of a list are taken, and its bracket, whether there are any or none. -/
theorem At.reaches_items {items : List Json}
    (hitems : ∀ item ∈ items, Tokenizes item.written (flowTokens item))
    (h : At (level + 1) allowed tokens (Json.writtenItems items ++ rest) lexer) :
    Reaches lexer (At level false ((itemTokens items).reverse ++ tokens) rest) := by
  cases items with
  | nil => exact h.reaches_closing .list
  | cons item items =>
    obtain ⟨hitem, hitems⟩ := List.forall_mem_cons.mp hitems
    rw [Json.writtenItems, List.append_assoc] at h
    refine (hitem (endsNode_writtenMoreItems items rest) h).trans fun next hnext => ?_
    simpa [itemTokens] using hnext.reaches_moreItems hitems

/-- The further members of an object are taken, each behind its comma, and the brace of the
object. -/
theorem At.reaches_moreMembers {members : List (String × Json)}
    (hkeys : ∀ m ∈ members, IsShortKey m.1)
    (hvalues : ∀ m ∈ members, Tokenizes m.2.written (flowTokens m.2))
    (h : At (level + 1) allowed tokens (Json.writtenMoreMembers members ++ rest) lexer) :
    Reaches lexer (At level false ((moreMemberTokens members).reverse ++ tokens) rest) := by
  induction members generalizing allowed tokens lexer with
  | nil => exact h.reaches_closing .object
  | cons m members ih =>
    obtain ⟨hkey, hkeys⟩ := List.forall_mem_cons.mp hkeys
    obtain ⟨hvalue, hvalues⟩ := List.forall_mem_cons.mp hvalues
    rw [Json.writtenMoreMembers, List.cons_append, List.append_assoc] at h
    refine h.reaches_comma.trans fun next hnext => ?_
    rw [List.cons_append, List.append_assoc] at hnext
    refine (hnext.reaches_key hkey.1 hkey.2).trans fun next hnext => ?_
    refine (hvalue (endsNode_writtenMoreMembers members rest) hnext).trans fun next hnext => ?_
    simpa [moreMemberTokens] using ih hkeys hvalues hnext

/-- The members of an object are taken, and its brace, whether there are any or none. -/
theorem At.reaches_members {members : List (String × Json)}
    (hkeys : ∀ m ∈ members, IsShortKey m.1)
    (hvalues : ∀ m ∈ members, Tokenizes m.2.written (flowTokens m.2))
    (h : At (level + 1) true tokens (Json.writtenMembers members ++ rest) lexer) :
    Reaches lexer (At level false ((memberTokens members).reverse ++ tokens) rest) := by
  cases members with
  | nil => exact h.reaches_closing .object
  | cons m members =>
    obtain ⟨hkey, hkeys⟩ := List.forall_mem_cons.mp hkeys
    obtain ⟨hvalue, hvalues⟩ := List.forall_mem_cons.mp hvalues
    rw [Json.writtenMembers, List.append_assoc, List.cons_append, List.append_assoc] at h
    refine (h.reaches_key hkey.1 hkey.2).trans fun next hnext => ?_
    refine (hvalue (endsNode_writtenMoreMembers members rest) hnext).trans fun next hnext => ?_
    simpa [memberTokens] using hnext.reaches_moreMembers hkeys hvalues

/-- An object is taken, wherever it stands, also outside all brackets. -/
theorem At.reaches_object {members : List (String × Json)}
    (hkeys : ∀ m ∈ members, IsShortKey m.1)
    (hvalues : ∀ m ∈ members, Tokenizes m.2.written (flowTokens m.2))
    (h : At level allowed tokens (Json.written (.object members) ++ rest) lexer) :
    Reaches lexer
      (At level false ((flowTokens (.object members)).reverse ++ tokens) rest) := by
  rw [Json.written, List.cons_append] at h
  refine (h.reaches_opening .object).trans fun next hnext => ?_
  simpa [flowTokens] using hnext.reaches_members hkeys hvalues

/-- The tokens of a value are those that the lexer takes from its compact text, by induction on the
values within it. -/
theorem tokenizes_of_flowing {v : Json} (h : Flowing v) : Tokenizes v.written (flowTokens v) := by
  induction h with
  | null => exact tokenizes_word (List.cons_ne_nil _ _) (List.all_eq_true.mp rfl)
  | boolean b =>
    cases b with
    | true => exact tokenizes_word (List.cons_ne_nil _ _) (List.all_eq_true.mp rfl)
    | false => exact tokenizes_word (List.cons_ne_nil _ _) (List.all_eq_true.mp rfl)
  | text hs =>
    intro level allowed tokens rest lexer _ h
    exact (h.reaches_text hs).trans fun next hnext => .here hnext.1
  | list hitems ih =>
    intro level allowed tokens rest lexer _ h
    rw [Json.written, List.cons_append] at h
    refine (h.reaches_opening .list).trans fun next hnext => ?_
    simpa [flowTokens] using hnext.reaches_items ih
  | object hkeys hvalues ih =>
    intro level allowed tokens rest lexer _ h
    exact h.reaches_object hkeys ih

end Nodes

section Texts

/-- The end of the text is the last token, and the run gives the tokens in order. -/
theorem At.run?_end {level : Nat} {allowed : Bool} {tokens : List Token} {lexer : Lexer}
    (h : At level allowed tokens [] lexer) (fuel : Nat) :
    lexer.run? (fuel + 1) = some (tokens.reverse ++ [.streamEnd]) := by
  obtain ⟨last, hstep, htokens⟩ :
      ∃ last, lexer.step? = some last ∧ last.tokens = .streamEnd :: tokens := by
    refine ⟨{ lexer.refreshed with keys := none :: lexer.refreshed.keys.tail }.emit .streamEnd,
      ?_, congrArg (.streamEnd :: ·) h.refreshed.tokens_eq⟩
    rw [h.step?_eq rfl, takeToken?, h.refreshed.rest_eq]
    simp [takeEnd?, h.refreshed.closeBlocks_eq, h.refreshed.dropKey?]
  simp [Lexer.run?, hstep, htokens]

/-- The digits in the escapes of controls are allowed. -/
theorem isAllowed_hexDigit : ∀ n < 16, isAllowed (Json.hexDigit n) = true := by
  decide

/-- Common characters are written in allowed ones, controls by their escapes. -/
theorem all_isAllowed_writtenChar {c : Char} (hc : IsCommon c) :
    (writtenChar c).all isAllowed = true := by
  unfold writtenChar
  split_ifs with _ _ _ _ _ _ _ hcontrol
  · rfl
  · rfl
  · rfl
  · rfl
  · rfl
  · rfl
  · rfl
  · have hhigh := isAllowed_hexDigit (c.toNat / 16) (by omega)
    have hlow := isAllowed_hexDigit (c.toNat % 16) (by omega)
    simp only [List.all_cons, hhigh, hlow]
    rfl
  · have hvisible : (0x20 ≤ c.toNat ∧ c.toNat ≤ 0x7E) ∨ (0xA0 ≤ c.toNat ∧ c.toNat ≤ 0xFFFD) := by
      rcases hc with hc | hc <;> omega
    rcases hvisible with hvisible | hvisible <;> simp [isAllowed, hvisible]

/-- A text of common characters is written in allowed ones, its marks included. -/
theorem all_isAllowed_writtenText {s : String} (hs : IsCommonText s) :
    (writtenText s).all isAllowed = true := by
  have hbody : (s.toList.flatMap writtenChar).all isAllowed = true := by
    rw [List.all_flatMap]
    exact List.all_eq_true.mpr fun c hc => all_isAllowed_writtenChar (hs c hc)
  have hmark : isAllowed '"' = true := by decide
  simp only [writtenText, List.all_cons, List.all_append, hmark, hbody, List.all_nil, Bool.and_self]

/-- The further elements of a list are written in allowed characters, if each of them is. -/
theorem all_isAllowed_writtenMoreItems {items : List Json}
    (h : ∀ item ∈ items, item.written.all isAllowed = true) :
    (Json.writtenMoreItems items).all isAllowed = true := by
  induction items with
  | nil => rfl
  | cons item items ih =>
    obtain ⟨hitem, hitems⟩ := List.forall_mem_cons.mp h
    rw [Json.writtenMoreItems, List.all_cons, List.all_append, hitem, ih hitems]
    rfl

/-- The further members of an object are written in allowed characters, if each value is. -/
theorem all_isAllowed_writtenMoreMembers {members : List (String × Json)}
    (hkeys : ∀ m ∈ members, IsShortKey m.1)
    (h : ∀ m ∈ members, m.2.written.all isAllowed = true) :
    (Json.writtenMoreMembers members).all isAllowed = true := by
  induction members with
  | nil => rfl
  | cons m members ih =>
    obtain ⟨hkey, hkeys⟩ := List.forall_mem_cons.mp hkeys
    obtain ⟨hvalue, hvalues⟩ := List.forall_mem_cons.mp h
    rw [Json.writtenMoreMembers, List.all_cons, List.all_append, List.all_cons, List.all_append,
      all_isAllowed_writtenText hkey.1, hvalue, ih hkeys hvalues]
    rfl

/-- A compact text is in allowed characters, so that the lexer does not refuse it from the start. -/
theorem all_isAllowed_written {v : Json} (h : Flowing v) : v.written.all isAllowed = true := by
  induction h with
  | null => rfl
  | boolean b => cases b <;> rfl
  | text hs => exact all_isAllowed_writtenText hs
  | @list items _ ih =>
    rw [Json.written, List.all_cons]
    cases items with
    | nil => rfl
    | cons item items =>
      obtain ⟨hitem, hitems⟩ := List.forall_mem_cons.mp ih
      rw [Json.writtenItems, List.all_append, hitem, all_isAllowed_writtenMoreItems hitems]
      rfl
  | @object members hkeys _ ih =>
    rw [Json.written, List.all_cons]
    cases members with
    | nil => rfl
    | cons m members =>
      obtain ⟨hkey, hkeys⟩ := List.forall_mem_cons.mp hkeys
      obtain ⟨hvalue, hvalues⟩ := List.forall_mem_cons.mp ih
      rw [Json.writtenMembers, List.all_append, List.all_cons, List.all_append,
        all_isAllowed_writtenText hkey.1, hvalue, all_isAllowed_writtenMoreMembers hkeys hvalues]
      rfl

/-- The tokens of the compact text of an object are those of the object, with the end of the text
behind them. -/
theorem tokens?_written {members : List (String × Json)} (h : Flowing (.object members)) :
    tokens? (Json.written (.object members)) =
      some (flowTokens (.object members) ++ [.streamEnd]) := by
  have hallowed : (Json.written (.object members)).all isAllowed :=
    all_isAllowed_written h
  have hstart : At 0 true [] (Json.written (.object members) ++ [])
      (.start (Json.written (.object members))) := by
    rw [List.append_nil]
    exact ⟨rfl, Nat.le_refl _, rfl, rfl, rfl, by simp [start], rfl, rfl, rfl⟩
  cases h with
  | object hkeys hvalues =>
    have hrun := (hstart.reaches_object hkeys
      fun m hm => tokenizes_of_flowing (hvalues m hm)).run? (Nat.lt_succ_self _)
    obtain ⟨last, more, hlast, hmore, hrun⟩ := hrun
    obtain ⟨fuel, rfl⟩ : ∃ n, more = n + 1 := ⟨more - 1, by omega⟩
    rw [hlast.run?_end] at hrun
    rw [tokens?, if_pos hallowed]
    exact hrun.trans (by simp)

end Texts

end Lexer

end CaseRouting.Yaml
