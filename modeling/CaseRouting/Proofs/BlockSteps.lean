import CaseRouting.Proofs.BlockLexing

/-!
# Words, keys and hyphens in blocks

A word at the end of its line is all of a scalar if the next line starts no further right than the
innermost block. A word with a colon behind it is a key: when the colon is found, the token of keys
and the one that opens the block go in front of the word. A hyphen opens its block at once.
-/

namespace CaseRouting.Yaml

namespace Lexer

section Words

variable {block column : Nat} {blocks : List Nat} {allowed : Bool} {tokens : List Token}
  {rest text word : List Char} {lexer : Lexer}

/-- A word that needs no quotation marks: at least one letter, digit or underscore, and nothing
else. -/
def IsWord (word : List Char) : Prop := word ≠ [] ∧ ∀ c ∈ word, isWordChar c = true

instance (word : List Char) : Decidable (IsWord word) :=
  @instDecidableAnd _ _ _ (List.decidableBAll _ _)

/-- The place of a key that begins here, which is required at the column of the innermost block. -/
def keyHere (lexer : Lexer) : PossibleKey :=
  ⟨lexer.indentation = (lexer.cursor.column : Int), lexer.count, lexer.cursor.index,
    lexer.cursor.line, lexer.cursor.column⟩

/-- Where a key may begin, its place is remembered without a fault. -/
theorem Stands.noteKey? (h : Stands blocks column true tokens rest lexer) :
    lexer.noteKey? = some { lexer with keys := [some lexer.keyHere] } := by
  rw [Lexer.noteKey?, if_pos h.allowed_eq, h.inFlow, h.dropKey?]
  rfl

/-- Inside a block the place of a node is not that of a key that is required, so that it may be
forgotten again. -/
theorem Stands.exists_noteKey? (h : Stands (block :: blocks) column allowed tokens rest lexer)
    (hblock : block < column) :
    ∃ noted, lexer.noteKey? = some noted ∧
      Stands (block :: blocks) column allowed tokens rest noted := by
  cases allowed with
  | false => exact ⟨lexer, if_neg (by simp [h.allowed_eq]), h⟩
  | true =>
    refine ⟨_, h.noteKey?, h.allowed_eq ▸ h.withKey (some lexer.keyHere) (fun key hkey => ?_) _⟩
    cases hkey
    have hleft : lexer.indentation ≠ (lexer.cursor.column : Int) := by
      rw [h.indentation_eq, h.column_eq]
      omega
    exact decide_eq_false hleft

/-- A word is a scalar up to the end of its line, if the next line starts no further right than the
block. -/
theorem Stands.takePlain? (hword : IsWord word) (htext : BeginsLine text)
    (hindent : indent text ≤ block) (hblock : block < column)
    (h : Stands (block :: blocks) column allowed tokens (word ++ '\n' :: text) lexer) :
    ∃ next, lexer.takePlain? = some next ∧
      Stands (block :: blocks) (indent text) true (.scalar .plain word :: tokens)
        (unindented text) next := by
  obtain ⟨noted, hnote, hnoted⟩ := h.exists_noteKey? hblock
  have hfuel : indent text < noted.cursor.bound := by
    have hlength := indent_add_length text
    have hbound := hnoted.bound
    rw [List.length_append, List.length_cons] at hbound
    omega
  have hmargin : (noted.indentation + 1).toNat = block + 1 := by
    rw [hnoted.indentation_eq]
    rfl
  have hends : plainWord? false word.reverse ('\n' :: text) = some word.reverse := by
    rw [plainWord?]
    rfl
  have hmiddle := hnoted.past (show word ++ '\n' :: text = word ++ '\n' :: text from rfl)
  have hline := hmiddle.intoLine
  have hleft : ((noted.cursor.past word ('\n' :: text)).intoLine text).column < block + 1 :=
    Nat.lt_succ_of_le (hline.column_eq ▸ hindent)
  have hscalar : readPlain? false (block + 1) (noted.cursor.bound + 1) [] .none noted.cursor =
      some ⟨word.reverse, true, (noted.cursor.past word ('\n' :: text)).intoLine text⟩ :=
    readPlain?_only hword.1 hword.2 hnoted.rest_eq hends (Gap.read_line rfl htext hfuel)
      (by simp [hleft])
  refine ⟨_, ?_, hline.emit (.scalar .plain word)⟩
  rw [Lexer.takePlain?, hnote]
  simp [hmargin, hnoted.inFlow, hscalar]

/-- A word has been taken where a key may begin, and its place is remembered until a colon comes or
the line ends. -/
structure Keyed (blocks : List Nat) (column : Nat) (tokens : List Token) (word rest : List Char)
    (lexer : Lexer) : Prop where
  stands : Stands blocks (column + word.length) false (.scalar .plain word :: tokens) rest
    { lexer with keys := [none] }
  key : ∃ key, lexer.keys = [some key] ∧ key.tokenNumber = tokens.length ∧ key.column = column ∧
    key.line = lexer.cursor.line ∧ lexer.cursor.index = key.index + octetCount word

/-- A word is a scalar up to a colon with white space behind it, and may be a key. -/
theorem Stands.takePlain?_key (hword : IsWord word) (hrest : atSpace rest = true)
    (h : Stands blocks column true tokens (word ++ ':' :: rest) lexer) :
    ∃ next, lexer.takePlain? = some next ∧ Keyed blocks column tokens word (':' :: rest) next := by
  have hends : plainWord? false word.reverse (':' :: rest) = some word.reverse := by
    rw [plainWord?]
    simp [hrest, isBlank, isBreak]
  have hgap (margin fuel : Nat) :
      Gap.read margin fuel .none (lexer.cursor.past word (':' :: rest)) =
        some (.none, lexer.cursor.past word (':' :: rest)) :=
    Gap.read_spaces margin (c := ':') rfl rfl (Nat.zero_le fuel) [] rfl
  have hscalar (margin : Nat) :
      readPlain? false margin (lexer.cursor.bound + 1) [] .none lexer.cursor =
        some ⟨word.reverse, false, lexer.cursor.past word (':' :: rest)⟩ :=
    readPlain?_only hword.1 hword.2 h.rest_eq hends (hgap _ _) (by simp)
  have hdone := ((h.withKey none (fun _ => by simp) false).past rfl).emit (.scalar .plain word)
  refine ⟨{ lexer with
      cursor := lexer.cursor.past word (':' :: rest)
      keys := [some lexer.keyHere]
      keyAllowed := false }.emit (.scalar .plain word), ?_,
    hdone, lexer.keyHere, rfl, h.count, h.column_eq, rfl, rfl⟩
  rw [Lexer.takePlain?, h.noteKey?]
  simp [Lexer.inFlow, hscalar]

/-- A block is opened regardless of what may be a key, and forgetting the key does not undo it. -/
theorem openBlock_dropped {key? : Option PossibleKey} (hkeys : lexer.keys = [key?])
    (place number : Nat) (token : Token) :
    { lexer.openBlock place number token with keys := [none] } =
      { lexer with keys := [none] }.openBlock place number token := by
  have hflow : lexer.inFlow = { lexer with keys := [none] }.inFlow := by
    rw [Lexer.inFlow, hkeys]
    rfl
  rw [openBlock, openBlock, ← hflow]
  split <;> rfl

/-- The colon behind a word makes it a key, which opens a block where it has to. -/
theorem Keyed.takeValue? {inner : List Nat} {more : List Token}
    (hopens : Opens .blockMappingStart column blocks tokens inner more)
    (h : Keyed blocks column tokens word (':' :: rest) lexer) :
    ∃ next, lexer.takeValue? = some next ∧ Stands inner (column + word.length + 1) false
      (.value :: .scalar .plain word :: .key :: more) rest next := by
  obtain ⟨key, hkeys, hnumber, hplace, -, -⟩ := h.key
  have hscalar : Stands blocks (column + word.length) false ([.scalar .plain word] ++ tokens)
      (':' :: rest) { lexer with keys := [none] } := h.stands
  have hinserted : Stands blocks (column + word.length) false
      ([.scalar .plain word, .key] ++ tokens) (':' :: rest)
      ({ lexer with keys := [none] }.insertAt tokens.length .key) := hscalar.insertAt .key
  have hopened := hinserted.openBlock hopens
  have hone : (lexer.insertAt tokens.length .key).keys = [some key] := hkeys
  have hdropped := openBlock_dropped hone column tokens.length .blockMappingStart
  refine ⟨_, ?_, (hopened.withKey none (fun _ => by simp) false).takeIndicator .value⟩
  rw [Lexer.takeValue?, hkeys]
  simp only [hnumber, hplace]
  exact congrArg (fun opened : Lexer =>
    some ({ opened with keys := [none], keyAllowed := false }.takeIndicator .value)) hdropped

/-- A token that opens a block lies no further left than the one around it. -/
theorem Opens.le {start : Token} {inner : List Nat} {more : List Token}
    (h : Opens start column blocks tokens inner more) : ∀ block ∈ blocks.head?, block ≤ column := by
  cases h with
  | first hblock => exact fun block hmem => Nat.le_of_lt (hblock block hmem)
  | further =>
    intro block hmem
    cases hmem
    exact Nat.le_refl _

/-- The hyphen of an item opens a block where it has to, in front of its own token. -/
theorem Stands.takeBlockEntry? {inner : List Nat} {more : List Token}
    (hopens : Opens .blockSequenceStart column blocks tokens inner more)
    (h : Stands blocks column true tokens ('-' :: rest) lexer) :
    ∃ next, lexer.takeBlockEntry? = some next ∧
      Stands inner (column + 1) true (.blockEntry :: more) rest next := by
  have hnone : Stands blocks column true ([] ++ tokens) ('-' :: rest) lexer := h
  have hopened := hnone.openBlock hopens
  refine ⟨_, ?_, (hopened.withKey none (fun _ => by simp) true).takeIndicator .blockEntry⟩
  rw [Lexer.takeBlockEntry?, if_neg (by simp [h.allowed_eq]), h.column_eq, h.count,
    hopened.dropKey?]
  rfl

end Words

section Steps

variable {block column : Nat} {blocks inner : List Nat} {allowed : Bool}
  {tokens more : List Token} {rest text word : List Char} {lexer : Lexer}

/-- Where the next token is not the last one, the lexer moves by taking it. -/
theorem Ready.reaches {goal : Lexer → Prop} (h : Ready blocks column allowed tokens rest lexer)
    (htake : ∀ settled, Stands blocks column allowed tokens rest settled →
      ∃ next, settled.takeToken? = some next ∧ goal next)
    (hshorter : ∀ next, goal next → next.cursor.rest.length < rest.length)
    (hgoesOn : ∀ next, goal next → next.tokens.head? ≠ some .streamEnd) : Reaches lexer goal := by
  obtain ⟨settled, hstep, hlength, hstands⟩ := h
  obtain ⟨next, htake, hgoal⟩ := htake settled hstands
  refine .of_moves ⟨hstep.trans htake, ?_, hgoesOn next hgoal⟩ hgoal
  exact Nat.lt_of_lt_of_le (hshorter next hgoal) hlength

/-- A word is taken as a plain scalar, since no other token begins with one of its characters. -/
theorem Stands.takeToken?_word (hword : IsWord word)
    (h : Stands blocks column allowed tokens (word ++ rest) lexer) :
    lexer.takeToken? = lexer.takePlain? := by
  obtain ⟨hne, hword⟩ := hword
  obtain ⟨c, word, rfl⟩ := List.exists_cons_of_ne_nil hne
  exact Lexer.takeToken?_word h.rest_eq (hword c List.mem_cons_self)

/-- A word is a scalar up to the end of its line, behind which the lexer comes into the next one. -/
theorem Ready.reaches_word (hword : IsWord word) (htext : BeginsLine text)
    (hindent : indent text ≤ block) (hblock : block < column)
    (h : Ready (block :: blocks) column allowed tokens (word ++ '\n' :: text) lexer) :
    Reaches lexer (Ended (block :: blocks) (.scalar .plain word :: tokens) text) := by
  have hscalar : Reaches lexer (Stands (block :: blocks) (indent text) true
      (.scalar .plain word :: tokens) (unindented text)) := by
    refine h.reaches (fun settled hsettled => ?_) (fun next hnext => ?_) fun next hnext => ?_
    · rw [hsettled.takeToken?_word hword]
      exact hsettled.takePlain? hword htext hindent hblock
    · have hlength := indent_add_length text
      rw [hnext.rest_eq, List.length_append, List.length_cons]
      omega
    · rw [hnext.tokens_eq]
      simp
  exact hscalar.trans fun next hnext =>
    .here ⟨[], _, List.forall_mem_nil _, hnext, rfl⟩

/-- Behind a word that may be a key the lexer moves by taking the colon, if the word is not too
wide. -/
theorem Keyed.reaches (hwidth : octetCount word ≤ 1024) (hrest : atSpace rest = true)
    (hopens : Opens .blockMappingStart column blocks tokens inner more)
    (h : Keyed blocks column tokens word (':' :: rest) lexer) :
    Reaches lexer (Stands inner (column + word.length + 1) false
      (.value :: .scalar .plain word :: .key :: more) rest) := by
  have hcolon : lexer.cursor.rest = ':' :: rest := h.stands.rest_eq
  have hcolumn : lexer.cursor.column = column + word.length := h.stands.column_eq
  obtain ⟨key, hkeys, -, -, hline, hindex⟩ := h.key
  have hfresh := isStale_eq_false hline hindex hwidth
  have hflow : lexer.inFlow = false := by
    rw [inFlow, hkeys]
  have hskip : skipSpace (lexer.cursor.bound + 1) lexer = lexer :=
    skipSpace_eq_self (by rw [hcolon]; rfl) _
  have hkept : { lexer with keys := [some key] } = lexer := by
    rw [← hkeys]
  have hdrop : lexer.dropStaleKeys? = some lexer := by
    simp [dropStaleKeys?, hkeys, hfresh, hkept]
  have hright : ¬ (lexer.cursor.column : Int) < lexer.indentation := by
    have hleft : lexer.indentation < (column : Int) + 1 :=
      h.stands.indentation_lt (by omega) fun block hblock => by
        have hle := hopens.le block hblock
        omega
    rw [hcolumn]
    omega
  have hclose : lexer.closeBlocks lexer.cursor.column = lexer := by
    rw [closeBlocks, hflow]
    exact closeFrom_eq_self hright
  have htake : lexer.takeToken? = lexer.takeValue? := by
    rw [takeToken?, hcolon]
    simp [Cursor.atMarker_eq_false hcolon, hflow, hrest]
  obtain ⟨next, hvalue, hnext⟩ := h.takeValue? hopens
  refine .of_moves ⟨?_, ?_, ?_⟩ hnext
  · rw [step?, hskip, hdrop]
    change (lexer.closeBlocks lexer.cursor.column).takeToken? = some next
    rw [hclose, htake, hvalue]
  · rw [hnext.rest_eq, hcolon]
    exact Nat.lt_succ_self _
  · rw [hnext.tokens_eq]
    simp

/-- A word and a colon are a key, which opens its block where it has to. -/
theorem Ready.reaches_key (hword : IsWord word) (hwidth : octetCount word ≤ 1024)
    (hrest : atSpace rest = true)
    (hopens : Opens .blockMappingStart column blocks tokens inner more)
    (h : Ready blocks column true tokens (word ++ ':' :: rest) lexer) :
    Reaches lexer (Stands inner (column + word.length + 1) false
      (.value :: .scalar .plain word :: .key :: more) rest) := by
  have hkeyed : Reaches lexer (Keyed blocks column tokens word (':' :: rest)) := by
    refine h.reaches (fun settled hsettled => ?_) (fun next hnext => ?_) fun next hnext => ?_
    · rw [hsettled.takeToken?_word hword]
      exact hsettled.takePlain?_key hword hrest
    · have hrest_eq : next.cursor.rest = ':' :: rest := hnext.stands.rest_eq
      rw [hrest_eq, List.length_append]
      exact Nat.lt_add_of_pos_left (List.length_pos_of_ne_nil hword.1)
    · have htokens : next.tokens = .scalar .plain word :: tokens := hnext.stands.tokens_eq
      rw [htokens]
      simp
  exact hkeyed.trans fun next hnext => hnext.reaches hwidth hrest hopens

/-- The hyphen of an item is taken, and opens its block where it has to. -/
theorem Ready.reaches_entry (hrest : atSpace rest = true)
    (hopens : Opens .blockSequenceStart column blocks tokens inner more)
    (h : Ready blocks column true tokens ('-' :: rest) lexer) :
    Reaches lexer (Stands inner (column + 1) true (.blockEntry :: more) rest) := by
  refine h.reaches (fun settled hsettled => ?_) (fun next hnext => ?_) fun next hnext => ?_
  · have htake : settled.takeToken? = settled.takeBlockEntry? := by
      rw [takeToken?, hsettled.rest_eq]
      simp [Cursor.atMarker_hyphen hsettled.rest_eq hrest,
        Cursor.atMarker_eq_false hsettled.rest_eq, hrest]
    exact htake ▸ hsettled.takeBlockEntry? hopens
  · rw [hnext.rest_eq]
    exact Nat.lt_succ_self _
  · rw [hnext.tokens_eq]
    simp

end Steps

end Lexer

end CaseRouting.Yaml
