import CaseRouting.Proofs.QuotedScalars
import CaseRouting.Yaml.Token.Lexer
import Mathlib.Logic.Relation

/-!
# Lexing between brackets

Outside all blocks indentation means nothing, so that the state of the lexer comes down to how many
brackets are open, whether a key may begin, the tokens so far and what is left of the text. Each
bracket, comma and scalar is one step from one such state to another, and a key with its colon is
two. Every node in a list is a possible key until the next comma; such keys grow stale behind long
texts, which is harmless because none of them is required.
-/

namespace CaseRouting.Yaml

open Json (writtenText)

/-- So many spaces, as they stand in front of a line or between words. -/
def spaces (count : Nat) : List Char := List.replicate count ' '

/-- There are as many spaces as were asked for. -/
@[simp] theorem length_spaces (count : Nat) : (spaces count).length = count :=
  List.length_replicate

namespace Lexer

section States

/-- Outside all blocks, between so many brackets and with no key required: whether a key may begin,
the tokens so far, the last one first, and what is left of the text. -/
structure At (level : Nat) (allowed : Bool) (tokens : List Token) (rest : List Char)
    (lexer : Lexer) : Prop where
  rest_eq : lexer.cursor.rest = rest
  bound : rest.length ≤ lexer.cursor.bound
  indentation : lexer.indentation = -1
  outer : lexer.outer = []
  level : lexer.keys.length = level + 1
  optional : ∀ key, some key ∈ lexer.keys → key.required = false
  allowed_eq : lexer.keyAllowed = allowed
  tokens_eq : lexer.tokens = tokens
  count : lexer.count = tokens.length

/-- One token is taken, not the last one, and some of the text with it, so that moving comes to an
end. -/
structure Moves (lexer next : Lexer) : Prop where
  step : lexer.step? = some next
  shorter : next.cursor.rest.length < lexer.cursor.rest.length
  goesOn : next.tokens.head? ≠ some .streamEnd

/-- Tokens are taken until the lexer is in a state as required; there may be none to take. -/
def Reaches (lexer : Lexer) (goal : Lexer → Prop) : Prop :=
  ∃ next, Relation.ReflTransGen Moves lexer next ∧ goal next

namespace Reaches

variable {lexer next : Lexer} {goal later : Lexer → Prop}

/-- The lexer is there already, and no token is taken. -/
theorem here (h : goal lexer) : Reaches lexer goal := ⟨lexer, .refl, h⟩

/-- One token leads there, if it is not the last one. -/
theorem of_moves (hmoves : Moves lexer next) (h : goal next) : Reaches lexer goal :=
  ⟨next, .single hmoves, h⟩

/-- From wherever the goal holds, the lexer goes on, and reaches what is reached from there. -/
theorem trans (h : Reaches lexer goal) (hlater : ∀ next, goal next → Reaches next later) :
    Reaches lexer later := by
  obtain ⟨next, hnext, hgoal⟩ := h
  obtain ⟨last, hlast, hdone⟩ := hlater next hgoal
  exact ⟨last, hnext.trans hlast, hdone⟩

/-- A run goes through what is reached, and there is enough fuel left for the rest of the text. -/
theorem run? (h : Reaches lexer goal) {fuel : Nat} (hfuel : lexer.cursor.rest.length < fuel) :
    ∃ next more, goal next ∧ next.cursor.rest.length < more ∧
      lexer.run? fuel = next.run? more := by
  obtain ⟨last, hlast, hdone⟩ := h
  induction hlast using Relation.ReflTransGen.head_induction_on generalizing fuel with
  | refl => exact ⟨last, fuel, hdone, hfuel, rfl⟩
  | @head lexer next hmoves _ ih =>
    obtain ⟨fuel, rfl⟩ : ∃ n, fuel = n + 1 := ⟨fuel - 1, by omega⟩
    have hshorter := hmoves.shorter
    obtain ⟨last, more, hgoal, hmore, hrun⟩ := ih (show next.cursor.rest.length < fuel by omega)
    refine ⟨last, more, hgoal, hmore, ?_⟩
    rw [Lexer.run?, hmoves.step, ← hrun]
    simp only [Option.bind_eq_bind, Option.bind_some]
    split
    next hend => exact absurd (congrArg List.head? hend) hmoves.goesOn
    next => rfl

end Reaches

end States

section Skipping

/-- A character that the lexer skips in front of a token: white space, the end of a line, a byte
order mark, or what begins a comment. -/
def isFiller (c : Char) : Bool := isBlank c || isBreak c || c = '#' || c = byteOrderMark

/-- A test takes nothing in front of a character that does not satisfy it, nor at the end of a
text. -/
theorem takeWhile_eq_nil {test : Char → Bool} {cs : List Char} (h : cs.head?.any test = false) :
    cs.takeWhile test = [] := by
  cases cs with
  | nil => rfl
  | cons c cs => exact List.takeWhile_cons_of_neg (Bool.not_eq_true _ ▸ h)

/-- Nothing is skipped in front of a character that does not satisfy the test. -/
theorem skipWhile_eq_self {cursor : Cursor} {test : Char → Bool}
    (h : cursor.rest.head?.any test = false) : cursor.skipWhile test = cursor := by
  rw [Cursor.skipWhile, takeWhile_eq_nil h]
  rfl

/-- A test that spaces satisfy takes them, up to what does not satisfy it. -/
theorem skipWhile_spaces {cursor : Cursor} {test : Char → Bool} {count : Nat}
    {behind : List Char} (hcursor : cursor.rest = spaces count ++ behind)
    (hspace : test ' ' = true) (hbehind : behind.head?.any test = false) :
    cursor.skipWhile test = cursor.past (spaces count) behind := by
  have htaken : cursor.rest.takeWhile test = spaces count := by
    rw [hcursor, List.takeWhile_append_of_pos, takeWhile_eq_nil hbehind, List.append_nil]
    intro c hc
    rw [List.eq_of_mem_replicate hc, hspace]
  rw [Cursor.skipWhile, htaken, Cursor.advance_length hcursor]

/-- Spaces are skipped up to where a token begins, and the cursor is all that changes. -/
theorem skipSpace_spaces {lexer : Lexer} {count : Nat} {behind : List Char}
    (hrest : lexer.cursor.rest = spaces count ++ behind)
    (hbehind : behind.head?.any isFiller = false) (fuel : Nat) :
    skipSpace (fuel + 1) lexer =
      { lexer with cursor := lexer.cursor.past (spaces count) behind } := by
  have hskip : lexer.cursor.skipWhile (fun c =>
      c = ' ' || (c = '\t' && (lexer.inFlow || !lexer.keyAllowed))) =
        lexer.cursor.past (spaces count) behind := by
    refine skipWhile_spaces hrest rfl ?_
    cases behind with
    | nil => rfl
    | cons c cs =>
      have hfiller : isFiller c = false := hbehind
      simp only [isFiller, isBlank, Bool.or_eq_false_iff, decide_eq_false_iff_not] at hfiller
      simp [hfiller.1.1.1]
  have hmark : lexer.cursor.rest.head? ≠ some byteOrderMark := by
    rw [hrest]
    cases count with
    | zero =>
      intro hmark
      have hhead : behind.head? = some byteOrderMark := hmark
      rw [hhead] at hbehind
      exact absurd hbehind (by decide)
    | succ count => exact fun hmark => absurd (Option.some.inj hmark) (by decide)
  rw [skipSpace]
  simp only [hmark, decide_false, Bool.and_false, Bool.false_eq_true, if_false, hskip]
  cases behind with
  | nil => rfl
  | cons c cs =>
    have hfiller : isFiller c = false := hbehind
    simp only [isFiller, Bool.or_eq_false_iff, decide_eq_false_iff_not] at hfiller
    obtain ⟨⟨⟨-, hbreak⟩, hcomment⟩, -⟩ := hfiller
    simp [Cursor.past, hbreak, hcomment]

/-- Nothing is skipped where a token begins. -/
theorem skipSpace_eq_self {lexer : Lexer} (h : lexer.cursor.rest.head?.any isFiller = false)
    (fuel : Nat) : skipSpace fuel lexer = lexer := by
  cases fuel with
  | zero => rfl
  | succ fuel =>
    have hnone : lexer.cursor.rest = spaces 0 ++ lexer.cursor.rest := rfl
    exact skipSpace_spaces hnone h fuel

/-- The state with those possible keys that still can be one; the others have grown stale. -/
def refreshed (lexer : Lexer) : Lexer :=
  { lexer with keys := lexer.keys.map fun key =>
      if key.any fun k => PossibleKey.isStale k lexer.cursor then none else key }

variable {level : Nat} {allowed : Bool} {tokens : List Token} {rest : List Char} {lexer : Lexer}

/-- Forgetting stale keys changes nothing else, since none of them is required here. -/
theorem At.refreshed (h : At level allowed tokens rest lexer) :
    At level allowed tokens rest lexer.refreshed where
  rest_eq := h.rest_eq
  bound := h.bound
  indentation := h.indentation
  outer := h.outer
  level := by rw [Lexer.refreshed, List.length_map, h.level]
  optional key hkey := by
    obtain ⟨before, hbefore, hsame⟩ := List.mem_map.mp hkey
    split at hsame
    · cases hsame
    · exact h.optional key (hsame ▸ hbefore)
  allowed_eq := h.allowed_eq
  tokens_eq := h.tokens_eq
  count := h.count

/-- Outside all blocks there is none to close, in whatever column a token begins. -/
theorem At.closeBlocks_eq (h : At level allowed tokens rest lexer) (column : Int) :
    lexer.closeBlocks column = lexer := by
  rw [closeBlocks, h.outer]
  split <;> rfl

/-- Where a token begins, a step takes it, behind nothing but the stale keys. -/
theorem At.step?_eq (h : At level allowed tokens rest lexer)
    (hrest : rest.head?.any isFiller = false) :
    lexer.step? = lexer.refreshed.takeToken? := by
  have hskip := skipSpace_eq_self (h.rest_eq ▸ hrest) (lexer.cursor.bound + 1)
  have hdrop : lexer.dropStaleKeys? = some lexer.refreshed := by
    refine if_neg fun hany => ?_
    obtain ⟨_ | key, hkey, hrequired⟩ := List.any_eq_true.mp hany
    · cases hrequired
    · simp [h.optional key hkey] at hrequired
  rw [step?, hskip, hdrop]
  simp [h.refreshed.closeBlocks_eq]

end Skipping

section Taking

variable {level : Nat} {allowed : Bool} {tokens : List Token} {rest : List Char} {lexer : Lexer}

/-- The same state with other keys in other brackets, as long as none of them is required. -/
theorem At.withKeys (h : At level allowed tokens rest lexer) {inner : Nat} (begins : Bool)
    {keys : List (Option PossibleKey)} (hlevel : keys.length = inner + 1)
    (hoptional : ∀ key, some key ∈ keys → key.required = false) :
    At inner begins tokens rest { lexer with keys := keys, keyAllowed := begins } where
  rest_eq := h.rest_eq
  bound := h.bound
  indentation := h.indentation
  outer := h.outer
  level := hlevel
  optional := hoptional
  allowed_eq := rfl
  tokens_eq := h.tokens_eq
  count := h.count

/-- A token is appended, behind characters of the text that do not end the line. -/
theorem At.emit (h : At level allowed tokens rest lexer) {taken behind : List Char}
    (hrest : rest = taken ++ behind) (token : Token) :
    At level allowed (token :: tokens) behind
      ({ lexer with cursor := lexer.cursor.past taken behind }.emit token) where
  rest_eq := rfl
  bound := by
    have hbound := h.bound
    rw [hrest, List.length_append] at hbound
    exact Nat.le_trans (Nat.le_add_left _ _) hbound
  indentation := h.indentation
  outer := h.outer
  level := h.level
  optional := h.optional
  allowed_eq := h.allowed_eq
  tokens_eq := congrArg (token :: ·) h.tokens_eq
  count := congrArg (· + 1) h.count

/-- The token of a single character is appended, and the character is passed. -/
theorem At.takeIndicator {c : Char} (h : At level allowed tokens (c :: rest) lexer)
    (token : Token) :
    At level allowed (token :: tokens) rest (lexer.takeIndicator token) := by
  have hemit := h.emit (show c :: rest = [c] ++ rest from rfl) token
  rwa [← Cursor.advance_one h.rest_eq] at hemit

/-- Between brackets the lexer knows that it is there. -/
theorem At.inFlow (h : At (level + 1) allowed tokens rest lexer) : lexer.inFlow = true := by
  have hlevel := h.level
  revert hlevel
  rw [Lexer.inFlow]
  rcases lexer.keys with _ | ⟨key, _ | ⟨other, keys⟩⟩ <;> intro hlevel
  · cases hlevel
  · cases hlevel
  · rfl

/-- The state with its place remembered as that of a possible key, if a key may begin here. -/
def noted (lexer : Lexer) : Lexer :=
  if lexer.keyAllowed then
    { lexer with keys := some ⟨false, lexer.count, lexer.cursor.index, lexer.cursor.line,
        lexer.cursor.column⟩ :: lexer.keys.tail }
  else lexer

/-- The innermost possible key is forgotten without a fault, since it is not required. -/
theorem At.dropKey? (h : At level allowed tokens rest lexer) :
    lexer.dropKey? = some { lexer with keys := none :: lexer.keys.tail } := by
  have hlevel := h.level
  have hoptional := h.optional
  rw [Lexer.dropKey?]
  rcases hkeys : lexer.keys with _ | ⟨_ | key, keys⟩
  · rw [hkeys] at hlevel
    cases hlevel
  · change some lexer = some { lexer with keys := none :: keys }
    rw [← hkeys]
  · have hkey := hoptional key (hkeys ▸ List.mem_cons_self)
    simp [hkey]

/-- Without the innermost possible key the state is the same otherwise. -/
theorem At.dropped (h : At level allowed tokens rest lexer) :
    At level allowed tokens rest { lexer with keys := none :: lexer.keys.tail } := by
  refine h.allowed_eq ▸ h.withKeys lexer.keyAllowed ?_ fun key hkey => h.optional key ?_
  · simp [h.level]
  · exact List.mem_of_mem_tail (by simpa using hkey)

/-- The place is remembered where a key may begin. A key is required only at the column of its
block, and without a block that is less than zero. -/
theorem At.noteKey? (h : At level allowed tokens rest lexer) :
    lexer.noteKey? = some lexer.noted := by
  have houtside : (!lexer.inFlow && decide (lexer.indentation = (lexer.cursor.column : Int))) =
      false := by
    rw [h.indentation, decide_eq_false (by omega), Bool.and_false]
  rw [Lexer.noteKey?, Lexer.noted]
  split
  · rw [houtside, h.dropKey?]
    rfl
  · rfl

/-- A remembered place changes nothing else. -/
theorem At.noted (h : At level allowed tokens rest lexer) :
    At level allowed tokens rest lexer.noted := by
  rw [Lexer.noted]
  split
  · refine h.allowed_eq ▸ h.withKeys lexer.keyAllowed ?_ ?_
    · simp [h.level]
    · intro key hkey
      obtain hnew | hold := List.mem_cons.mp hkey
      · cases hnew
        rfl
      · exact h.optional key (List.mem_of_mem_tail hold)
  · exact h

/-- An opening bracket is taken, and within it a key may begin. -/
theorem At.takeOpening? {c : Char} (h : At level allowed tokens (c :: rest) lexer)
    (token : Token) :
    ∃ next, lexer.takeOpening? token = some next ∧
      At (level + 1) true (token :: tokens) rest next := by
  have hkeys := h.noted.withKeys true (show (none :: lexer.noted.keys).length = level + 1 + 1 by
    simp [h.noted.level]) fun key hkey => h.noted.optional key (by simpa using hkey)
  refine ⟨_, ?_, hkeys.takeIndicator token⟩
  rw [Lexer.takeOpening?, h.noteKey?]
  rfl

/-- A closing bracket is taken, and behind it no key may begin. -/
theorem At.takeClosing? {c : Char} (h : At (level + 1) allowed tokens (c :: rest) lexer)
    (token : Token) :
    ∃ next, lexer.takeClosing? token = some next ∧ At level false (token :: tokens) rest next := by
  have hkeys := h.withKeys false (show lexer.keys.tail.length = level + 1 by simp [h.level])
    fun key hkey => h.optional key (List.mem_of_mem_tail hkey)
  refine ⟨_, ?_, hkeys.takeIndicator token⟩
  rw [Lexer.takeClosing?, h.dropKey?]
  simp [h.dropped.inFlow]

/-- A comma is taken, and behind it a key may begin. -/
theorem At.takeFlowEntry? {c : Char} (h : At level allowed tokens (c :: rest) lexer) :
    ∃ next, lexer.takeFlowEntry? = some next ∧
      At level true (.flowEntry :: tokens) rest next := by
  have hkeys := h.dropped.withKeys true h.dropped.level h.dropped.optional
  refine ⟨_, ?_, hkeys.takeIndicator .flowEntry⟩
  rw [Lexer.takeFlowEntry?, h.dropKey?]
  rfl

/-- Remembering the place does not move the cursor on. -/
theorem noted_cursor (lexer : Lexer) : lexer.noted.cursor = lexer.cursor := by
  rw [noted]
  split <;> rfl

/-- Where a key may begin, its place is remembered as the innermost one. -/
theorem noted_keys {lexer : Lexer} (h : lexer.keyAllowed = true) :
    lexer.noted.keys = some ⟨false, lexer.count, lexer.cursor.index, lexer.cursor.line,
      lexer.cursor.column⟩ :: lexer.keys.tail := by
  rw [noted, if_pos h]

/-- A written text is taken as one scalar, and its place is remembered where a key may begin. -/
theorem At.takeQuoted? {s : String} (hs : IsCommonText s)
    (h : At level allowed tokens (writtenText s ++ rest) lexer) :
    lexer.takeQuoted? true = some ({ lexer.noted with
      cursor := lexer.noted.cursor.past (writtenText s) rest
      keyAllowed := false }.emit (.scalar .quoted s.toList)) := by
  have hfuel : (writtenText s).length ≤ lexer.noted.cursor.bound + 1 := by
    have hbound := h.noted.bound
    rw [List.length_append] at hbound
    omega
  have hquoted := readQuoted?_writtenText hs h.noted.rest_eq hfuel
  rw [Lexer.takeQuoted?, h.noteKey?]
  simp [hquoted]

end Taking

section Words

/-- A character of a word that needs no quotation marks: a letter or digit, or an underscore. -/
def isWordChar (c : Char) : Bool := c.isAlphanum || c = '_'

/-- No character that cannot stand in a word is one of these, so that marks are told from words. -/
theorem ne_of_isWordChar {c d : Char} (hc : isWordChar c = true) (hd : isWordChar d = false) :
    c ≠ d :=
  fun h => Bool.false_ne_true (hd.symm.trans (h ▸ hc))

/-- White space does not stand in a word. -/
theorem isBlank_of_isWordChar {c : Char} (hc : isWordChar c = true) : isBlank c = false := by
  simp (disch := decide) [isBlank, ne_of_isWordChar hc]

/-- No line ends in a word. -/
theorem isBreak_of_isWordChar {c : Char} (hc : isWordChar c = true) : isBreak c = false := by
  simp (disch := decide) [isBreak, ne_of_isWordChar hc]

/-- Neither commas nor brackets stand in a word. -/
theorem isFlowIndicator_of_isWordChar {c : Char} (hc : isWordChar c = true) :
    isFlowIndicator c = false := by
  simp (disch := decide) [isFlowIndicator, ne_of_isWordChar hc]

/-- A word is not skipped in front of a token, for it begins one. -/
theorem isFiller_of_isWordChar {c : Char} (hc : isWordChar c = true) : isFiller c = false := by
  simp (disch := decide) [isFiller, isBlank_of_isWordChar hc, isBreak_of_isWordChar hc,
    ne_of_isWordChar hc]

/-- What is read of a word goes in front of what is read of the text behind it. -/
theorem plainWord?_append {inFlow : Bool} {word : List Char}
    (hword : ∀ c ∈ word, isWordChar c = true) (before rest : List Char) :
    plainWord? inFlow before (word ++ rest) = plainWord? inFlow (word.reverse ++ before) rest := by
  induction word generalizing before with
  | nil => rfl
  | cons c word ih =>
    obtain ⟨hc, hword⟩ := List.forall_mem_cons.mp hword
    have hcolon : c ≠ ':' := ne_of_isWordChar hc (by decide)
    rw [List.cons_append, plainWord?]
    simp [isBlank_of_isWordChar hc, isBreak_of_isWordChar hc, isFlowIndicator_of_isWordChar hc,
      hcolon, ih hword]

/-- Commas and brackets end a word between brackets; they are neither white space nor the colon of a
key. -/
theorem isFlowIndicator_cases {d : Char} (hd : isFlowIndicator d = true) :
    isBlank d = false ∧ isBreak d = false ∧ d ≠ ':' := by
  simp only [isFlowIndicator, Bool.or_eq_true, decide_eq_true_eq] at hd
  rcases hd with (((rfl | rfl) | rfl) | rfl) | rfl <;> decide

/-- A word is all of a plain scalar if it ends in front of what stands behind it and no further line
belongs to it. -/
theorem readPlain?_only {inFlow : Bool} {margin fuel : Nat} {word rest : List Char} {gap : Gap}
    {cursor behind : Cursor} (hne : word ≠ []) (hword : ∀ c ∈ word, isWordChar c = true)
    (hcursor : cursor.rest = word ++ rest) (hends : plainWord? inFlow word.reverse rest =
      some word.reverse)
    (hgap : Gap.read margin fuel .none (cursor.past word rest) = some (gap, behind))
    (hlast : (behind.index = (cursor.past word rest).index ||
      (!inFlow && behind.column < margin)) = true) :
    readPlain? inFlow margin (fuel + 1) [] .none cursor =
      some ⟨word.reverse, gap.hasBreaks, behind⟩ := by
  have hread : plainWord? inFlow [] cursor.rest = some word.reverse := by
    rw [hcursor, plainWord?_append hword, List.append_nil, hends]
  obtain ⟨c, word, rfl⟩ := List.exists_cons_of_ne_nil hne
  have hc := hword c List.mem_cons_self
  have hmarker : cursor.atDocumentMarker = false := by
    rw [Cursor.atDocumentMarker,
      Cursor.atMarker_eq_false hcursor (ne_of_isWordChar hc (by decide)),
      Cursor.atMarker_eq_false hcursor (ne_of_isWordChar hc (by decide))]
    rfl
  have hcomment : cursor.rest.head? ≠ some '#' := by
    rw [hcursor]
    exact fun h => ne_of_isWordChar hc (by decide) (Option.some.inj h)
  rw [readPlain?, hread]
  simp only [hmarker, hcomment, Option.bind_eq_bind, Option.bind_some, List.length_reverse,
    Cursor.advance_length hcursor, hgap, hlast]
  simp [Gap.none, Gap.reversed]

/-- A word between brackets is read up to the comma or bracket behind it, and is all of the
scalar. -/
theorem readPlain?_word {word rest : List Char} {d : Char} (hne : word ≠ [])
    (hword : ∀ c ∈ word, isWordChar c = true) (hd : isFlowIndicator d = true) (fuel : Nat)
    {cursor : Cursor} (hcursor : cursor.rest = word ++ d :: rest) :
    readPlain? true 0 (fuel + 1) [] .none cursor =
      some ⟨word.reverse, false, cursor.past word (d :: rest)⟩ := by
  obtain ⟨hblank, hbreak, hcolon⟩ := isFlowIndicator_cases hd
  have hends : plainWord? true word.reverse (d :: rest) = some word.reverse := by
    rw [plainWord?]
    simp [hblank, hbreak, hcolon, hd]
  have hgap : Gap.read 0 fuel .none (cursor.past word (d :: rest)) =
      some (.none, cursor.past word (d :: rest)) :=
    Gap.read_spaces 0 hblank hbreak (Nat.zero_le fuel) [] rfl
  exact readPlain?_only hne hword hcursor hends hgap (by simp)

/-- A word begins a plain scalar, since no other token begins with one of its characters. -/
theorem takeToken?_word {lexer : Lexer} {c : Char} {rest : List Char}
    (hrest : lexer.cursor.rest = c :: rest) (hc : isWordChar c = true) :
    lexer.takeToken? = lexer.takePlain? := by
  have hmarker (mark : Char) (hmark : isWordChar mark = false) :
      lexer.cursor.atMarker mark = false :=
    Cursor.atMarker_eq_false hrest (ne_of_isWordChar hc hmark)
  rw [takeToken?, hrest]
  simp (disch := decide) [ne_of_isWordChar hc, hmarker, beginsPlain, isIndicator,
    isBlank_of_isWordChar hc, isBreak_of_isWordChar hc, isFlowIndicator_of_isWordChar hc]

end Words

section Moves

variable {level : Nat} {allowed : Bool} {tokens : List Token} {rest : List Char} {lexer : Lexer}

/-- A word between brackets is taken as one scalar. -/
theorem At.takePlain? {word : List Char} {d : Char} (hne : word ≠ [])
    (hword : ∀ c ∈ word, isWordChar c = true) (hd : isFlowIndicator d = true)
    (h : At (level + 1) allowed tokens (word ++ d :: rest) lexer) :
    ∃ next, lexer.takePlain? = some next ∧
      At (level + 1) false (.scalar .plain word :: tokens) (d :: rest) next := by
  have hmargin : (lexer.noted.indentation + 1).toNat = 0 := by
    rw [h.noted.indentation]
    rfl
  have hscalar := readPlain?_word hne hword hd lexer.noted.cursor.bound h.noted.rest_eq
  have hkeys := h.noted.withKeys false h.noted.level h.noted.optional
  refine ⟨_, ?_, hkeys.emit rfl (.scalar .plain word)⟩
  rw [Lexer.takePlain?, h.noteKey?]
  simp [hmargin, h.noted.inFlow, hscalar]

/-- The node of the last token begins where a possible key does, so wide, behind so many tokens. -/
def Pending (number width : Nat) (lexer : Lexer) : Prop :=
  ∃ key keys, lexer.keys = some key :: keys ∧ key.tokenNumber = number ∧
    key.line = lexer.cursor.line ∧ lexer.cursor.index = key.index + width

/-- A node that is not too wide is a possible key as long as its line goes on. -/
theorem isStale_eq_false {key : PossibleKey} {cursor : Cursor} {width : Nat}
    (hline : key.line = cursor.line) (hindex : cursor.index = key.index + width)
    (hwidth : width ≤ 1024) : PossibleKey.isStale key cursor = false := by
  simp [PossibleKey.isStale, hline, hindex, hwidth]

/-- A node that is not too wide stays a possible key when stale keys are forgotten. -/
theorem Pending.refreshed {number width : Nat} (h : Pending number width lexer)
    (hwidth : width ≤ 1024) : Pending number width lexer.refreshed := by
  obtain ⟨key, keys, hkeys, hnumber, hline, hindex⟩ := h
  have hfresh := isStale_eq_false hline hindex hwidth
  refine ⟨key, lexer.refreshed.keys.tail, ?_, hnumber, hline, hindex⟩
  simp [Lexer.refreshed, hkeys, hfresh]

/-- The colon behind a possible key is taken, and the token of keys goes in front of the node, which
is the only token behind the place remembered for it. -/
theorem At.takeValue? {c : Char} {node : Token} {width : Nat}
    (h : At (level + 1) allowed (node :: tokens) (c :: rest) lexer)
    (hpending : Pending tokens.length width lexer) :
    ∃ next, lexer.takeValue? = some next ∧
      At (level + 1) false (.value :: node :: .key :: tokens) rest next := by
  obtain ⟨key, keys, hkeys, hnumber, -, -⟩ := hpending
  have hinserted : At (level + 1) allowed (node :: .key :: tokens) (c :: rest)
      (lexer.insertAt key.tokenNumber .key) := by
    refine { h with tokens_eq := ?_, count := ?_ }
    · simp [insertAt, h.count, hnumber, h.tokens_eq]
    · simp [insertAt, h.count]
  have hopen : (lexer.insertAt key.tokenNumber .key).openBlock key.column key.tokenNumber
      .blockMappingStart = lexer.insertAt key.tokenNumber .key := by
    simp [openBlock, hinserted.inFlow]
  have hlevel : (none :: keys).length = level + 1 + 1 := by simpa [hkeys] using h.level
  have hdone := hinserted.withKeys false hlevel
    fun key hkey => h.optional key (by simpa [hkeys] using .inr (by simpa using hkey))
  refine ⟨_, ?_, hdone.takeIndicator .value⟩
  rw [Lexer.takeValue?, hkeys]
  simp [hopen]

section Steps

variable {c : Char} {inner : Nat} {begins : Bool} {token : Token} {more : List Token}
  {behind : List Char}

/-- Where a token begins that is not the last one, the lexer moves by taking it. -/
theorem At.moves (h : At level allowed tokens (c :: rest) lexer) (hc : isFiller c = false)
    {next : Lexer} (htake : lexer.refreshed.takeToken? = some next)
    (hnext : At inner begins (token :: more) behind next) (htoken : token ≠ .streamEnd)
    (hshorter : behind.length < (c :: rest).length) : Moves lexer next where
  step := by rw [h.step?_eq (by simpa using hc), htake]
  shorter := by rwa [hnext.rest_eq, h.rest_eq]
  goesOn := by
    rw [hnext.tokens_eq]
    exact fun hsame => htoken (Option.some.inj hsame)

/-- The lexer reaches what taking a token leads to, in a single move. -/
theorem At.reaches (h : At level allowed tokens (c :: rest) lexer) (hc : isFiller c = false)
    (htake : ∃ next, lexer.refreshed.takeToken? = some next ∧
      At inner begins (token :: more) behind next)
    (htoken : token ≠ .streamEnd) (hshorter : behind.length < (c :: rest).length) :
    Reaches lexer (At inner begins (token :: more) behind) := by
  obtain ⟨next, htake, hnext⟩ := htake
  exact .of_moves (h.moves hc htake hnext htoken hshorter) hnext

end Steps

/-- The brackets that open a list or an object, and their tokens. -/
inductive OpeningBracket : Char → Token → Prop
  | list : OpeningBracket '[' .flowSequenceStart
  | object : OpeningBracket '\x7b' .flowMappingStart

/-- The brackets that close a list or an object, and their tokens. -/
inductive ClosingBracket : Char → Token → Prop
  | list : ClosingBracket ']' .flowSequenceEnd
  | object : ClosingBracket '\x7d' .flowMappingEnd

/-- A list or an object opens, and the lexer is one bracket further in. -/
theorem At.reaches_opening {c : Char} {token : Token} (hc : OpeningBracket c token)
    (h : At level allowed tokens (c :: rest) lexer) :
    Reaches lexer (At (level + 1) true (token :: tokens) rest) := by
  have htake : lexer.refreshed.takeToken? = lexer.refreshed.takeOpening? token := by
    rw [takeToken?, h.refreshed.rest_eq]
    cases hc <;> simp [Cursor.atMarker_eq_false h.refreshed.rest_eq]
  have hnext := htake ▸ h.refreshed.takeOpening? token
  cases hc <;> exact h.reaches (by decide) hnext (by decide) (Nat.lt_succ_self _)

/-- A list or an object closes, and the lexer is one bracket further out. -/
theorem At.reaches_closing {c : Char} {token : Token} (hc : ClosingBracket c token)
    (h : At (level + 1) allowed tokens (c :: rest) lexer) :
    Reaches lexer (At level false (token :: tokens) rest) := by
  have htake : lexer.refreshed.takeToken? = lexer.refreshed.takeClosing? token := by
    rw [takeToken?, h.refreshed.rest_eq]
    cases hc <;> simp [Cursor.atMarker_eq_false h.refreshed.rest_eq]
  have hnext := htake ▸ h.refreshed.takeClosing? token
  cases hc <;> exact h.reaches (by decide) hnext (by decide) (Nat.lt_succ_self _)

/-- A comma stands between two elements or members, and a key may begin behind it. -/
theorem At.reaches_comma (h : At level allowed tokens (',' :: rest) lexer) :
    Reaches lexer (At level true (.flowEntry :: tokens) rest) := by
  have htake : lexer.refreshed.takeToken? = lexer.refreshed.takeFlowEntry? := by
    rw [takeToken?, h.refreshed.rest_eq]
    simp [Cursor.atMarker_eq_false h.refreshed.rest_eq]
  exact h.reaches (by decide) (htake ▸ h.refreshed.takeFlowEntry?) (by decide)
    (Nat.lt_succ_self _)

/-- A word for null or a boolean is one token, up to the comma or bracket behind it. -/
theorem At.reaches_word {word : List Char} {d : Char} (hne : word ≠ [])
    (hword : ∀ c ∈ word, isWordChar c = true) (hd : isFlowIndicator d = true)
    (h : At (level + 1) allowed tokens (word ++ d :: rest) lexer) :
    Reaches lexer (At (level + 1) false (.scalar .plain word :: tokens) (d :: rest)) := by
  obtain ⟨c, word, rfl⟩ := List.exists_cons_of_ne_nil hne
  have hc := hword c List.mem_cons_self
  have htake := takeToken?_word h.refreshed.rest_eq hc
  have hshorter : (d :: rest).length < (c :: (word ++ d :: rest)).length := by
    simp only [List.length_cons, List.length_append]
    omega
  exact h.reaches (isFiller_of_isWordChar hc) (htake ▸ h.refreshed.takePlain? hne hword hd)
    (by simp) hshorter

/-- A written text is one token, and may be a key where one may begin. -/
theorem At.reaches_text {s : String} (hs : IsCommonText s)
    (h : At level allowed tokens (writtenText s ++ rest) lexer) :
    Reaches lexer fun next => At level false (.scalar .quoted s.toList :: tokens) rest next ∧
      (allowed = true → Pending tokens.length (octetCount (writtenText s)) next) := by
  have hquoted := h.refreshed.takeQuoted? hs
  have hdone := (h.refreshed.noted.withKeys false h.refreshed.noted.level
    h.refreshed.noted.optional).emit rfl (.scalar .quoted s.toList)
  have htake : lexer.refreshed.takeToken? = lexer.refreshed.takeQuoted? true := by
    have hrest : lexer.refreshed.cursor.rest = '"' :: _ := h.refreshed.rest_eq
    rw [takeToken?, hrest]
    simp [Cursor.atMarker_eq_false hrest]
  have hshorter : rest.length < (writtenText s ++ rest).length := by
    rw [List.length_append, writtenText, List.length_cons]
    omega
  refine .of_moves (h.moves rfl (htake.trans hquoted) hdone (by simp) hshorter)
    ⟨hdone, fun hallowed => ?_⟩
  refine ⟨_, _, noted_keys (h.refreshed.allowed_eq.trans hallowed), h.refreshed.count, ?_, ?_⟩
  · change _ = lexer.refreshed.noted.cursor.line
    rw [noted_cursor]
  · change lexer.refreshed.noted.cursor.index + octetCount (writtenText s) = _
    rw [noted_cursor]

/-- A written text and a colon are a key where one may begin, if the text is not too wide. -/
theorem At.reaches_key {key : String} (hkey : IsCommonText key)
    (hwidth : octetCount (writtenText key) ≤ 1024)
    (h : At (level + 1) true tokens (writtenText key ++ ':' :: rest) lexer) :
    Reaches lexer
      (At (level + 1) false (.value :: .scalar .quoted key.toList :: .key :: tokens) rest) := by
  refine (h.reaches_text hkey).trans fun next hnext => ?_
  obtain ⟨hat, hpending⟩ := hnext
  have htake : next.refreshed.takeToken? = next.refreshed.takeValue? := by
    rw [takeToken?, hat.refreshed.rest_eq]
    simp [Cursor.atMarker_eq_false hat.refreshed.rest_eq, hat.refreshed.inFlow]
  exact hat.reaches (by decide)
    (htake ▸ hat.refreshed.takeValue? ((hpending rfl).refreshed hwidth)) (by decide)
    (Nat.lt_succ_self _)

end Moves

end Lexer

end CaseRouting.Yaml
