import CaseRouting.Proofs.FlowLexing

/-!
# Lexing in blocks

Outside brackets the state of the lexer is the columns of the blocks that are open. A line that
starts further left than some of them ends these, and the tokens that say so come with the first
token of the line. A hyphen or a key opens a block at its column, unless the innermost block lies
there already.
-/

namespace CaseRouting.Yaml

section Indentation

/-- The number of spaces at the beginning of a line, which is its column. -/
def indent (text : List Char) : Nat := (text.takeWhile (· = ' ')).length

/-- What stands behind the spaces at the beginning of a line, and in all the lines that follow. -/
def unindented (text : List Char) : List Char := text.dropWhile (· = ' ')

/-- A line is its indentation and what stands behind, put together again. -/
theorem spaces_append_unindented (text : List Char) :
    spaces (indent text) ++ unindented text = text := by
  have hspaces : spaces (indent text) = text.takeWhile (· = ' ') := by
    refine (List.eq_replicate_iff.mpr ⟨rfl, fun c hc => ?_⟩).symm
    exact of_decide_eq_true (List.all_eq_true.mp List.all_takeWhile c hc)
  rw [hspaces]
  exact List.takeWhile_append_dropWhile

/-- The indentation and what stands behind are together as long as the line. -/
theorem indent_add_length (text : List Char) :
    indent text + (unindented text).length = text.length := by
  have hlength := congrArg List.length (spaces_append_unindented text)
  rwa [List.length_append, length_spaces] at hlength

/-- Behind spaces another character begins the line, in the column that the spaces lead to. -/
theorem indent_spaces_append (count : Nat) {c : Char} (hc : c ≠ ' ') (cs : List Char) :
    indent (spaces count ++ c :: cs) = count ∧ unindented (spaces count ++ c :: cs) = c :: cs := by
  have hspace : ∀ d ∈ spaces count, decide (d = ' ') = true :=
    fun d hd => decide_eq_true (List.eq_of_mem_replicate hd)
  constructor
  · rw [indent, List.takeWhile_append_of_pos hspace, List.takeWhile_cons_of_neg (by simpa using hc),
      List.append_nil, length_spaces]
  · rw [unindented, List.dropWhile_append_of_pos hspace,
      List.dropWhile_cons_of_neg (by simpa using hc)]

/-- The cursor in front of a line break, brought into the next line behind its indentation. -/
def Cursor.intoLine (cursor : Cursor) (text : List Char) : Cursor :=
  (cursor.behindBreak 1).past (spaces (indent text)) (unindented text)

/-- A line feed is a line break of one character, whatever stands behind it. -/
theorem Cursor.nextLine_eq {cursor : Cursor} {text : List Char} (h : cursor.rest = '\n' :: text) :
    cursor.nextLine = cursor.behindBreak 1 := by
  rw [Cursor.nextLine, h]
  rfl

/-- Behind a line feed stands the indentation of the next line. -/
theorem Cursor.rest_behindBreak {cursor : Cursor} {text : List Char}
    (h : cursor.rest = '\n' :: text) :
    (cursor.behindBreak 1).rest = spaces (indent text) ++ unindented text := by
  rw [spaces_append_unindented]
  exact congrArg (List.drop 1) h

/-- A hyphen with white space behind it marks no document, for which three of them are needed. -/
theorem Cursor.atMarker_hyphen {cursor : Cursor} {rest : List Char}
    (hcursor : cursor.rest = '-' :: rest) (hrest : atSpace rest = true) :
    cursor.atMarker '-' = false := by
  rw [atMarker, hcursor]
  cases rest with
  | nil => exact Bool.and_false _
  | cons c cs =>
    have hne : c ≠ '-' := by
      rintro rfl
      exact Bool.false_ne_true hrest
    cases cs with
    | nil => exact Bool.and_false _
    | cons d cs => simp [hne]

end Indentation

namespace Lexer

section States

/-- Outside brackets, in blocks at these columns, the innermost one first, with no key required: the
column, whether a key may begin, the tokens so far, the last one first, and what is left of the
text. -/
structure Stands (blocks : List Nat) (column : Nat) (allowed : Bool) (tokens : List Token)
    (rest : List Char) (lexer : Lexer) : Prop where
  rest_eq : lexer.cursor.rest = rest
  bound : rest.length ≤ lexer.cursor.bound
  column_eq : lexer.cursor.column = column
  blocks_eq : lexer.indentation :: lexer.outer = blocks.map (fun block => (block : Int)) ++ [-1]
  keys : ∃ key?, lexer.keys = [key?] ∧ ∀ key ∈ key?, key.required = false
  allowed_eq : lexer.keyAllowed = allowed
  tokens_eq : lexer.tokens = tokens
  count : lexer.count = tokens.length

/-- The next token begins here, behind what is skipped and with the blocks closed that end. -/
def Ready (blocks : List Nat) (column : Nat) (allowed : Bool) (tokens : List Token)
    (rest : List Char) (lexer : Lexer) : Prop :=
  ∃ settled, lexer.step? = settled.takeToken? ∧ rest.length ≤ lexer.cursor.rest.length ∧
    Stands blocks column allowed tokens rest settled

/-- The lexer has come into the line with which the text goes on, behind its indentation. The line
starts so far left that all blocks within the given ones end, and the tokens that say so are counted
among the tokens. -/
def Ended (blocks : List Nat) (tokens : List Token) (text : List Char) (lexer : Lexer) : Prop :=
  ∃ opened before, (∀ block ∈ opened, indent text < block) ∧
    Stands (opened ++ blocks) (indent text) true before (unindented text) lexer ∧
    tokens = List.replicate opened.length .blockEnd ++ before

/-- A token at a column opens a block there, with a token of its own, unless the innermost block
lies there already. -/
inductive Opens (start : Token) (column : Nat) :
    List Nat → List Token → List Nat → List Token → Prop
  | first {blocks : List Nat} {tokens : List Token} (h : ∀ block ∈ blocks.head?, block < column) :
      Opens start column blocks tokens (column :: blocks) (start :: tokens)
  | further {blocks : List Nat} {tokens : List Token} :
      Opens start column (column :: blocks) tokens (column :: blocks) tokens

variable {blocks : List Nat} {column : Nat} {allowed : Bool} {tokens : List Token}
  {rest : List Char} {lexer : Lexer}

/-- No bracket is open, and the lexer knows that. -/
theorem Stands.inFlow (h : Stands blocks column allowed tokens rest lexer) :
    lexer.inFlow = false := by
  obtain ⟨key?, hkeys, -⟩ := h.keys
  rw [Lexer.inFlow, hkeys]

/-- The column of the innermost block is the indentation that the lexer compares with. -/
theorem Stands.indentation_eq {block : Nat}
    (h : Stands (block :: blocks) column allowed tokens rest lexer) :
    lexer.indentation = block :=
  (List.cons.inj h.blocks_eq).1

/-- The indentation is bounded by what bounds the column of the innermost block, and so it is
outside all blocks. -/
theorem Stands.indentation_lt (h : Stands blocks column allowed tokens rest lexer) {limit : Int}
    (hlimit : -1 < limit) (hblock : ∀ block ∈ blocks.head?, (block : Int) < limit) :
    lexer.indentation < limit := by
  cases blocks with
  | nil =>
    rw [(List.cons.inj h.blocks_eq).1]
    exact hlimit
  | cons block blocks =>
    rw [h.indentation_eq]
    exact hblock block rfl

/-- The possible key is forgotten without a fault, since it is not required. -/
theorem Stands.dropKey? (h : Stands blocks column allowed tokens rest lexer) :
    lexer.dropKey? = some { lexer with keys := [none] } := by
  obtain ⟨_ | key, hkeys, hoptional⟩ := h.keys
  · rw [Lexer.dropKey?, hkeys]
    change some lexer = some { lexer with keys := [none] }
    rw [← hkeys]
  · rw [Lexer.dropKey?, hkeys]
    simp [hoptional key rfl]

/-- The same state with another possible key that is not required. -/
theorem Stands.withKey (h : Stands blocks column allowed tokens rest lexer)
    (key? : Option PossibleKey) (hoptional : ∀ key ∈ key?, key.required = false) (begins : Bool) :
    Stands blocks column begins tokens rest
      { lexer with keys := [key?], keyAllowed := begins } :=
  { h with keys := ⟨key?, rfl, hoptional⟩, allowed_eq := rfl }

/-- The same state behind characters that do not end the line. -/
theorem Stands.past (h : Stands blocks column allowed tokens rest lexer) {taken behind : List Char}
    (hrest : rest = taken ++ behind) :
    Stands blocks (column + taken.length) allowed tokens behind
      { lexer with cursor := lexer.cursor.past taken behind } :=
  { h with
    rest_eq := rfl
    bound := by
      have hbound := h.bound
      rw [hrest, List.length_append] at hbound
      exact Nat.le_trans (Nat.le_add_left _ _) hbound
    column_eq := congrArg (· + taken.length) h.column_eq }

/-- A token is appended, and nothing else changes. -/
theorem Stands.emit (h : Stands blocks column allowed tokens rest lexer) (token : Token) :
    Stands blocks column allowed (token :: tokens) rest (lexer.emit token) :=
  { h with
    tokens_eq := congrArg (token :: ·) h.tokens_eq
    count := congrArg (· + 1) h.count }

/-- The token of a single character is appended, and the character is passed. -/
theorem Stands.takeIndicator {c : Char}
    (h : Stands blocks column allowed tokens (c :: rest) lexer) (token : Token) :
    Stands blocks (column + 1) allowed (token :: tokens) rest (lexer.takeIndicator token) := by
  have hpast := (h.past (show c :: rest = [c] ++ rest from rfl)).emit token
  rwa [← Cursor.advance_one h.rest_eq] at hpast

/-- A token is put in front of the last ones, as that of a key is when its colon is found. -/
theorem Stands.insertAt {front : List Token}
    (h : Stands blocks column allowed (front ++ tokens) rest lexer) (token : Token) :
    Stands blocks column allowed (front ++ token :: tokens) rest
      (lexer.insertAt tokens.length token) := by
  have hbehind : lexer.count - tokens.length = front.length := by
    rw [h.count, List.length_append, Nat.add_sub_cancel]
  exact { h with
    tokens_eq := by simp [Lexer.insertAt, hbehind, h.tokens_eq]
    count := by simp [Lexer.insertAt, h.count, Nat.add_assoc] }

/-- A block is opened where it has to be, in front of the last tokens, and nothing is opened where
the innermost block lies there already. -/
theorem Stands.openBlock {front more : List Token} {inner : List Nat} {start : Token} {place : Nat}
    (h : Stands blocks column allowed (front ++ tokens) rest lexer)
    (hopens : Opens start place blocks tokens inner more) :
    Stands inner column allowed (front ++ more) rest
      (lexer.openBlock place tokens.length start) := by
  cases hopens with
  | first hblock =>
    have hright : lexer.indentation < (place : Int) :=
      h.indentation_lt (by omega) fun block hmem => Int.ofNat_lt.mpr (hblock block hmem)
    have hinserted := h.insertAt start
    rw [Lexer.openBlock, if_pos (by simp [h.inFlow, hright])]
    exact { hinserted with blocks_eq := congrArg ((place : Int) :: ·) h.blocks_eq }
  | further =>
    rw [Lexer.openBlock, if_neg (by simp [h.indentation_eq])]
    exact h

end States

section Closing

/-- A token begins behind the spaces at the beginning of a line, or the text ends there. -/
def BeginsLine (text : List Char) : Prop := (unindented text).head?.any isFiller = false

variable {blocks opened : List Nat} {column : Nat} {allowed : Bool} {tokens : List Token}
  {rest : List Char} {lexer : Lexer}

/-- A lexer whose innermost block does not lie further right closes none. -/
theorem closeFrom_eq_self {left : Int} (h : ¬ left < lexer.indentation) :
    closeFrom left lexer.outer lexer = lexer := by
  cases houter : lexer.outer with
  | nil => rfl
  | cons parent outer => exact if_neg h

/-- The blocks that lie further right are closed, one after the other, each with a token that says
so. -/
theorem Stands.closeFrom {left : Int} (hleft : -1 ≤ left)
    (hopened : ∀ block ∈ opened, left < (block : Int))
    (hblocks : ∀ block ∈ blocks.head?, (block : Int) ≤ left)
    (h : Stands (opened ++ blocks) column allowed tokens rest lexer) :
    Stands blocks column allowed (List.replicate opened.length .blockEnd ++ tokens) rest
      (closeFrom left lexer.outer lexer) := by
  induction opened generalizing tokens lexer with
  | nil =>
    have hindentation : lexer.indentation < left + 1 :=
      h.indentation_lt (by omega) fun block hblock => Int.lt_add_one_of_le (hblocks block hblock)
    rw [closeFrom_eq_self (by omega)]
    exact h
  | cons block opened ih =>
    obtain ⟨hblock, hopened⟩ := List.forall_mem_cons.mp hopened
    obtain ⟨hindentation, houter⟩ := List.cons.inj h.blocks_eq
    obtain ⟨parent, outer, hparent⟩ : ∃ parent outer, lexer.outer = parent :: outer :=
      List.exists_cons_of_ne_nil (by rw [houter]; simp)
    have hnext : Stands (opened ++ blocks) column allowed (.blockEnd :: tokens) rest
        ({ lexer with indentation := parent, outer := outer }.emit .blockEnd) :=
      { h.emit .blockEnd with blocks_eq := hparent.symm.trans houter }
    rw [hparent, Lexer.closeFrom, if_pos (by rw [hindentation]; exact hblock)]
    rw [List.length_cons, List.replicate_succ', List.append_assoc]
    exact ih hopened hnext

/-- Forgetting stale keys changes nothing else, since none of them is required here. -/
theorem Stands.refreshed (h : Stands blocks column allowed tokens rest lexer) :
    Stands blocks column allowed tokens rest lexer.refreshed := by
  obtain ⟨key?, hkeys, hoptional⟩ := h.keys
  refine { h with keys := ⟨_, by rw [Lexer.refreshed, hkeys]; rfl, fun key hkey => ?_⟩ }
  simp only at hkey
  split at hkey
  · cases hkey
  · exact hoptional key hkey

/-- Without keys that are required, stale ones are forgotten without a fault. -/
theorem Stands.dropStaleKeys? (h : Stands blocks column allowed tokens rest lexer) :
    lexer.dropStaleKeys? = some lexer.refreshed := by
  obtain ⟨key?, hkeys, hoptional⟩ := h.keys
  refine if_neg fun hany => ?_
  obtain ⟨_ | key, hkey, hrequired⟩ := List.any_eq_true.mp hany
  · cases hrequired
  · rw [hkeys, List.mem_singleton] at hkey
    simp [hoptional key hkey.symm] at hrequired

/-- The next token begins behind what is skipped; the blocks further right are closed in front of
it. -/
theorem Stands.ready {skipped : Lexer}
    (h : Stands (opened ++ blocks) column allowed tokens rest skipped)
    (hskip : skipSpace (lexer.cursor.bound + 1) lexer = skipped)
    (hlength : rest.length ≤ lexer.cursor.rest.length) (hopened : ∀ block ∈ opened, column < block)
    (hblocks : ∀ block ∈ blocks.head?, block ≤ column) :
    Ready blocks column allowed (List.replicate opened.length .blockEnd ++ tokens) rest lexer := by
  have hclosed := h.refreshed.closeFrom (show -1 ≤ (column : Int) by omega)
    (fun block hblock => Int.ofNat_lt.mpr (hopened block hblock))
    (fun block hblock => Int.ofNat_le.mpr (hblocks block hblock))
  refine ⟨_, ?_, hlength, hclosed⟩
  rw [step?, hskip, h.dropStaleKeys?]
  change (skipped.refreshed.closeBlocks skipped.refreshed.cursor.column).takeToken? = _
  rw [closeBlocks, h.refreshed.inFlow, h.refreshed.column_eq]
  rfl

/-- The next token begins behind what is skipped inside the innermost block, and none is closed. -/
theorem Stands.ready_inside {skipped : Lexer} (h : Stands blocks column allowed tokens rest skipped)
    (hskip : skipSpace (lexer.cursor.bound + 1) lexer = skipped)
    (hlength : rest.length ≤ lexer.cursor.rest.length)
    (hblocks : ∀ block ∈ blocks.head?, block ≤ column) :
    Ready blocks column allowed tokens rest lexer := by
  have hnone : Stands ([] ++ blocks) column allowed tokens rest skipped := h
  exact hnone.ready hskip hlength (List.forall_mem_nil _) hblocks

/-- What is over inside a block is over inside the block around it, once that has ended too. -/
theorem Ended.outward {block : Nat} {text : List Char}
    (h : Ended (block :: blocks) tokens text lexer) (hblock : indent text < block) :
    Ended blocks (.blockEnd :: tokens) text lexer := by
  obtain ⟨opened, before, hopened, hstands, rfl⟩ := h
  refine ⟨opened ++ [block], before, fun other hother => ?_, ?_, ?_⟩
  · obtain hother | hother := List.mem_append.mp hother
    · exact hopened other hother
    · rwa [List.mem_singleton.mp hother]
  · rwa [List.append_assoc]
  · rw [List.length_append, List.length_singleton, List.replicate_succ, List.cons_append]

/-- Where a block goes on, its next token begins, behind the tokens of the blocks within it that
ended. -/
theorem Ended.ready {text : List Char} (h : Ended blocks tokens text lexer)
    (htext : BeginsLine text) (hblocks : ∀ block ∈ blocks.head?, block ≤ indent text) :
    Ready blocks (indent text) true tokens (unindented text) lexer := by
  obtain ⟨opened, before, hopened, hstands, rfl⟩ := h
  have hrest : lexer.cursor.rest.head?.any isFiller = false := hstands.rest_eq ▸ htext
  have hskip := skipSpace_eq_self hrest (lexer.cursor.bound + 1)
  exact hstands.ready hskip (hstands.rest_eq ▸ Nat.le_refl _) hopened hblocks

end Closing

section Spaces

/-- A line break and the indentation of the next line are skipped, and a key may begin there. -/
theorem skipSpace_line {lexer : Lexer} {text : List Char} (hrest : lexer.cursor.rest = '\n' :: text)
    (htext : BeginsLine text) (hflow : lexer.inFlow = false) {fuel : Nat} (hfuel : 0 < fuel) :
    skipSpace (fuel + 1) lexer =
      { lexer with cursor := lexer.cursor.intoLine text, keyAllowed := true } := by
  obtain ⟨fuel, rfl⟩ : ∃ n, fuel = n + 1 := ⟨fuel - 1, (Nat.sub_add_cancel hfuel).symm⟩
  have hskip : lexer.cursor.skipWhile (fun c =>
      c = ' ' || (c = '\t' && (lexer.inFlow || !lexer.keyAllowed))) = lexer.cursor :=
    skipWhile_eq_self (by rw [hrest]; rfl)
  have hmark : lexer.cursor.rest.head? ≠ some byteOrderMark := by
    rw [hrest]
    exact fun hmark => absurd (Option.some.inj hmark) (by decide)
  have hstep : skipSpace (fuel + 2) lexer = skipSpace (fuel + 1)
      { lexer with cursor := lexer.cursor.behindBreak 1, keyAllowed := true } := by
    rw [skipSpace]
    simp only [hmark, decide_false, Bool.and_false, Bool.false_eq_true, if_false, hskip]
    simp [hrest, Cursor.nextLine_eq hrest, hflow, isBreak]
  rw [hstep, skipSpace_spaces (Cursor.rest_behindBreak hrest) htext]
  rfl

/-- Spaces in front of a line belong to the gap in front of it, and the line begins behind them. -/
theorem Gap.read_indentation {margin count fuel : Nat} {breaks : List Char × List Char}
    {behind : List Char} (hbehind : behind.head?.any isFiller = false) (hfuel : count ≤ fuel)
    {cursor : Cursor} (hcursor : cursor.rest = spaces count ++ behind) :
    Gap.read margin fuel ⟨[], some breaks⟩ cursor =
      some (⟨[], some breaks⟩, cursor.past (spaces count) behind) := by
  induction count generalizing fuel cursor with
  | zero =>
    have hrest : cursor.rest = behind := hcursor
    have hstay : cursor.past (spaces 0) behind = cursor := hrest ▸ cursor.past_nil
    rw [hstay]
    cases fuel with
    | zero => rfl
    | succ fuel =>
      cases behind with
      | nil => simp [Gap.read, hrest]
      | cons c cs =>
        have hfiller : isFiller c = false := hbehind
        simp only [isFiller, Bool.or_eq_false_iff] at hfiller
        simp [Gap.read, hrest, hfiller.1.1.1, hfiller.1.1.2]
  | succ count ih =>
    obtain ⟨fuel, rfl⟩ : ∃ n, fuel = n + 1 := ⟨fuel - 1, by omega⟩
    have hrest : cursor.rest = ' ' :: (spaces count ++ behind) := hcursor
    have hstep : Gap.read margin (fuel + 1) ⟨[], some breaks⟩ cursor = Gap.read margin fuel
        ⟨[], some breaks⟩ (cursor.past [' '] (spaces count ++ behind)) := by
      rw [Gap.read, hrest, ← Cursor.advance_one hrest]
      simp [isBlank]
    rw [hstep, ih (Nat.le_of_succ_le_succ hfuel) rfl, Cursor.past_past]
    rfl

/-- The gap at the end of a line goes up to where the next line begins. -/
theorem Gap.read_line {margin fuel : Nat} {cursor : Cursor} {text : List Char}
    (hcursor : cursor.rest = '\n' :: text) (htext : BeginsLine text) (hfuel : indent text < fuel) :
    Gap.read margin fuel .none cursor = some (⟨[], some (['\n'], [])⟩, cursor.intoLine text) := by
  obtain ⟨fuel, rfl⟩ : ∃ n, fuel = n + 1 := ⟨fuel - 1, by omega⟩
  have hstep : Gap.read margin (fuel + 1) .none cursor =
      Gap.read margin fuel ⟨[], some (['\n'], [])⟩ (cursor.behindBreak 1) := by
    rw [Gap.read, Cursor.nextLine_eq hcursor, hcursor]
    rfl
  exact hstep.trans
    (Gap.read_indentation htext (Nat.le_of_lt_succ hfuel) (Cursor.rest_behindBreak hcursor))

end Spaces

section Arriving

variable {block column : Nat} {blocks : List Nat} {allowed : Bool} {tokens : List Token}
  {rest text : List Char} {lexer : Lexer}

/-- Behind a space on the same line a token begins, and no block ends. -/
theorem Stands.ready_space (h : Stands (block :: blocks) column allowed tokens (' ' :: rest) lexer)
    (hrest : rest.head?.any isFiller = false) (hblock : block ≤ column) :
    Ready (block :: blocks) (column + 1) allowed tokens rest lexer := by
  have hspace : lexer.cursor.rest = spaces 1 ++ rest := h.rest_eq
  have hpast := h.past (show ' ' :: rest = spaces 1 ++ rest from rfl)
  refine hpast.ready_inside (skipSpace_spaces hspace hrest _) ?_ ?_
  · rw [h.rest_eq]
    exact Nat.le_succ _
  · intro other hother
    cases hother
    exact Nat.le_succ_of_le hblock

/-- The line is over, and the lexer comes into the next one, where a key may begin. -/
theorem Stands.intoLine (h : Stands blocks column allowed tokens ('\n' :: text) lexer) :
    Stands blocks (indent text) true tokens (unindented text)
      { lexer with cursor := lexer.cursor.intoLine text, keyAllowed := true } := by
  refine { h with rest_eq := rfl, bound := ?_, column_eq := ?_, allowed_eq := rfl }
  · have hlength := indent_add_length text
    exact Nat.le_trans (by rw [List.length_cons]; omega) h.bound
  · change 0 + (spaces (indent text)).length = indent text
    rw [length_spaces, Nat.zero_add]

/-- In a further line that is indented far enough a token begins, and no block ends. -/
theorem Stands.ready_line (h : Stands (block :: blocks) column allowed tokens ('\n' :: text) lexer)
    (htext : BeginsLine text) (hblock : block ≤ indent text) :
    Ready (block :: blocks) (indent text) true tokens (unindented text) lexer := by
  have hfuel : 0 < lexer.cursor.bound := Nat.le_trans (Nat.succ_pos _) h.bound
  have hskip := skipSpace_line h.rest_eq htext h.inFlow hfuel
  refine h.intoLine.ready_inside hskip ?_ ?_
  · have hlength := indent_add_length text
    rw [h.rest_eq, List.length_cons]
    omega
  · intro other hother
    cases hother
    exact hblock

end Arriving

end Lexer

end CaseRouting.Yaml
