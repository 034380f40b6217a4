import CaseRouting.Json.Value
import CaseRouting.Proofs.BlockSteps

/-!
# The tokens of a value in blocks

In blocks every item and every member begins a line of its own, two columns further right than the
line of the collection it belongs to, and no scalar has quotation marks. Only the first item or
member of an item stands in the same line, behind the hyphen. The lexer makes one token for each
hyphen, colon and scalar, one in front of every key, and one at either end of every block.
-/

namespace CaseRouting.Yaml

open Lexer (IsWord)

section Values

/-- A scalar as it is written without quotation marks; a collection is none. -/
def unquoted : Json → List Char
  | .null => ['n', 'u', 'l', 'l']
  | .boolean true => ['t', 'r', 'u', 'e']
  | .boolean false => ['f', 'a', 'l', 's', 'e']
  | .number n => n.written
  | .text s => s.toList
  | .list _ => []
  | .object _ => []

/-- Whether a value is written in lines of its own, which collections are. -/
def isBlock : Json → Bool
  | .list _ => true
  | .object _ => true
  | _ => false

/-- What stands between a colon and the value behind it: a space, or a line break if the value has
lines of its own, which are indented so far. -/
def gapBefore (column : Nat) (v : Json) : List Char :=
  if isBlock v then '\n' :: spaces column else [' ']

/-- The indentation of a further line, if there is one; behind the last line there is none. -/
def indentBefore {α : Type} (column : Nat) : List α → List Char
  | [] => []
  | _ :: _ => spaces column

mutual

/-- The text of a value in blocks, in a line that has come to a column; its further lines are
indented so far. -/
def blockText (column : Nat) : Json → List Char
  | .list items => itemLines column items
  | .object members => memberLines column members
  | v => unquoted v ++ ['\n']

/-- The lines of the items of a list, of which the first one is indented already. -/
def itemLines (column : Nat) : List Json → List Char
  | [] => []
  | item :: rest =>
    '-' :: ' ' :: (blockText (column + 2) item ++
      (indentBefore column rest ++ itemLines column rest))

/-- The lines of the members of an object, of which the first one is indented already. -/
def memberLines (column : Nat) : List (String × Json) → List Char
  | [] => []
  | (key, value) :: rest =>
    key.toList ++ ':' :: (gapBefore (column + 2) value ++ (blockText (column + 2) value ++
      (indentBefore column rest ++ memberLines column rest)))

end

mutual

/-- The tokens of a value in blocks: a collection has one at either end, and a scalar is one. -/
def blockTokens : Json → List Token
  | .list items => .blockSequenceStart :: (entryTokens items ++ [.blockEnd])
  | .object members => .blockMappingStart :: (keyTokens members ++ [.blockEnd])
  | v => [.scalar .plain (unquoted v)]

/-- The tokens of the items of a list, each behind that of its hyphen. -/
def entryTokens : List Json → List Token
  | [] => []
  | item :: rest => .blockEntry :: (blockTokens item ++ entryTokens rest)

/-- The tokens of the members of an object, the key behind its own token and the value behind that
of the colon. -/
def keyTokens : List (String × Json) → List Token
  | [] => []
  | (key, value) :: rest =>
    .key :: .scalar .plain key.toList :: .value :: (blockTokens value ++ keyTokens rest)

end

/-- A word that is not too long to be recognised as a key. -/
def IsKeyWord (key : String) : Prop := IsWord key.toList ∧ octetCount key.toList ≤ 1024

instance (key : String) : Decidable (IsKeyWord key) := inferInstanceAs (Decidable (_ ∧ _))

/-- A value in which the scalars are words, the keys are not too long and no collection is empty,
since an empty one has no lines. -/
inductive Blocky : Json → Prop
  | scalar {v : Json} (h : IsWord (unquoted v)) : Blocky v
  | list {items : List Json} (hne : items ≠ []) (h : ∀ item ∈ items, Blocky item) :
      Blocky (.list items)
  | object {members : List (String × Json)} (hne : members ≠ [])
      (hkeys : ∀ m ∈ members, IsKeyWord m.1) (h : ∀ m ∈ members, Blocky m.2) :
      Blocky (.object members)

/-- What is written as a word is written in one line and is one token, in whatever column it
stands. -/
theorem scalar_of_isWord {v : Json} (h : IsWord (unquoted v)) (column : Nat) :
    blockText column v = unquoted v ++ ['\n'] ∧ blockTokens v = [.scalar .plain (unquoted v)] ∧
      isBlock v = false := by
  cases v with
  | list items => exact absurd rfl h.1
  | object members => exact absurd rfl h.1
  | _ => simp [blockText, blockTokens, isBlock]

/-- A word begins with a character that is not skipped in front of a token. -/
theorem Lexer.IsWord.begins {word : List Char} (h : IsWord word) :
    ∃ c cs, word = c :: cs ∧ Lexer.isFiller c = false := by
  obtain ⟨hne, hword⟩ := h
  obtain ⟨c, cs, rfl⟩ := List.exists_cons_of_ne_nil hne
  exact ⟨c, cs, rfl, Lexer.isFiller_of_isWordChar (hword c List.mem_cons_self)⟩

/-- The text of a value begins with a character that is not skipped in front of a token. -/
theorem Blocky.begins {v : Json} (h : Blocky v) (column : Nat) :
    ∃ c cs, blockText column v = c :: cs ∧ Lexer.isFiller c = false := by
  cases h with
  | scalar h =>
    obtain ⟨c, cs, hword, hc⟩ := h.begins
    exact ⟨c, _, by rw [(scalar_of_isWord h column).1, hword]; rfl, hc⟩
  | list hne h =>
    obtain ⟨item, items, rfl⟩ := List.exists_cons_of_ne_nil hne
    exact ⟨'-', _, by rw [blockText, itemLines], rfl⟩
  | object hne hkeys h =>
    obtain ⟨⟨key, value⟩, members, rfl⟩ := List.exists_cons_of_ne_nil hne
    obtain ⟨c, cs, hkey, hc⟩ := (hkeys _ List.mem_cons_self).1.begins
    exact ⟨c, _, by rw [blockText, memberLines, hkey]; rfl, hc⟩

end Values

namespace Lexer

section Parts

/-- Lines of a block at a column, the first of which is indented already, and the tokens that the
lexer makes of them. The first token opens the block if it does not lie there yet. -/
structure BlockPart (start : Token) (column : Nat) (lines : List Char) (ts : List Token) :
    Prop where
  begins : ∃ c cs, lines = c :: cs ∧ isFiller c = false
  taken : ∀ {blocks outer : List Nat} {tokens more : List Token} {text : List Char} {lexer : Lexer},
    BeginsLine text → indent text ≤ column →
    Opens start column blocks tokens (column :: outer) more →
    Ready blocks column true tokens (lines ++ text) lexer →
      Reaches lexer (Ended (column :: outer) (ts.reverse ++ more) text)

/-- What begins with a character that is not skipped begins a line behind any indentation, in the
column of the indentation. -/
theorem beginsLine_spaces {lines : List Char} (h : ∃ c cs, lines = c :: cs ∧ isFiller c = false)
    (column : Nat) (text : List Char) :
    BeginsLine (spaces column ++ (lines ++ text)) ∧
      indent (spaces column ++ (lines ++ text)) = column ∧
      unindented (spaces column ++ (lines ++ text)) = lines ++ text := by
  obtain ⟨c, cs, rfl, hc⟩ := h
  have hspace : c ≠ ' ' := by
    rintro rfl
    exact absurd hc (by decide)
  obtain ⟨hindent, hbehind⟩ := indent_spaces_append column hspace (cs ++ text)
  refine ⟨?_, hindent, hbehind⟩
  rw [BeginsLine, List.cons_append, hbehind]
  exact hc

/-- Further lines of the block are indented as the first one is, and their tokens follow its
tokens. -/
theorem BlockPart.append {start : Token} {column : Nat} {lines more : List Char}
    {ts us : List Token} (h : BlockPart start column lines ts)
    (hmore : BlockPart start column more us) :
    BlockPart start column (lines ++ (spaces column ++ more)) (ts ++ us) where
  begins := by
    obtain ⟨c, cs, rfl, hc⟩ := h.begins
    exact ⟨c, _, rfl, hc⟩
  taken {blocks outer tokens opened text lexer} htext hindent hopens hready := by
    obtain ⟨hline, hcolumn, hbehind⟩ := beginsLine_spaces hmore.begins column text
    rw [List.append_assoc, List.append_assoc] at hready
    refine (h.taken hline (Nat.le_of_eq hcolumn) hopens hready).trans fun next hnext => ?_
    have hfurther := hnext.ready hline fun block hblock => by
      cases hblock
      exact Nat.le_of_eq hcolumn.symm
    rw [hcolumn, hbehind] at hfurther
    simpa using hmore.taken htext hindent .further hfurther

/-- A block inside another one is over where the text goes on no further right than the outer one,
and has a token at either end. -/
theorem BlockPart.inside {start : Token} {column block : Nat} {blocks : List Nat}
    {lines text : List Char} {ts tokens : List Token} {lexer : Lexer}
    (h : BlockPart start column lines ts) (hblock : block < column) (htext : BeginsLine text)
    (hindent : indent text ≤ block)
    (hready : Ready (block :: blocks) column true tokens (lines ++ text) lexer) :
    Reaches lexer (Ended (block :: blocks)
      ((start :: (ts ++ [.blockEnd])).reverse ++ tokens) text) := by
  have hleft : indent text < column := Nat.lt_of_le_of_lt hindent hblock
  have hopens : Opens start column (block :: blocks) tokens (column :: block :: blocks)
      (start :: tokens) := .first fun other hother => by
    cases hother
    exact hblock
  refine (h.taken htext (Nat.le_of_lt hleft) hopens hready).trans fun next hnext => .here ?_
  simpa using hnext.outward hleft

end Parts

section Blocks

/-- From wherever the text of such a value stands inside a block, in a line that has come to its
place, the lexer reaches the line behind it and has taken the tokens of the value. A collection
stands at the column that its lines are indented to, where a key may begin. -/
def BlockTokenizes (v : Json) : Prop :=
  ∀ {block : Nat} {blocks : List Nat} {column place : Nat} {allowed : Bool} {tokens : List Token}
    {text : List Char} {lexer : Lexer}, block < place →
    (isBlock v = true → place = column ∧ allowed = true) → BeginsLine text → indent text ≤ block →
    Ready (block :: blocks) place allowed tokens (blockText column v ++ text) lexer →
      Reaches lexer (Ended (block :: blocks) ((blockTokens v).reverse ++ tokens) text)

/-- An item is part of a block, and so is what stands in its lines, two columns further right. -/
theorem blockPart_item {item : Json} (hitem : Blocky item) (htokenizes : BlockTokenizes item)
    (column : Nat) :
    BlockPart .blockSequenceStart column ('-' :: ' ' :: blockText (column + 2) item)
      (.blockEntry :: blockTokens item) where
  begins := ⟨'-', _, rfl, rfl⟩
  taken {blocks outer tokens more text lexer} htext hindent hopens hready := by
    obtain ⟨c, cs, hbegins, hc⟩ := hitem.begins (column + 2)
    have hhead : (blockText (column + 2) item ++ text).head?.any isFiller = false := by
      rw [hbegins]
      exact hc
    refine (hready.reaches_entry rfl hopens).trans fun next hnext => ?_
    have hitem := hnext.ready_space hhead (Nat.le_succ column)
    simpa using htokenizes (by omega) (fun _ => ⟨rfl, rfl⟩) htext hindent hitem

/-- Behind the colon of a key its value begins, in the same line or in the next one. -/
theorem Stands.ready_value {column place : Nat} {outer : List Nat} {allowed : Bool}
    {tokens : List Token} {text : List Char} {lexer : Lexer} {value : Json} (hvalue : Blocky value)
    (hplace : column < place)
    (h : Stands (column :: outer) place allowed tokens
      (gapBefore (column + 2) value ++ (blockText (column + 2) value ++ text)) lexer) :
    ∃ inside begins, column < inside ∧
      (isBlock value = true → inside = column + 2 ∧ begins = true) ∧
      Ready (column :: outer) inside begins tokens (blockText (column + 2) value ++ text)
        lexer := by
  have hbegins := hvalue.begins (column + 2)
  cases hblock : isBlock value with
  | false =>
    obtain ⟨c, cs, hlines, hc⟩ := hbegins
    rw [gapBefore, hblock, hlines] at h
    rw [hlines]
    exact ⟨place + 1, allowed, by omega, fun hsame => absurd hsame (by decide),
      h.ready_space hc (Nat.le_of_lt hplace)⟩
  | true =>
    obtain ⟨hline, hindent, hbehind⟩ := beginsLine_spaces hbegins (column + 2) text
    rw [gapBefore, hblock] at h
    have hnext : Stands (column :: outer) place allowed tokens
        ('\n' :: (spaces (column + 2) ++ (blockText (column + 2) value ++ text))) lexer := h
    have hready := hnext.ready_line hline (by omega)
    rw [hindent, hbehind] at hready
    exact ⟨column + 2, true, by omega, fun _ => ⟨rfl, rfl⟩, hready⟩

/-- A member is part of a block, and so is what stands in its lines, two columns further right. -/
theorem blockPart_member {key : String} {value : Json} (hkey : IsKeyWord key)
    (hvalue : Blocky value) (htokenizes : BlockTokenizes value) (column : Nat) :
    BlockPart .blockMappingStart column
      (key.toList ++ ':' :: (gapBefore (column + 2) value ++ blockText (column + 2) value))
      (.key :: .scalar .plain key.toList :: .value :: blockTokens value) where
  begins := by
    obtain ⟨c, cs, hword, hc⟩ := hkey.1.begins
    exact ⟨c, _, by rw [hword]; rfl, hc⟩
  taken {blocks outer tokens more text lexer} htext hindent hopens hready := by
    have hspace : atSpace (gapBefore (column + 2) value ++
        (blockText (column + 2) value ++ text)) = true := by
      rw [gapBefore]
      cases isBlock value <;> rfl
    simp only [List.append_assoc, List.cons_append] at hready
    refine (hready.reaches_key hkey.1 hkey.2 hspace hopens).trans fun next hnext => ?_
    obtain ⟨inside, begins, hinside, hblock, hready⟩ := hnext.ready_value hvalue (by omega)
    simpa using htokenizes hinside hblock htext hindent hready

/-- The items of a list are a block, one part appended to the other. -/
theorem blockPart_items {items : List Json} (hne : items ≠ [])
    (hitems : ∀ item ∈ items, Blocky item ∧ BlockTokenizes item) (column : Nat) :
    BlockPart .blockSequenceStart column (itemLines column items) (entryTokens items) := by
  induction items with
  | nil => exact absurd rfl hne
  | cons item rest ih =>
    obtain ⟨⟨hblocky, htokenizes⟩, hrest⟩ := List.forall_mem_cons.mp hitems
    have hpart := blockPart_item hblocky htokenizes column
    cases rest with
    | nil => simpa [itemLines, entryTokens, indentBefore] using hpart
    | cons other rest =>
      have happend := hpart.append (ih (List.cons_ne_nil _ _) hrest)
      rwa [itemLines, entryTokens, indentBefore]

/-- The members of an object are a block, one part appended to the other. -/
theorem blockPart_members {members : List (String × Json)} (hne : members ≠ [])
    (hkeys : ∀ m ∈ members, IsKeyWord m.1)
    (hvalues : ∀ m ∈ members, Blocky m.2 ∧ BlockTokenizes m.2) (column : Nat) :
    BlockPart .blockMappingStart column (memberLines column members) (keyTokens members) := by
  induction members with
  | nil => exact absurd rfl hne
  | cons m rest ih =>
    obtain ⟨hkey, hkeys⟩ := List.forall_mem_cons.mp hkeys
    obtain ⟨⟨hblocky, htokenizes⟩, hrest⟩ := List.forall_mem_cons.mp hvalues
    have hpart := blockPart_member hkey hblocky htokenizes column
    cases rest with
    | nil => simpa [memberLines, keyTokens, indentBefore] using hpart
    | cons other rest =>
      have happend := hpart.append (ih (List.cons_ne_nil _ _) hkeys hrest)
      rw [memberLines, keyTokens, indentBefore]
      simpa using happend

/-- The tokens of a value are those that the lexer takes from its text in blocks, by induction on
the values within it. -/
theorem tokenizes_of_blocky {v : Json} (h : Blocky v) : BlockTokenizes v := by
  induction h with
  | scalar hword =>
    intro block blocks column place allowed tokens text lexer hplace _ htext hindent hready
    obtain ⟨htext_eq, htokens, -⟩ := scalar_of_isWord hword column
    rw [htext_eq, List.append_assoc] at hready
    rw [htokens]
    exact hready.reaches_word hword htext hindent hplace
  | @list items hne hitems ih =>
    intro block blocks column place allowed tokens text lexer hplace hblock htext hindent hready
    obtain ⟨rfl, rfl⟩ := hblock rfl
    rw [blockText] at hready
    rw [blockTokens]
    exact (blockPart_items hne (fun item hitem => ⟨hitems item hitem, ih item hitem⟩) _).inside
      hplace htext hindent hready
  | @object members hne hkeys hvalues ih =>
    intro block blocks column place allowed tokens text lexer hplace hblock htext hindent hready
    obtain ⟨rfl, rfl⟩ := hblock rfl
    rw [blockText] at hready
    rw [blockTokens]
    exact (blockPart_members hne hkeys (fun m hm => ⟨hvalues m hm, ih m hm⟩) _).inside
      hplace htext hindent hready

end Blocks

section Texts

/-- The end of the text ends all blocks and is the last token. -/
theorem Ready.run?_end {blocks : List Nat} {column : Nat} {allowed : Bool} {tokens : List Token}
    {lexer : Lexer} (h : Ready blocks column allowed tokens [] lexer) (fuel : Nat) :
    lexer.run? (fuel + 1) =
      some (tokens.reverse ++ (List.replicate blocks.length .blockEnd ++ [.streamEnd])) := by
  obtain ⟨settled, hstep, -, hstands⟩ := h
  have hall : Stands (blocks ++ []) column allowed tokens [] settled := by
    rwa [List.append_nil]
  have hclosed := hall.closeFrom (show (-1 : Int) ≤ -1 by decide) (fun block _ => by omega)
    fun block hblock => absurd hblock (by simp)
  obtain ⟨last, htake, htokens⟩ : ∃ last, settled.takeToken? = some last ∧
      last.tokens = .streamEnd :: (List.replicate blocks.length .blockEnd ++ tokens) := by
    refine ⟨_, ?_, (hclosed.withKey none (fun _ => by simp) allowed).emit .streamEnd |>.tokens_eq⟩
    have hend : settled.takeToken? = settled.takeEnd? := by
      rw [takeToken?, hstands.rest_eq]
    rw [hend, takeEnd?, closeBlocks, hstands.inFlow, if_neg Bool.false_ne_true, hclosed.dropKey?,
      ← hclosed.allowed_eq]
    rfl
  simp [Lexer.run?, hstep, htake, htokens]

/-- The code of a letter lies in one of two ranges. -/
theorem toNat_of_isAlpha {c : Char} (hc : c.isAlpha = true) :
    (65 ≤ c.toNat ∧ c.toNat ≤ 90) ∨ (97 ≤ c.toNat ∧ c.toNat ≤ 122) := by
  have hranges : (decide (c.val ≥ 65 ∧ c.val ≤ 90) || (c.val ≥ 97 && c.val ≤ 122)) = true := hc
  simpa [UInt32.le_iff_toNat_le] using hranges

/-- The code of a digit lies in one range. -/
theorem toNat_of_isDigit {c : Char} (hc : c.isDigit = true) : 48 ≤ c.toNat ∧ c.toNat ≤ 57 := by
  have hrange : (c.val ≥ 48 && c.val ≤ 57) = true := hc
  simpa [UInt32.le_iff_toNat_le] using hrange

/-- Letters, digits and underscores are allowed characters. -/
theorem isAllowed_of_isWordChar {c : Char} (hc : isWordChar c = true) : isAllowed c = true := by
  have hrange : 0x20 ≤ c.toNat ∧ c.toNat ≤ 0x7E := by
    simp only [isWordChar, Char.isAlphanum, Bool.or_eq_true, decide_eq_true_eq] at hc
    obtain (hletter | hdigit) | rfl := hc
    · have hcode := toNat_of_isAlpha hletter
      omega
    · have hcode := toNat_of_isDigit hdigit
      omega
    · decide
  simp [isAllowed, hrange]

/-- Words are in allowed characters, as each character of a word is. -/
theorem IsWord.all_isAllowed {word : List Char} (h : IsWord word) : word.all isAllowed = true :=
  List.all_eq_true.mpr fun c hc => isAllowed_of_isWordChar (h.2 c hc)

/-- Spaces are allowed characters, however many there are. -/
theorem all_isAllowed_spaces (count : Nat) : (spaces count).all isAllowed = true := by
  refine List.all_eq_true.mpr fun c hc => ?_
  rw [List.eq_of_mem_replicate hc]
  rfl

/-- Indentation is in allowed characters, which are spaces. -/
theorem all_isAllowed_indentBefore {α : Type} (column : Nat) (rest : List α) :
    (indentBefore column rest).all isAllowed = true := by
  cases rest with
  | nil => rfl
  | cons _ _ => exact all_isAllowed_spaces column

/-- What stands behind a colon is in allowed characters, which are spaces and a line break. -/
theorem all_isAllowed_gapBefore (column : Nat) (v : Json) :
    (gapBefore column v).all isAllowed = true := by
  rw [gapBefore]
  split
  · rw [List.all_cons, all_isAllowed_spaces]
    rfl
  · rfl

/-- The lines of items are in allowed characters, if the items are. -/
theorem all_isAllowed_itemLines {items : List Json}
    (h : ∀ item ∈ items, ∀ column, (blockText column item).all isAllowed = true) (column : Nat) :
    (itemLines column items).all isAllowed = true := by
  induction items with
  | nil => rfl
  | cons item rest ih =>
    obtain ⟨hitem, hrest⟩ := List.forall_mem_cons.mp h
    rw [itemLines, List.all_cons, List.all_cons, List.all_append, List.all_append, hitem,
      all_isAllowed_indentBefore, ih hrest]
    rfl

/-- The lines of members are in allowed characters, if the values are, since keys are words. -/
theorem all_isAllowed_memberLines {members : List (String × Json)}
    (hkeys : ∀ m ∈ members, IsKeyWord m.1)
    (h : ∀ m ∈ members, ∀ column, (blockText column m.2).all isAllowed = true) (column : Nat) :
    (memberLines column members).all isAllowed = true := by
  induction members with
  | nil => rfl
  | cons m rest ih =>
    obtain ⟨hkey, hkeys⟩ := List.forall_mem_cons.mp hkeys
    obtain ⟨hvalue, hrest⟩ := List.forall_mem_cons.mp h
    rw [memberLines, List.all_append, List.all_cons, List.all_append, List.all_append,
      List.all_append, hkey.1.all_isAllowed, all_isAllowed_gapBefore, hvalue,
      all_isAllowed_indentBefore, ih hkeys hrest]
    rfl

/-- A text in blocks is in allowed characters, so that the lexer does not refuse it from the
start. -/
theorem all_isAllowed_blockText {v : Json} (h : Blocky v) (column : Nat) :
    (blockText column v).all isAllowed = true := by
  induction h generalizing column with
  | scalar hword =>
    rw [(scalar_of_isWord hword column).1, List.all_append, hword.all_isAllowed]
    rfl
  | list hne hitems ih =>
    rw [blockText]
    exact all_isAllowed_itemLines ih column
  | object hne hkeys hvalues ih =>
    rw [blockText]
    exact all_isAllowed_memberLines hkeys ih column

/-- The tokens of the text of an object are those of the object, with the end of the text behind
them. -/
theorem tokens?_blockText {members : List (String × Json)} (h : Blocky (.object members)) :
    tokens? (blockText 0 (.object members)) =
      some (blockTokens (.object members) ++ [.streamEnd]) := by
  have hallowed : (blockText 0 (.object members)).all isAllowed := all_isAllowed_blockText h 0
  obtain ⟨c, cs, hbegins, hc⟩ := h.begins 0
  have hstart : Stands [] 0 true [] (memberLines 0 members ++ [])
      (.start (blockText 0 (.object members))) := by
    rw [List.append_nil, blockText]
    exact ⟨rfl, Nat.le_refl _, rfl, rfl, ⟨none, rfl, fun _ => by simp⟩, rfl, rfl, rfl⟩
  have hready : Ready [] 0 true [] (memberLines 0 members ++ [])
      (.start (blockText 0 (.object members))) := by
    refine hstart.ready_inside (skipSpace_eq_self ?_ _)
      (Nat.le_of_eq (congrArg _ hstart.rest_eq.symm)) fun block hblock => by cases hblock
    change (blockText 0 (.object members)).head?.any isFiller = false
    rw [hbegins]
    exact hc
  cases h with
  | scalar hword => exact absurd rfl hword.1
  | object hne hkeys hvalues =>
    have hpart := blockPart_members hne hkeys
      (fun m hm => ⟨hvalues m hm, tokenizes_of_blocky (hvalues m hm)⟩) 0
    have hopens : Opens .blockMappingStart 0 [] [] [0] [.blockMappingStart] :=
      .first fun block hblock => by cases hblock
    have hover : BeginsLine [] := rfl
    have hrun := (hpart.taken hover (Nat.le_refl 0) hopens hready).run? (Nat.lt_succ_self _)
    obtain ⟨last, more, hlast, hmore, hrun⟩ := hrun
    obtain ⟨fuel, rfl⟩ : ∃ n, more = n + 1 := ⟨more - 1, by omega⟩
    rw [(hlast.ready hover (by simp)).run?_end] at hrun
    rw [tokens?, if_pos hallowed]
    exact hrun.trans (by simp [blockTokens])

end Texts

end Lexer

end CaseRouting.Yaml
