import CaseRouting.Proofs.JsonWriting
import CaseRouting.Yaml.QuotedScalar

/-!
# A written text as a quoted scalar

A text as JSON writes it is a scalar between double quotation marks, and it stands for the same text
there. The escapes mean the same in both, and of what stands for itself only spaces matter to the
scalar: they are gaps between its words, and a gap within a line is kept.
-/

namespace CaseRouting.Yaml

open Json (hexDigit hexValue?_hexDigit writtenChar writtenText)
open Text (hexValue? radixNumber?)

/-- A character that either stands for itself in both kinds of text or is escaped in both. -/
def IsCommon (c : Char) : Prop := c.toNat ≤ 0x7E ∨ (0xA0 ≤ c.toNat ∧ c.toNat ≤ 0x1FFF)

instance (c : Char) : Decidable (IsCommon c) := inferInstanceAs (Decidable (_ ∨ _))

/-- A text of common characters, which is all that a text in quotation marks has to be here. -/
def IsCommonText (s : String) : Prop := ∀ c ∈ s.toList, IsCommon c

instance (s : String) : Decidable (IsCommonText s) := List.decidableBAll _ _

section Cursors

/-- Octets are counted from any number on, so that the count may begin where another one ended. -/
theorem foldl_utf8Size (cs : List Char) (count : Nat) :
    cs.foldl (fun n c => n + c.utf8Size) count = count + octetCount cs := by
  induction cs generalizing count with
  | nil => rfl
  | cons c cs ih =>
    rw [octetCount, List.foldl_cons, List.foldl_cons, ih, ih, Nat.zero_add, Nat.add_assoc]

/-- The octets of two texts add up when one stands behind the other. -/
theorem octetCount_append (cs ds : List Char) :
    octetCount (cs ++ ds) = octetCount cs + octetCount ds := by
  rw [octetCount, List.foldl_append, foldl_utf8Size cs, foldl_utf8Size ds, Nat.zero_add]

namespace Cursor

/-- The cursor behind characters that do not end the line, in front of the rest. -/
def past (cursor : Cursor) (taken rest : List Char) : Cursor :=
  { cursor with
    rest := rest
    index := cursor.index + octetCount taken
    column := cursor.column + taken.length }

/-- What is passed in two goes is passed in one. -/
theorem past_past (cursor : Cursor) (taken further rest later : List Char) :
    (cursor.past taken rest).past further later = cursor.past (taken ++ further) later := by
  simp [past, octetCount_append, Nat.add_assoc]

/-- When nothing is passed, the cursor stays where it is. -/
theorem past_nil (cursor : Cursor) : cursor.past [] cursor.rest = cursor := rfl

/-- The column grows, so that a cursor that has left the front of its line does not come back to
it. -/
theorem column_past_pos {cursor : Cursor} (h : 0 < cursor.column) (taken rest : List Char) :
    0 < (cursor.past taken rest).column :=
  Nat.add_pos_left h _

/-- The bound of a cursor stays the same when characters are passed. -/
@[simp] theorem bound_advance (cursor : Cursor) (count : Nat) :
    (cursor.advance count).bound = cursor.bound := rfl

/-- Characters at the front are passed by their number, if none of them ends the line. -/
theorem advance_length {cursor : Cursor} {taken rest : List Char}
    (h : cursor.rest = taken ++ rest) : cursor.advance taken.length = cursor.past taken rest := by
  simp [advance, past, h]

/-- The character at the front is passed, if it does not end the line. -/
theorem advance_one {cursor : Cursor} {c : Char} {rest : List Char} (h : cursor.rest = c :: rest) :
    cursor.advance 1 = cursor.past [c] rest :=
  advance_length (show cursor.rest = [c] ++ rest from h)

/-- A marker of a document stands at the beginning of a line, so that there is none behind it. -/
theorem atDocumentMarker_eq_false {cursor : Cursor} (h : 0 < cursor.column) :
    cursor.atDocumentMarker = false := by
  simp [atDocumentMarker, atMarker, Nat.ne_of_gt h]

/-- No marker begins with another character than its own. -/
theorem atMarker_eq_false {cursor : Cursor} {c mark : Char} {rest : List Char}
    (h : cursor.rest = c :: rest) (hne : c ≠ mark) : cursor.atMarker mark = false := by
  rw [atMarker, h]
  split
  next hsame =>
    cases hsame
    simp [hne]
  next => exact Bool.and_false _

end Cursor

end Cursors

section Escapes

/-- The four digits of a control stand for it, as it is escaped in a text. -/
theorem codePoint?_control {c : Char} (hcontrol : c.toNat < 32) (rest : List Char) :
    codePoint? 4 ('0' :: '0' :: hexDigit (c.toNat / 16) :: hexDigit (c.toNat % 16) :: rest) =
      some c := by
  have hhigh := hexValue?_hexDigit (c.toNat / 16) (by omega)
  have hlow := hexValue?_hexDigit (c.toNat % 16) (by omega)
  have hzero : hexValue? '0' = some 0 := by decide
  have hvalue : radixNumber? 16 0
      ['0', '0', hexDigit (c.toNat / 16), hexDigit (c.toNat % 16)] = some c.toNat := by
    have hdigits : c.toNat / 16 * 16 + c.toNat % 16 = c.toNat := by omega
    have hlt : c.toNat / 16 < 16 := by omega
    simp [radixNumber?, hzero, hhigh, hlow, hlt, Nat.mod_lt, hdigits]
  have hsmall : ¬ ((0xD800 ≤ c.toNat ∧ c.toNat ≤ 0xDFFF) ∨ 0x10FFFF < c.toNat) := by omega
  simp [codePoint?, hvalue, hsmall]

/-- How a character is written: as itself, or as an escape that stands for it. -/
inductive Stands (c : Char) : List Char → Prop
  | itself (hquote : c ≠ '"') (hslash : c ≠ '\\') (hvisible : 32 ≤ c.toNat) : Stands c [c]
  | escaped {d : Char} {code : List Char} (hbreak : isBreak d = false)
      (hescape : ∀ rest, escape? (d :: (code ++ rest)) = some (c, code.length + 1)) :
      Stands c ('\\' :: d :: code)

/-- A written character stands for the character, whether it is written as itself or escaped. -/
theorem stands_writtenChar (c : Char) : Stands c (writtenChar c) := by
  unfold writtenChar
  split
  next h => exact .escaped rfl fun rest => by rw [h]; rfl
  split
  next h => exact .escaped rfl fun rest => by rw [h]; rfl
  split
  next h => exact .escaped rfl fun rest => by rw [h]; rfl
  split
  next h => exact .escaped rfl fun rest => by rw [h]; rfl
  split
  next h => exact .escaped rfl fun rest => by rw [h]; rfl
  split
  next h => exact .escaped rfl fun rest => by rw [h]; rfl
  split
  next h => exact .escaped rfl fun rest => by rw [h]; rfl
  split
  next hcontrol =>
    refine .escaped rfl fun rest => ?_
    simp [escape?, codePoint?_control hcontrol]
  next hquote hslash _ _ _ _ _ hcontrol => exact .itself hquote hslash (Nat.le_of_not_lt hcontrol)

end Escapes

section Words

/-- A visible common character ends no line; the separators of lines are not common. -/
theorem IsCommon.isBreak_eq_false {c : Char} (hcommon : IsCommon c) (hvisible : 32 ≤ c.toNat) :
    isBreak c = false := by
  refine Bool.eq_false_iff.mpr fun hbreak => ?_
  simp only [isBreak, Bool.or_eq_true, decide_eq_true_eq] at hbreak
  rcases hbreak with (((rfl | rfl) | rfl) | rfl) | rfl <;> revert hcommon hvisible <;> decide

/-- A visible character other than a space is no blank, and so belongs to a word. -/
theorem isBlank_eq_false {c : Char} (hspace : c ≠ ' ') (hvisible : 32 ≤ c.toNat) :
    isBlank c = false := by
  refine Bool.eq_false_iff.mpr fun hblank => ?_
  simp only [isBlank, Bool.or_eq_true, decide_eq_true_eq] at hblank
  rcases hblank with rfl | rfl
  · exact hspace rfl
  · revert hvisible
    decide

/-- One written character of a word is read as the character, and the word goes on behind it. -/
theorem doubleWord?_stands {c : Char} {code rest : List Char} {cursor : Cursor} (fuel : Nat)
    (text : List Char) (hstands : Stands c code) (hcommon : IsCommon c) (hspace : c ≠ ' ')
    (hcursor : cursor.rest = code ++ rest) :
    doubleWord? (fuel + 1) text cursor = doubleWord? fuel (c :: text) (cursor.past code rest) := by
  cases hstands with
  | itself hquote hslash hvisible =>
    have hrest : cursor.rest = c :: rest := hcursor
    simp [doubleWord?, hrest, isBlank_eq_false hspace hvisible, hcommon.isBreak_eq_false hvisible,
      hquote, hslash, Cursor.advance_one hrest]
  | @escaped d code hbreak hescape =>
    have hrest : cursor.rest = '\\' :: d :: (code ++ rest) := hcursor
    have hwidth : cursor.advance (code.length + 1 + 1) = cursor.past ('\\' :: d :: code) rest :=
      Cursor.advance_length hcursor
    have hword : isBlank '\\' = false ∧ isBreak '\\' = false := ⟨rfl, rfl⟩
    simp [doubleWord?, hrest, hword, hescape rest, hwidth, hbreak]

/-- A written word is read as the word, up to the space or the mark behind it. -/
theorem doubleWord?_written {word rest : List Char} {d : Char}
    (hcommon : ∀ c ∈ word, IsCommon c) (hspace : ' ' ∉ word) (hends : d = '"' ∨ d = ' ')
    {fuel : Nat} (hfuel : word.length ≤ fuel) (text : List Char) {cursor : Cursor}
    (hcursor : cursor.rest = word.flatMap writtenChar ++ d :: rest) :
    doubleWord? fuel text cursor =
      some (word.reverse ++ text, cursor.past (word.flatMap writtenChar) (d :: rest)) := by
  induction word generalizing fuel text cursor with
  | nil =>
    have hrest : cursor.rest = d :: rest := hcursor
    have hstay : cursor.past [] (d :: rest) = cursor := hrest ▸ cursor.past_nil
    rw [List.reverse_nil, List.nil_append, List.flatMap_nil, hstay]
    cases fuel with
    | zero => rfl
    | succ fuel =>
      have hend : (isBlank d || isBreak d || decide (d = '"')) = true := by
        rcases hends with rfl | rfl <;> rfl
      rw [doubleWord?, hrest]
      exact if_pos hend
  | cons c word ih =>
    obtain ⟨hfirst, hcommon⟩ := List.forall_mem_cons.mp hcommon
    have hne : c ≠ ' ' := Ne.symm (List.ne_of_not_mem_cons hspace)
    obtain ⟨fuel, rfl⟩ : ∃ n, fuel = n + 1 := ⟨fuel - 1, by simp at hfuel; omega⟩
    rw [List.flatMap_cons, List.append_assoc] at hcursor
    rw [doubleWord?_stands fuel text (stands_writtenChar c) hfirst hne hcursor,
      ih hcommon (List.not_mem_of_not_mem_cons hspace) (Nat.le_of_succ_le_succ hfuel) _ rfl,
      Cursor.past_past]
    simp

end Words

section Gaps

/-- Spaces between two words are kept, all of them, since no line ends among them. -/
theorem Gap.read_spaces (margin : Nat) {count fuel : Nat} {c : Char} {rest : List Char}
    (hblank : isBlank c = false) (hbreak : isBreak c = false) (hfuel : count ≤ fuel)
    (blanks : List Char) {cursor : Cursor}
    (hcursor : cursor.rest = List.replicate count ' ' ++ c :: rest) :
    Gap.read margin fuel ⟨blanks, .none⟩ cursor =
      some (⟨List.replicate count ' ' ++ blanks, .none⟩,
        cursor.past (List.replicate count ' ') (c :: rest)) := by
  induction count generalizing fuel blanks cursor with
  | zero =>
    have hrest : cursor.rest = c :: rest := hcursor
    have hstay : cursor.past [] (c :: rest) = cursor := hrest ▸ cursor.past_nil
    rw [List.replicate_zero, List.nil_append, hstay]
    cases fuel with
    | zero => rfl
    | succ fuel => simp [Gap.read, hrest, hblank, hbreak]
  | succ count ih =>
    obtain ⟨fuel, rfl⟩ : ∃ n, fuel = n + 1 := ⟨fuel - 1, by omega⟩
    have hrest : cursor.rest = ' ' :: (List.replicate count ' ' ++ c :: rest) := hcursor
    have hspace : isBlank ' ' = true := rfl
    have hstep : Gap.read margin (fuel + 1) ⟨blanks, .none⟩ cursor = Gap.read margin fuel
        ⟨' ' :: blanks, .none⟩ (cursor.past [' '] (List.replicate count ' ' ++ c :: rest)) := by
      rw [Gap.read, hrest, ← Cursor.advance_one hrest]
      exact if_pos hspace
    rw [hstep, ih (Nat.le_of_succ_le_succ hfuel) (' ' :: blanks) rfl, Cursor.past_past]
    simp [List.replicate_succ', ← List.replicate_succ]

/-- A text has no space, or a word, spaces and a text that begins with another character. By this
the text is cut as its reader cuts it. -/
theorem splitAtSpaces (cs : List Char) :
    ' ' ∉ cs ∨ ∃ word count later, cs = word ++ (List.replicate (count + 1) ' ' ++ later) ∧
      ' ' ∉ word ∧ later.head? ≠ some ' ' := by
  induction cs with
  | nil => exact .inl List.not_mem_nil
  | cons c cs ih =>
    by_cases hc : c = ' '
    · subst hc
      right
      obtain hnone | ⟨_ | ⟨d, word⟩, count, later, rfl, hword, hlater⟩ := ih
      · exact ⟨[], 0, cs, rfl, List.not_mem_nil, fun h => hnone (List.mem_of_mem_head? h)⟩
      · exact ⟨[], count + 1, later, rfl, List.not_mem_nil, hlater⟩
      · refine ⟨[], 0, _, rfl, List.not_mem_nil, fun h => hword ?_⟩
        exact Option.some.inj h ▸ List.mem_cons_self
    · obtain hnone | ⟨word, count, later, rfl, hword, hlater⟩ := ih
      · exact .inl (List.not_mem_cons_of_ne_of_not_mem (Ne.symm hc) hnone)
      · exact .inr ⟨c :: word, count, later, rfl,
          List.not_mem_cons_of_ne_of_not_mem (Ne.symm hc) hword, hlater⟩

end Gaps

section Scalars

/-- Spaces are written as spaces, so that a gap of a text is a gap of what is written. -/
theorem flatMap_writtenChar_spaces (count : Nat) :
    (List.replicate count ' ').flatMap writtenChar = List.replicate count ' ' := by
  have hspace : writtenChar ' ' = [' '] := rfl
  simp [List.flatMap_replicate, hspace]

/-- A written text that begins with no space begins with neither white space nor a line break, and
no more does the mark behind it. -/
theorem written_begins {cs : List Char} (hcommon : ∀ c ∈ cs, IsCommon c)
    (hhead : cs.head? ≠ some ' ') (rest : List Char) :
    ∃ c tail, cs.flatMap writtenChar ++ '"' :: rest = c :: tail ∧ isBlank c = false ∧
      isBreak c = false := by
  cases cs with
  | nil => exact ⟨'"', rest, rfl, rfl, rfl⟩
  | cons c cs =>
    have hspace : c ≠ ' ' := fun h => hhead (congrArg some h)
    rw [List.flatMap_cons, List.append_assoc]
    have hstands := stands_writtenChar c
    generalize writtenChar c = code at hstands
    cases hstands with
    | itself hquote hslash hvisible =>
      exact ⟨c, _, rfl, isBlank_eq_false hspace hvisible,
        (hcommon c List.mem_cons_self).isBreak_eq_false hvisible⟩
    | escaped hbreak hescape => exact ⟨'\\', _, rfl, rfl, rfl⟩

section Steps

variable {fuel : Nat} {text word rest : List Char} {cursor behind : Cursor}

/-- Behind the last word stands the closing mark, and the scalar ends there. -/
theorem readQuoted?_last (hcolumn : 0 < cursor.column)
    (hword : doubleWord? (fuel + 1) text cursor = some (word, behind))
    (hbehind : behind.rest = '"' :: rest) :
    readQuoted? true (fuel + 1) text cursor = some (word, behind.past ['"'] rest) := by
  simp [readQuoted?, Cursor.atDocumentMarker_eq_false hcolumn, hword, hbehind,
    Cursor.advance_one hbehind]

/-- Behind any other word stands a gap, and the scalar goes on behind it. -/
theorem readQuoted?_gap {gap : Gap} {next : Cursor} (hcolumn : 0 < cursor.column)
    (hword : doubleWord? (fuel + 1) text cursor = some (word, behind))
    (hbehind : behind.rest = ' ' :: rest) (hgap : Gap.read 0 fuel .none behind = some (gap, next)) :
    readQuoted? true (fuel + 1) text cursor =
      readQuoted? true fuel (gap.reversed ++ word) next := by
  simp [readQuoted?, Cursor.atDocumentMarker_eq_false hcolumn, hword, hbehind, hgap]

end Steps

/-- A text as JSON writes it is read as the same text between quotation marks. Each round reads a
word and the gap behind it, so the induction is on the rounds, and what is left of the text is split
at its first spaces. -/
theorem readQuoted?_written {cs rest : List Char} (hcommon : ∀ c ∈ cs, IsCommon c) {fuel : Nat}
    (hfuel : cs.length < fuel) (text : List Char) {cursor : Cursor} (hcolumn : 0 < cursor.column)
    (hcursor : cursor.rest = cs.flatMap writtenChar ++ '"' :: rest) :
    readQuoted? true fuel text cursor =
      some (cs.reverse ++ text, cursor.past (cs.flatMap writtenChar ++ ['"']) rest) := by
  induction fuel generalizing cs text cursor with
  | zero => exact absurd hfuel (Nat.not_lt_zero _)
  | succ fuel ih =>
    obtain hspace | ⟨word, count, later, rfl, hspace, hlater⟩ := splitAtSpaces cs
    · have hword := doubleWord?_written hcommon hspace (.inl rfl) (Nat.le_of_lt hfuel) text hcursor
      rw [readQuoted?_last hcolumn hword rfl, Cursor.past_past]
    · obtain ⟨hfirst, hcommon⟩ := List.forall_mem_append.mp hcommon
      have hcommon := (List.forall_mem_append.mp hcommon).2
      have hlength : word.length + (count + 1 + later.length) < fuel + 1 := by simpa using hfuel
      obtain ⟨c, tail, hbegins, hblank, hbreak⟩ := written_begins hcommon hlater rest
      rw [List.flatMap_append, List.flatMap_append, flatMap_writtenChar_spaces, List.append_assoc,
        List.append_assoc, hbegins] at hcursor
      have hword := doubleWord?_written hfirst hspace (.inr rfl)
        (show word.length ≤ fuel + 1 by omega) text hcursor
      have hspaces : (cursor.past (word.flatMap writtenChar)
        (List.replicate (count + 1) ' ' ++ c :: tail)).rest = _ := rfl
      have hgap := Gap.read_spaces 0 hblank hbreak (show count + 1 ≤ fuel by omega) [] hspaces
      rw [readQuoted?_gap hcolumn hword rfl hgap, ih hcommon (by omega) _
        (Cursor.column_past_pos (Cursor.column_past_pos hcolumn _ _) _ _) hbegins.symm]
      simp [Gap.reversed, Cursor.past_past, flatMap_writtenChar_spaces]

/-- No text is longer than it is written, so that the length of what is written is enough for the
rounds. -/
theorem length_le_flatMap_writtenChar (cs : List Char) :
    cs.length ≤ (cs.flatMap writtenChar).length := by
  induction cs with
  | nil => exact Nat.le_refl _
  | cons c cs ih =>
    have hpos : 0 < (writtenChar c).length := by
      have hstands := stands_writtenChar c
      generalize writtenChar c = code at hstands
      cases hstands <;> exact Nat.succ_pos _
    rw [List.flatMap_cons, List.length_append, List.length_cons]
    omega

/-- A written text is read as the text, its opening mark having been passed. -/
theorem readQuoted?_writtenText {s : String} (hcommon : IsCommonText s) {rest : List Char}
    {cursor : Cursor} (hcursor : cursor.rest = writtenText s ++ rest)
    {fuel : Nat} (hfuel : (writtenText s).length ≤ fuel) :
    readQuoted? true fuel [] (cursor.advance 1) =
      some (s.toList.reverse, cursor.past (writtenText s) rest) := by
  have hbody : cursor.rest = '"' :: (s.toList.flatMap writtenChar ++ '"' :: rest) := by
    rw [hcursor, writtenText, List.cons_append, List.append_assoc]
    rfl
  have hlength := length_le_flatMap_writtenChar s.toList
  have hshort : s.toList.length < fuel := by
    rw [writtenText, List.length_cons, List.length_append] at hfuel
    omega
  rw [Cursor.advance_one hbody, readQuoted?_written hcommon hshort [] (Nat.succ_pos _) rfl,
    Cursor.past_past, List.append_nil]
  rfl

end Scalars

end CaseRouting.Yaml
