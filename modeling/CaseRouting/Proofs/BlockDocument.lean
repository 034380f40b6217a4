import CaseRouting.Proofs.BlockTokens
import CaseRouting.Proofs.FlowDocument

/-!
# The document of a value in blocks

The tokens of a value in blocks are parsed to the node that has its shape, in which all scalars are
plain, just as the tokens between brackets are.
-/

namespace CaseRouting.Yaml

namespace Grammar

section Nodes

/-- The tokens of a value in blocks begin a node, so that none of its parts is taken to be
omitted. -/
theorem exists_blockTokens (v : Json) :
    ∃ token tokens, blockTokens v = token :: tokens ∧ beginsNode token = true := by
  cases v with
  | _ => exact ⟨_, _, rfl, rfl⟩

/-- The node of a value is parsed from its tokens wherever blocks may stand, if there is fuel for
them. -/
def IsBlockParsed (v : Json) : Prop :=
  ∀ fuel place, place ≠ .flow → (blockTokens v).length ≤ fuel →
    Parses (node fuel place) (blockTokens v) (nodeOf .plain v)

variable {inner fuel : Nat}

/-- The items of a list are parsed, each behind its hyphen, and the end of their block. -/
theorem parses_blockItems {items : List Json} (hitems : ∀ item ∈ items, IsBlockParsed item)
    (hinner : (entryTokens items).length < inner) (hfuel : (entryTokens items).length < fuel) :
    Parses (blockItems (node inner) fuel) (entryTokens items ++ [.blockEnd])
      (itemsOf .plain items) := by
  induction items generalizing fuel with
  | nil =>
    obtain ⟨fuel, rfl⟩ : ∃ n, fuel = n + 1 := ⟨fuel - 1, (Nat.sub_add_cancel hfuel).symm⟩
    exact .accept_other (by decide) (.expect (parses_pure []))
  | cons item items ih =>
    obtain ⟨hitem, hitems⟩ := List.forall_mem_cons.mp hitems
    obtain ⟨token, tokens, htokens, hbegins⟩ := exists_blockTokens item
    rw [entryTokens, List.length_cons, List.length_append] at hinner hfuel
    obtain ⟨fuel, rfl⟩ : ∃ n, fuel = n + 1 := ⟨fuel - 1, by omega⟩
    have hnode := hitem inner .block (by decide) (by omega)
    have hmore := ih hitems (by omega) (show (entryTokens items).length < fuel by omega)
    have hends : token ∉ [Token.blockEntry, Token.blockEnd] := by
      simp [ne_of_beginsNode hbegins (show beginsNode .blockEntry = false from rfl),
        ne_of_beginsNode hbegins (show beginsNode .blockEnd = false from rfl)]
    rw [htokens] at hnode
    rw [entryTokens, itemsOf, htokens, List.cons_append, List.append_assoc]
    exact .accept (.nodeBefore hends hnode (hmore.last (parses_pure _)))

/-- The members of an object are parsed, each key with its value, and the end of their block. -/
theorem parses_blockEntries {members : List (String × Json)}
    (hvalues : ∀ m ∈ members, IsBlockParsed m.2)
    (hinner : (keyTokens members).length < inner) (hfuel : (keyTokens members).length < fuel) :
    Parses (blockEntries (node inner) fuel) (keyTokens members ++ [.blockEnd])
      (entriesOf .plain members) := by
  induction members generalizing fuel with
  | nil =>
    obtain ⟨fuel, rfl⟩ : ∃ n, fuel = n + 1 := ⟨fuel - 1, (Nat.sub_add_cancel hfuel).symm⟩
    exact .accept_other (by decide) (.expect (parses_pure []))
  | cons m members ih =>
    obtain ⟨hvalue, hvalues⟩ := List.forall_mem_cons.mp hvalues
    obtain ⟨token, tokens, htokens, hbegins⟩ := exists_blockTokens m.2
    simp only [keyTokens, List.length_cons, List.length_append] at hinner hfuel
    obtain ⟨fuel, rfl⟩ : ∃ n, fuel = n + 1 := ⟨fuel - 1, by omega⟩
    have hkey : Parses (node inner .member) [.scalar .plain m.1.toList] _ :=
      parses_scalar .plain m.1.toList (by omega)
    have hnode := hvalue inner .member (by decide) (by omega)
    have hmore := ih hvalues (by omega) (show (keyTokens members).length < fuel by omega)
    have hends : token ∉ [Token.key, Token.value, Token.blockEnd] := by
      simp [ne_of_beginsNode hbegins (show beginsNode .key = false from rfl),
        ne_of_beginsNode hbegins (show beginsNode .value = false from rfl),
        ne_of_beginsNode hbegins (show beginsNode .blockEnd = false from rfl)]
    rw [htokens] at hnode
    rw [keyTokens, entriesOf, htokens]
    simp only [List.cons_append, List.append_assoc]
    exact .accept (.nodeBefore (by simp) hkey
      (.valueBefore hends hnode (hmore.last (parses_pure _))))

/-- Every value in blocks is parsed from its tokens, by induction on the values within it. -/
theorem isBlockParsed (v : Json) : IsBlockParsed v := by
  induction v using Json.induction with
  | list items ih =>
    intro fuel place hplace hfuel
    simp only [blockTokens, List.length_cons, List.length_append] at hfuel
    obtain ⟨fuel, rfl⟩ : ∃ n, fuel = n + 1 := ⟨fuel - 1, by omega⟩
    have hitems := parses_blockItems ih (show _ < fuel by omega) (show _ < fuel by omega)
    rw [blockTokens, nodeOf]
    refine .node rfl (.next ?_)
    dsimp only
    rw [if_neg (by simp), if_pos ⟨rfl, hplace⟩]
    exact .skip (hitems.last (parses_pure _))
  | object members ih =>
    intro fuel place hplace hfuel
    simp only [blockTokens, List.length_cons, List.length_append] at hfuel
    obtain ⟨fuel, rfl⟩ : ∃ n, fuel = n + 1 := ⟨fuel - 1, by omega⟩
    have hmembers := parses_blockEntries ih (show _ < fuel by omega) (show _ < fuel by omega)
    rw [blockTokens, nodeOf]
    refine .node rfl (.next ?_)
    dsimp only
    rw [if_neg (by simp), if_neg (by simp), if_pos ⟨rfl, hplace⟩]
    exact .skip (hmembers.last (parses_pure _))
  | boolean b =>
    intro fuel place _ hfuel
    cases b <;> exact parses_scalar _ _ hfuel
  | _ =>
    intro fuel place _ hfuel
    exact parses_scalar _ _ hfuel

end Nodes

end Grammar

/-- The text of an object in blocks is a document whose node has the shape of the object, with plain
texts. -/
theorem Node.ofText?_blockText {members : List (String × Json)} (h : Blocky (.object members)) :
    Node.ofText? (blockText 0 (.object members)) = some (nodeOf .plain (.object members)) := by
  have htokens := Lexer.tokens?_blockText h
  have hparses := fun fuel => Grammar.isBlockParsed (.object members) fuel .block (by decide)
  rw [blockTokens] at htokens hparses
  exact Node.ofText?_of_parses htokens rfl hparses

end CaseRouting.Yaml
