import CaseRouting.Proofs.FlowTokens
import CaseRouting.Proofs.JsonGrammar
import CaseRouting.Yaml.Node.Grammar

/-!
# The document of a written value

The tokens of a value are parsed to the node that has its shape, without anchors, tags or aliases.
What a part of the grammar does is said by the tokens it takes: it takes them whatever stands behind
them and looks at nothing else.
-/

namespace CaseRouting.Yaml

mutual

/-- The node with the shape of a value, in which texts are scalars of one style and everything else
is plain. -/
def nodeOf (style : Style) : Json → Node
  | .null => .scalar .absent .plain ['n', 'u', 'l', 'l']
  | .boolean true => .scalar .absent .plain ['t', 'r', 'u', 'e']
  | .boolean false => .scalar .absent .plain ['f', 'a', 'l', 's', 'e']
  | .number n => .scalar .absent .plain n.written
  | .text s => .scalar .absent style s.toList
  | .list items => .sequence .absent (itemsOf style items)
  | .object members => .mapping .absent (entriesOf style members)

/-- The nodes of the elements of a list, in their order. -/
def itemsOf (style : Style) : List Json → List Node
  | [] => []
  | item :: rest => nodeOf style item :: itemsOf style rest

/-- The nodes of the members of an object, each key with its value. -/
def entriesOf (style : Style) : List (String × Json) → List (Node × Node)
  | [] => []
  | (key, value) :: rest =>
    (.scalar .absent style key.toList, nodeOf style value) :: entriesOf style rest

end

namespace Grammar

/-- The grammar takes exactly these tokens, whatever stands behind them, and gives the result. -/
def Parses {α : Type} (g : Grammar α) (tokens : List Token) (a : α) : Prop :=
  ∀ rest handles anchors,
    g.run ⟨tokens ++ rest, handles, anchors⟩ = some (a, ⟨rest, handles, anchors⟩)

section Calculus

variable {α β : Type} {a : α} {b : β} {token : Token} {tokens : List Token}

/-- A result takes no tokens. -/
theorem parses_pure (a : α) : Parses (pure a) [] a := fun _ _ _ => rfl

/-- One part takes its tokens in front of those of the next, which may depend on its result. -/
theorem Parses.bind {g : Grammar α} {k : α → Grammar β} {more : List Token}
    (hg : Parses g tokens a) (hk : Parses (k a) more b) : Parses (g >>= k) (tokens ++ more) b := by
  intro rest handles anchors
  rw [StateT.run_bind, List.append_assoc, hg]
  exact hk rest handles anchors

/-- One part takes all the tokens, if what follows takes none. -/
theorem Parses.last {g : Grammar α} {k : α → Grammar β}
    (hg : Parses g tokens a) (hk : Parses (k a) [] b) : Parses (g >>= k) tokens b :=
  List.append_nil tokens ▸ hg.bind hk

/-- Looking at the next token takes nothing. -/
theorem Parses.next {k : Token → Grammar β} (hk : Parses (k token) (token :: tokens) b) :
    Parses (next >>= k) (token :: tokens) b := hk

/-- Dropping the next token takes it, whatever it is. -/
theorem Parses.skip {k : Unit → Grammar β} (hk : Parses (k ()) tokens b) :
    Parses (skip >>= k) (token :: tokens) b := hk

/-- The next token is taken if it is the one that is accepted, and left otherwise. -/
theorem run_accept (other : Token) (rest : List Token) (handles : List (List Char × List Char))
    (anchors : List (List Char × Nat)) :
    (accept other).run ⟨token :: rest, handles, anchors⟩ =
      if token = other then some (true, ⟨rest, handles, anchors⟩)
      else some (false, ⟨token :: rest, handles, anchors⟩) := by
  change StateT.run (if token = other then _ else _) _ = _
  split <;> rfl

/-- The token that is accepted is taken when it comes next. -/
theorem Parses.accept {k : Bool → Grammar β} (hk : Parses (k true) tokens b) :
    Parses (accept token >>= k) (token :: tokens) b := by
  intro rest handles anchors
  rw [StateT.run_bind, List.cons_append, run_accept, if_pos rfl]
  exact hk rest handles anchors

/-- Any other token is left when it comes next. -/
theorem Parses.accept_other {k : Bool → Grammar β} {other : Token} (hne : token ≠ other)
    (hk : Parses (k false) (token :: tokens) b) :
    Parses (Grammar.accept other >>= k) (token :: tokens) b := by
  intro rest handles anchors
  rw [StateT.run_bind, List.cons_append, run_accept, if_neg hne]
  exact hk rest handles anchors

/-- The token that is expected is taken when it comes next. -/
theorem Parses.expect {k : Unit → Grammar β} (hk : Parses (k ()) tokens b) :
    Parses (expect token >>= k) (token :: tokens) b := by
  intro rest handles anchors
  rw [StateT.run_bind, Grammar.expect, StateT.run_bind, List.cons_append, run_accept, if_pos rfl]
  exact hk rest handles anchors

/-- Where none of the tokens that tell of an omission comes next, the node is parsed. -/
theorem Parses.nodeBefore {k : Node → Grammar β} {ends : List Token} {node : Grammar Node}
    {more : List Token} {n : Node} (hends : token ∉ ends) (hnode : Parses node (token :: tokens) n)
    (hk : Parses (k n) more b) :
    Parses (nodeBefore ends node >>= k) (token :: tokens ++ more) b := by
  refine .bind (.next ?_) hk
  rwa [if_neg hends]

/-- A value stands behind a colon and is parsed, unless a token tells of its omission. -/
theorem Parses.valueBefore {k : Node → Grammar β} {ends : List Token} {node : Grammar Node}
    {more : List Token} {n : Node} (hends : token ∉ ends) (hnode : Parses node (token :: tokens) n)
    (hk : Parses (k n) more b) :
    Parses (valueBefore ends node >>= k) (.value :: (token :: tokens ++ more)) b := by
  rw [Grammar.valueBefore, bind_assoc]
  exact .accept (.nodeBefore hends hnode hk)

/-- The first part begins with a token that closes nothing, without a comma in front. -/
theorem Parses.anotherBefore_first {k : Bool → Grammar β} {close : Token} (hne : token ≠ close)
    (hk : Parses (k true) (token :: tokens) b) :
    Parses (anotherBefore close true >>= k) (token :: tokens) b := by
  rw [anotherBefore, bind_assoc]
  exact .accept_other hne hk

/-- A further part stands behind a comma, which is taken. -/
theorem Parses.anotherBefore_further {k : Bool → Grammar β} {close : Token}
    (hcomma : .flowEntry ≠ close) (hne : token ≠ close)
    (hk : Parses (k true) (token :: tokens) b) :
    Parses (anotherBefore close false >>= k) (.flowEntry :: token :: tokens) b := by
  rw [anotherBefore, bind_assoc]
  refine .accept_other hcomma ?_
  simp only [Bool.false_eq_true, if_false, bind_assoc]
  exact .expect (.accept_other hne hk)

/-- There is no other part in front of the closing bracket, which is taken. -/
theorem Parses.anotherBefore_close {k : Bool → Grammar β} {close : Token} {first : Bool}
    (hk : Parses (k false) tokens b) :
    Parses (anotherBefore close first >>= k) (close :: tokens) b := by
  rw [anotherBefore, bind_assoc]
  exact .accept hk

/-- Whether a token begins a node that has neither an anchor nor a tag. -/
def beginsNode : Token → Bool
  | .scalar _ _ => true
  | .flowSequenceStart => true
  | .flowMappingStart => true
  | .blockSequenceStart => true
  | .blockMappingStart => true
  | _ => false

/-- Such a token is none of those that do not begin a node. -/
theorem ne_of_beginsNode {token other : Token} (h : beginsNode token = true)
    (hother : beginsNode other = false) : token ≠ other :=
  fun hsame => Bool.false_ne_true (hother.symm.trans (hsame ▸ h))

/-- Where such a token comes next, a node is its content without properties. -/
theorem Parses.node {fuel : Nat} {place : Place} {n : Node} (htoken : beginsNode token = true)
    (h : Parses (content (node fuel) fuel place .absent) (token :: tokens) n) :
    Parses (node (fuel + 1) place) (token :: tokens) n := by
  intro rest handles anchors
  have hcontent := h rest handles anchors
  cases token with
  | scalar style text => exact hcontent
  | flowSequenceStart => exact hcontent
  | flowMappingStart => exact hcontent
  | blockSequenceStart => exact hcontent
  | blockMappingStart => exact hcontent
  | _ => cases htoken

end Calculus

section Nodes

/-- The tokens of a value begin a node, so that none of its parts is taken to be omitted. -/
theorem exists_flowTokens (v : Json) :
    ∃ token tokens, flowTokens v = token :: tokens ∧ beginsNode token = true := by
  cases v with
  | boolean b => cases b <;> exact ⟨_, _, rfl, rfl⟩
  | _ => exact ⟨_, _, rfl, rfl⟩

/-- The node of a value is parsed from its tokens, wherever it stands, if there is fuel for them. -/
def IsParsed (v : Json) : Prop :=
  ∀ fuel place, (flowTokens v).length ≤ fuel →
    Parses (node fuel place) (flowTokens v) (nodeOf .quoted v)

variable {inner fuel : Nat}

/-- The further elements of a list are parsed, each behind its comma, and the bracket of the
list. -/
theorem parses_moreItems {items : List Json} (hitems : ∀ item ∈ items, IsParsed item)
    (hinner : (moreItemTokens items).length ≤ inner)
    (hfuel : (moreItemTokens items).length ≤ fuel) :
    Parses (flowItems (node inner) fuel false) (moreItemTokens items)
      (itemsOf .quoted items) := by
  induction items generalizing fuel with
  | nil =>
    obtain ⟨fuel, rfl⟩ : ∃ n, fuel = n + 1 := ⟨fuel - 1, (Nat.sub_add_cancel hfuel).symm⟩
    exact .anotherBefore_close (parses_pure [])
  | cons item items ih =>
    obtain ⟨hitem, hitems⟩ := List.forall_mem_cons.mp hitems
    obtain ⟨token, tokens, htokens, hbegins⟩ := exists_flowTokens item
    rw [moreItemTokens, List.length_cons, List.length_append] at hinner hfuel
    obtain ⟨fuel, rfl⟩ : ∃ n, fuel = n + 1 := ⟨fuel - 1, by omega⟩
    have hnode := hitem inner .flow (by omega)
    have hmore := ih hitems (by omega) (show (moreItemTokens items).length ≤ fuel by omega)
    rw [htokens] at hnode
    rw [moreItemTokens, itemsOf, htokens, List.cons_append]
    refine .anotherBefore_further (by decide) (ne_of_beginsNode hbegins rfl) ?_
    exact .accept_other (ne_of_beginsNode hbegins rfl) (hnode.bind (hmore.last (parses_pure _)))

/-- The elements of a list are parsed, and its bracket, whether there are any or none. -/
theorem parses_items {items : List Json} (hitems : ∀ item ∈ items, IsParsed item)
    (hinner : (itemTokens items).length ≤ inner) (hfuel : (itemTokens items).length ≤ fuel) :
    Parses (flowItems (node inner) fuel true) (itemTokens items) (itemsOf .quoted items) := by
  cases items with
  | nil =>
    obtain ⟨fuel, rfl⟩ : ∃ n, fuel = n + 1 := ⟨fuel - 1, (Nat.sub_add_cancel hfuel).symm⟩
    exact .anotherBefore_close (parses_pure [])
  | cons item items =>
    obtain ⟨hitem, hitems⟩ := List.forall_mem_cons.mp hitems
    obtain ⟨token, tokens, htokens, hbegins⟩ := exists_flowTokens item
    rw [itemTokens, List.length_append] at hinner hfuel
    have hpos : 0 < (flowTokens item).length := by simp [htokens]
    obtain ⟨fuel, rfl⟩ : ∃ n, fuel = n + 1 := ⟨fuel - 1, by omega⟩
    have hnode := hitem inner .flow (by omega)
    have hmore := parses_moreItems hitems (show _ ≤ inner by omega) (show _ ≤ fuel by omega)
    rw [htokens] at hnode
    rw [itemTokens, itemsOf, htokens]
    refine .anotherBefore_first (ne_of_beginsNode hbegins rfl) ?_
    exact .accept_other (ne_of_beginsNode hbegins rfl) (hnode.bind (hmore.last (parses_pure _)))

/-- A scalar is parsed from its single token, wherever it stands. -/
theorem parses_scalar (style : Style) (text : List Char) {place : Place} (hfuel : 0 < fuel) :
    Parses (node fuel place) [.scalar style text] (.scalar .absent style text) := by
  obtain ⟨fuel, rfl⟩ : ∃ n, fuel = n + 1 := ⟨fuel - 1, (Nat.sub_add_cancel hfuel).symm⟩
  exact .node rfl (.next (.skip (parses_pure _)))

/-- A key and its value are parsed to the pair of their nodes. -/
theorem parses_entry (key : String) {value : Json} (hvalue : IsParsed value)
    (hinner : (flowTokens value).length ≤ inner) :
    Parses (flowEntry (node inner))
      (.key :: .scalar .quoted key.toList :: .value :: flowTokens value)
      (.scalar .absent .quoted key.toList, nodeOf .quoted value) := by
  obtain ⟨token, tokens, htokens, hbegins⟩ := exists_flowTokens value
  have hends : token ∉ [Token.flowEntry, Token.flowMappingEnd] := by
    simp [ne_of_beginsNode hbegins (show beginsNode .flowEntry = false from rfl),
      ne_of_beginsNode hbegins (show beginsNode .flowMappingEnd = false from rfl)]
  have hpos : 0 < inner := by
    rw [htokens, List.length_cons] at hinner
    omega
  have hnode := hvalue inner .flow hinner
  rw [htokens] at hnode ⊢
  have hlast := Parses.valueBefore
    (k := fun value => pure (Node.scalar .absent .quoted key.toList, value)) hends hnode
    (parses_pure _)
  rw [List.append_nil] at hlast
  exact .accept (.nodeBefore (by simp) (parses_scalar .quoted key.toList hpos) hlast)

/-- The further members of an object are parsed, each behind its comma, and the brace of the
object. -/
theorem parses_moreMembers {members : List (String × Json)}
    (hvalues : ∀ m ∈ members, IsParsed m.2)
    (hinner : (moreMemberTokens members).length ≤ inner)
    (hfuel : (moreMemberTokens members).length ≤ fuel) :
    Parses (flowEntries (node inner) fuel false) (moreMemberTokens members)
      (entriesOf .quoted members) := by
  induction members generalizing fuel with
  | nil =>
    obtain ⟨fuel, rfl⟩ : ∃ n, fuel = n + 1 := ⟨fuel - 1, (Nat.sub_add_cancel hfuel).symm⟩
    exact .anotherBefore_close (parses_pure [])
  | cons m members ih =>
    obtain ⟨hvalue, hvalues⟩ := List.forall_mem_cons.mp hvalues
    simp only [moreMemberTokens, List.length_cons, List.length_append] at hinner hfuel
    obtain ⟨fuel, rfl⟩ : ∃ n, fuel = n + 1 := ⟨fuel - 1, by omega⟩
    have hentry := parses_entry m.1 hvalue (show _ ≤ inner by omega)
    have hmore := ih hvalues (by omega) (show _ ≤ fuel by omega)
    rw [moreMemberTokens]
    exact .anotherBefore_further (by decide) (by decide)
      (hentry.bind (hmore.last (parses_pure _)))

/-- The members of an object are parsed, and its brace, whether there are any or none. -/
theorem parses_members {members : List (String × Json)}
    (hvalues : ∀ m ∈ members, IsParsed m.2) (hinner : (memberTokens members).length ≤ inner)
    (hfuel : (memberTokens members).length ≤ fuel) :
    Parses (flowEntries (node inner) fuel true) (memberTokens members)
      (entriesOf .quoted members) := by
  cases members with
  | nil =>
    obtain ⟨fuel, rfl⟩ : ∃ n, fuel = n + 1 := ⟨fuel - 1, (Nat.sub_add_cancel hfuel).symm⟩
    exact .anotherBefore_close (parses_pure [])
  | cons m members =>
    obtain ⟨hvalue, hvalues⟩ := List.forall_mem_cons.mp hvalues
    simp only [memberTokens, List.length_cons, List.length_append] at hinner hfuel
    obtain ⟨fuel, rfl⟩ : ∃ n, fuel = n + 1 := ⟨fuel - 1, by omega⟩
    have hentry := parses_entry m.1 hvalue (show _ ≤ inner by omega)
    have hmore := parses_moreMembers hvalues (show _ ≤ inner by omega) (show _ ≤ fuel by omega)
    rw [memberTokens]
    exact .anotherBefore_first (by decide) (hentry.bind (hmore.last (parses_pure _)))

/-- Every value is parsed from its tokens, by induction on the values within it. -/
theorem isParsed (v : Json) : IsParsed v := by
  induction v using Json.induction with
  | list items ih =>
    intro fuel place hfuel
    rw [flowTokens, List.length_cons] at hfuel
    obtain ⟨fuel, rfl⟩ : ∃ n, fuel = n + 1 := ⟨fuel - 1, by omega⟩
    have hitems := parses_items ih (show _ ≤ fuel by omega) (show _ ≤ fuel by omega)
    rw [flowTokens, nodeOf]
    exact .node rfl (.next (.skip (hitems.last (parses_pure _))))
  | object members ih =>
    intro fuel place hfuel
    rw [flowTokens, List.length_cons] at hfuel
    obtain ⟨fuel, rfl⟩ : ∃ n, fuel = n + 1 := ⟨fuel - 1, by omega⟩
    have hmembers := parses_members ih (show _ ≤ fuel by omega) (show _ ≤ fuel by omega)
    rw [flowTokens, nodeOf]
    exact .node rfl (.next (.skip (hmembers.last (parses_pure _))))
  | boolean b =>
    intro fuel place hfuel
    cases b <;> exact parses_scalar _ _ hfuel
  | _ =>
    intro fuel place hfuel
    exact parses_scalar _ _ hfuel

end Nodes

end Grammar

/-- A text is a document when its tokens are parsed to the node of the document and begin one. -/
theorem Node.ofText?_of_parses {text : List Char} {token : Token} {tokens : List Token} {n : Node}
    (htokens : tokens? text = some (token :: tokens ++ [.streamEnd]))
    (hbegins : Grammar.beginsNode token = true)
    (hparses : ∀ fuel, (token :: tokens).length ≤ fuel →
      Grammar.Parses (Grammar.node fuel .block) (token :: tokens) n) :
    Node.ofText? text = some n := by
  have hfuel : (token :: tokens).length ≤ (token :: tokens ++ [Token.streamEnd]).length + 1 := by
    rw [List.length_append]
    omega
  have hnode := hparses _ hfuel [.streamEnd] Grammar.builtinHandles []
  have hroot : Grammar.root.run ⟨token :: tokens ++ [.streamEnd], Grammar.builtinHandles, []⟩ =
      some (n, ⟨[.streamEnd], Grammar.builtinHandles, []⟩) := by
    cases token with
    | scalar style text => exact hnode
    | flowSequenceStart => exact hnode
    | flowMappingStart => exact hnode
    | blockSequenceStart => exact hnode
    | blockMappingStart => exact hnode
    | _ => cases hbegins
  have hdocument : Grammar.document.run
      ⟨token :: tokens ++ [.streamEnd], Grammar.builtinHandles, []⟩ =
        some (n, ⟨[], Grammar.builtinHandles, []⟩) := by
    rw [Grammar.document, StateT.run_bind, hroot]
    rfl
  simp only [Node.ofText?, htokens, Option.bind_eq_bind, Option.bind_some, hdocument]
  rfl

/-- The compact text of an object is a document whose node has the shape of the object, with quoted
texts. -/
theorem Node.ofText?_written {members : List (String × Json)} (h : Flowing (.object members)) :
    Node.ofText? (Json.written (.object members)) = some (nodeOf .quoted (.object members)) :=
  Node.ofText?_of_parses (Lexer.tokens?_written h) rfl
    fun fuel hfuel => Grammar.isParsed (.object members) fuel .block hfuel

end CaseRouting.Yaml
