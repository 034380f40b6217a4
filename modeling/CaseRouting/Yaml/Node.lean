import CaseRouting.Yaml.Token

/-!
# Documents of YAML

The tree of a document. An alias stands for the node that carries its mark; should several nodes
carry one mark, it stands for the one that begins last. What an alias stands for need not end before
the alias: it may be a node around it.
-/

namespace CaseRouting.Yaml

/-- What may be written in front of a node: an anchor, of which only a mark is kept, and a tag. -/
structure Properties where
  /-- The mark under which aliases refer to the node. -/
  mark : Option Nat
  /-- The tag, its handle expanded. -/
  tag : Option (List Char)
  deriving DecidableEq, Repr

/-- Nothing in front of a node, which is the most frequent case. -/
def Properties.absent : Properties := ⟨none, none⟩

/-- A node of a document. A scalar is kept as its text and its style, for what it means depends on
where it is decoded. -/
inductive Node where
  | alias (mark : Nat)
  | scalar (properties : Properties) (style : Style) (text : List Char)
  | sequence (properties : Properties) (items : List Node)
  /-- The keys with their values, in the order of the text; keys may repeat. -/
  | mapping (properties : Properties) (entries : List (Node × Node))

/-- A node that has been left out, which is an empty plain scalar in every respect. -/
def Node.omitted : Node := .scalar .absent .plain []

mutual

/-- The size of a node: one for a scalar or an alias, two for the ends of anything else. -/
def Node.size : Node → Nat
  | .alias _ => 1
  | .scalar _ _ _ => 1
  | .sequence _ items => sizeOfItems items + 2
  | .mapping _ entries => sizeOfEntries entries + 2

/-- The size of the items of a sequence, without the two ends of the sequence itself. -/
def sizeOfItems : List Node → Nat
  | [] => 0
  | item :: items => item.size + sizeOfItems items

/-- The size of the keys and values of a mapping, without its two ends. -/
def sizeOfEntries : List (Node × Node) → Nat
  | [] => 0
  | (key, value) :: entries => key.size + value.size + sizeOfEntries entries

end

/-- A node with its own mark, if it has one, as a list of at most one entry. -/
def markedBy (properties : Properties) (node : Node) : List (Nat × Node) :=
  match properties.mark with
  | some mark => [(mark, node)]
  | none => []

mutual

/-- All nodes that carry a mark, with their marks, in the order in which they begin. -/
def Node.marked : Node → List (Nat × Node)
  | .alias _ => []
  | .scalar properties style text => markedBy properties (.scalar properties style text)
  | .sequence properties items =>
    markedBy properties (.sequence properties items) ++ markedItems items
  | .mapping properties entries =>
    markedBy properties (.mapping properties entries) ++ markedEntries entries

/-- The marked nodes among the items of a sequence, in the order of the text. -/
def markedItems : List Node → List (Nat × Node)
  | [] => []
  | item :: items => item.marked ++ markedItems items

/-- The marked nodes among the keys and values of a mapping, each key before its value. -/
def markedEntries : List (Node × Node) → List (Nat × Node)
  | [] => []
  | (key, value) :: entries => key.marked ++ (value.marked ++ markedEntries entries)

end

/-- What aliases stand for: nodes by their marks, of which the first entry for a mark counts. -/
abbrev AliasTable := List (Nat × Node)

/-- The table of a document, in which the node that begins last comes first. -/
def Node.aliasTable (root : Node) : AliasTable := root.marked.reverse

end CaseRouting.Yaml
