import CaseRouting.Json.Tree
import CaseRouting.Proofs.Numerals

/-!
# What a JSON text says

The grammar of JSON as a relation between values and texts. A value may be spelled in many ways:
white space may stand around every value, key, comma and colon, a character may be written as an
escape or as a pair of escapes, and a number in any form that has its value. A number that is too
large has no value, so that no text with such a number spells anything. The members of an object
stand in the order of the text, and nothing keeps a key from coming twice.
-/

namespace CaseRouting

namespace Json

open Text (hexValue?)

/-- What holds of a list or an object once it holds of all that is in it holds of every value. The
values within stand in lists, so that the induction is stated by membership. -/
@[elab_as_elim]
theorem induction {motive : Json → Prop} (null : motive .null)
    (boolean : ∀ b, motive (.boolean b)) (number : ∀ n, motive (.number n))
    (text : ∀ s, motive (.text s))
    (list : ∀ items, (∀ v ∈ items, motive v) → motive (.list items))
    (object : ∀ members, (∀ m ∈ members, motive m.2) → motive (.object members))
    (v : Json) : motive v :=
  @Json.rec motive (fun items => ∀ v ∈ items, motive v) (fun members => ∀ m ∈ members, motive m.2)
    (fun m => motive m.2) null boolean number text list object (List.forall_mem_nil _)
    (fun _ _ hitem hrest => List.forall_mem_cons.mpr ⟨hitem, hrest⟩) (List.forall_mem_nil _)
    (fun _ _ hmember hrest => List.forall_mem_cons.mpr ⟨hmember, hrest⟩)
    (fun _ _ hvalue => hvalue) v

/-- White space only, of which there may be none: spaces, tabulators and the two characters that end
lines. -/
def Blank (cs : List Char) : Prop := ∀ c ∈ cs, isSpace c = true

/-- Four hexadecimal digits, in either case, spell a number of sixteen bits. -/
inductive SpellsUnit : Nat → List Char → Prop
  | digits {a b c d : Char} {i j k l : Nat} (ha : hexValue? a = some i) (hb : hexValue? b = some j)
      (hc : hexValue? c = some k) (hd : hexValue? d = some l) :
      SpellsUnit (((i * 16 + j) * 16 + k) * 16 + l) [a, b, c, d]

/-- The escapes of two characters: the second one, and the character that the escape stands for. -/
def shortEscapes : List (Char × Char) :=
  [('"', '"'), ('\\', '\\'), ('/', '/'), ('b', '\x08'), ('f', '\x0c'), ('n', '\n'), ('r', '\r'),
    ('t', '\t')]

/-- The ways to write a character between quotation marks: as itself, by a short escape, or by one
or two numbers. -/
inductive SpellsChar : Char → List Char → Prop
  /-- A character that needs no escape. -/
  | plain {c : Char} (hquote : c ≠ '"') (hslash : c ≠ '\\') (hcontrol : 32 ≤ c.toNat) :
      SpellsChar c [c]
  /-- An escape of two characters. -/
  | short {c e : Char} (h : (e, c) ∈ shortEscapes) : SpellsChar c ['\\', e]
  /-- The escape of a character up to U+FFFF. -/
  | unit {c : Char} {cs : List Char} (h : SpellsUnit c.toNat cs) : SpellsChar c ('\\' :: 'u' :: cs)
  /-- A pair of escapes for a character beyond U+FFFF. -/
  | pair {c : Char} {upper lower : Nat} {us ls : List Char}
      (hupper : 0xD800 ≤ upper ∧ upper ≤ 0xDBFF) (hlower : 0xDC00 ≤ lower ∧ lower ≤ 0xDFFF)
      (hc : c.toNat = 0x10000 + (upper - 0xD800) * 0x400 + (lower - 0xDC00))
      (hus : SpellsUnit upper us) (hls : SpellsUnit lower ls) :
      SpellsChar c ('\\' :: 'u' :: (us ++ '\\' :: 'u' :: ls))

/-- The ways to write a text behind its opening quotation mark, character by character, the closing
mark included. -/
inductive SpellsBody : List Char → List Char → Prop
  | close : SpellsBody [] ['"']
  | char {c : Char} {cs us body : List Char} (hc : SpellsChar c us) (hbody : SpellsBody cs body) :
      SpellsBody (c :: cs) (us ++ body)

/-- What stands in front of an element: white space, and for all but the first a comma within it. -/
inductive Gap : Bool → List Char → Prop
  | first {ws : List Char} (hws : Blank ws) : Gap true ws
  | later {ws vs : List Char} (hws : Blank ws) (hvs : Blank vs) : Gap false (ws ++ ',' :: vs)

/-- What stands between a key and its value: a colon, with white space on both sides of it. -/
inductive Join : List Char → Prop
  | colon {ws vs : List Char} (hws : Blank ws) (hvs : Blank vs) : Join (ws ++ ':' :: vs)

mutual

/-- The ways to write a value, without white space around it. A list or an object may have white
space within, also when it is empty. -/
inductive Spells : Json → List Char → Prop
  | null : Spells .null ['n', 'u', 'l', 'l']
  | trueWord : Spells (.boolean true) ['t', 'r', 'u', 'e']
  | falseWord : Spells (.boolean false) ['f', 'a', 'l', 's', 'e']
  | number {p : Numeral} {n : Number} (h : p.value? = some n) : Spells (.number n) p.chars
  | text {s : String} {body : List Char} (h : SpellsBody s.toList body) :
      Spells (.text s) ('"' :: body)
  | list {items : List Json} {body ws : List Char} (h : SpellsItems true items body)
      (hws : Blank ws) : Spells (.list items) ('[' :: (body ++ (ws ++ [']'])))
  | object {members : List (String × Json)} {body ws : List Char}
      (h : SpellsMembers true members body) (hws : Blank ws) :
      Spells (.object members) ('\x7b' :: (body ++ (ws ++ ['\x7d'])))

/-- The ways to write the elements of a list, from the first one or from a later one on; a comma
stands between any two. -/
inductive SpellsItems : Bool → List Json → List Char → Prop
  | nil {first : Bool} : SpellsItems first [] []
  | cons {first : Bool} {gap cs more : List Char} {item : Json} {items : List Json}
      (hgap : Gap first gap) (hitem : Spells item cs) (hmore : SpellsItems false items more) :
      SpellsItems first (item :: items) (gap ++ (cs ++ more))

/-- The ways to write the members of an object, from the first one or from a later one on; each is a
key, a colon and a value. -/
inductive SpellsMembers : Bool → List (String × Json) → List Char → Prop
  | nil {first : Bool} : SpellsMembers first [] []
  | cons {first : Bool} {gap ks join cs more : List Char} {key : String} {value : Json}
      {members : List (String × Json)} (hgap : Gap first gap) (hkey : SpellsBody key.toList ks)
      (hjoin : Join join) (hvalue : Spells value cs) (hmore : SpellsMembers false members more) :
      SpellsMembers first ((key, value) :: members) (gap ++ '"' :: (ks ++ (join ++ (cs ++ more))))

end

/-- A text says a value: it spells the value with white space around it and nothing else. -/
def Says (text : String) (v : Json) : Prop :=
  ∃ ws cs vs, Blank ws ∧ Spells v cs ∧ Blank vs ∧ text.toList = ws ++ (cs ++ vs)

mutual

/-- The value with the members of its objects in ascending order of their keys; of equal keys the
last one counts. This is the value as a tree. -/
def canonical : Json → Json
  | .list items => .list (canonicalItems items)
  | .object members => .object (gather [] members)
  | v => v

/-- The elements of a list, each canonical, in the order of the list. -/
def canonicalItems : List Json → List Json
  | [] => []
  | item :: rest => item.canonical :: canonicalItems rest

/-- Canonical members put into those that have been gathered before, each at the place of its
key. -/
def gather (gathered : List (String × Json)) : List (String × Json) → List (String × Json)
  | [] => gathered
  | (key, value) :: rest => gather (insertMember key value.canonical gathered) rest

end

mutual

/-- The number of brackets that are open at once in a value; none are in a scalar, and an empty list
opens its own. -/
def depth : Json → Nat
  | .list items => depthOfItems items + 1
  | .object members => depthOfMembers members + 1
  | _ => 0

/-- The largest depth among the elements of a list, zero if there are none. -/
def depthOfItems : List Json → Nat
  | [] => 0
  | item :: rest => max item.depth (depthOfItems rest)

/-- The largest depth among the members of an object, zero if there are none. -/
def depthOfMembers : List (String × Json) → Nat
  | [] => 0
  | (_, value) :: rest => max value.depth (depthOfMembers rest)

end

/-- A list is one level deeper than its elements, so that a bound for the list bounds them all. -/
theorem depth_list_le_iff {items : List Json} {n : Nat} :
    depth (.list items) ≤ n + 1 ↔ ∀ v ∈ items, v.depth ≤ n := by
  rw [depth, Nat.add_le_add_iff_right]
  induction items with
  | nil => simp [depthOfItems]
  | cons item rest ih => rw [depthOfItems, Nat.max_le, ih, List.forall_mem_cons]

/-- An object is one level deeper than its members, so that a bound for the object bounds them
all. -/
theorem depth_object_le_iff {members : List (String × Json)} {n : Nat} :
    depth (.object members) ≤ n + 1 ↔ ∀ m ∈ members, m.2.depth ≤ n := by
  rw [depth, Nat.add_le_add_iff_right]
  induction members with
  | nil => simp [depthOfMembers]
  | cons m rest ih =>
    obtain ⟨key, value⟩ := m
    rw [depthOfMembers, Nat.max_le, ih, List.forall_mem_cons]

/-- A value stands somewhere in another one, at any depth, or is that one. -/
inductive Within (w : Json) : Json → Prop
  | self : Within w w
  | item {items : List Json} {v : Json} (hv : v ∈ items) (h : Within w v) : Within w (.list items)
  | member {members : List (String × Json)} {m : String × Json} (hm : m ∈ members)
      (h : Within w m.2) : Within w (.object members)

/-- Only null itself stands in null. -/
@[simp]
theorem within_null {w : Json} : Within w .null ↔ w = .null :=
  ⟨fun h => by cases h; rfl, fun h => h ▸ .self⟩

/-- Only the boolean itself stands in a boolean. -/
@[simp]
theorem within_boolean {w : Json} {b : Bool} : Within w (.boolean b) ↔ w = .boolean b :=
  ⟨fun h => by cases h; rfl, fun h => h ▸ .self⟩

/-- Only the number itself stands in a number. -/
@[simp]
theorem within_number {w : Json} {n : Number} : Within w (.number n) ↔ w = .number n :=
  ⟨fun h => by cases h; rfl, fun h => h ▸ .self⟩

/-- Only the text itself stands in a text. -/
@[simp]
theorem within_text {w : Json} {s : String} : Within w (.text s) ↔ w = .text s :=
  ⟨fun h => by cases h; rfl, fun h => h ▸ .self⟩

/-- In a list stands the list itself, and what stands in its elements. -/
@[simp]
theorem within_list {w : Json} {items : List Json} :
    Within w (.list items) ↔ w = .list items ∨ ∃ v ∈ items, Within w v := by
  constructor
  · intro h
    cases h with
    | self => exact Or.inl rfl
    | item hv h => exact Or.inr ⟨_, hv, h⟩
  · rintro (rfl | ⟨v, hv, h⟩)
    · exact .self
    · exact .item hv h

/-- In an object stands the object itself, and what stands in its members. -/
@[simp]
theorem within_object {w : Json} {members : List (String × Json)} :
    Within w (.object members) ↔ w = .object members ∨ ∃ m ∈ members, Within w m.2 := by
  constructor
  · intro h
    cases h with
    | self => exact Or.inl rfl
    | member hm h => exact Or.inr ⟨_, hm, h⟩
  · rintro (rfl | ⟨m, hm, h⟩)
    · exact .self
    · exact .member hm h

/-- No key comes twice in any object within the value. -/
def DistinctKeys (v : Json) : Prop :=
  ∀ members, Within (.object members) v → (members.map Prod.fst).Nodup

/-- The elements of a list have distinct keys as the list has, for what stands in them stands in the
list. -/
theorem DistinctKeys.item {items : List Json} (h : DistinctKeys (.list items)) {v : Json}
    (hv : v ∈ items) : DistinctKeys v :=
  fun members hmembers => h members (.item hv hmembers)

/-- A text in which a value does not go on: it is at its end, or white space, a comma or a closing
bracket comes next. -/
def Closes (rest : List Char) : Prop :=
  ∀ c ∈ rest.head?, isSpace c = true ∨ c = ',' ∨ c = ']' ∨ c = '\x7d'

end Json

end CaseRouting
