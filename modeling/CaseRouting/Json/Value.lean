/-!
# JSON values

A JSON value with the members of an object in a definite order. Numbers are exact integers or
floating-point numbers. Members of an object that is *canonical* stand in ascending order of their
keys, each key once; `insertMember` keeps that order and lets the last of equal keys win.
-/

namespace CaseRouting

/-- A number: an exact integer, or a floating-point number, which a JSON text gives only if it is
finite. -/
inductive Json.Number where
  | integer (n : Int)
  | decimal (x : Float)

/-- A JSON value. In contrast to a text of JSON, it has no white space and its members stand in a
definite order, but a key may still come twice. -/
inductive Json where
  | null
  | boolean (b : Bool)
  | number (n : Json.Number)
  | text (s : String)
  | list (items : List Json)
  | object (members : List (String × Json))
  deriving Inhabited

namespace Json

/-- The largest integer that a text gives exactly; a larger one is read as a floating-point
number. -/
def maxInteger : Nat := 0xFFFFFFFFFFFFFFFF

/-- The magnitude of the smallest integer that a text gives exactly, one more than that of the
largest in as many bits with a sign. -/
def maxNegative : Nat := 0x8000000000000000

/-- A text or nothing, nothing being null. Fields that are never left out are written so. -/
def optionalText : Option String → Json
  | none => .null
  | some s => .text s

/-- A list of texts, as the actions of a task and the flows of a node are written. -/
def texts (ts : List String) : Json := .list (ts.map .text)

/-- The value of the first member with the given key, if the value is an object and has one. -/
def member? (key : String) : Json → Option Json
  | .object members => members.lookup key
  | _ => none

/-- The text, if the value is one; a number or a boolean is none. -/
def text? : Json → Option String
  | .text s => some s
  | _ => none

/-- Puts a member into a list that ascends by key; an equal key gets the new value. -/
def insertMember {α : Type} (key : String) (value : α) :
    List (String × α) → List (String × α)
  | [] => [(key, value)]
  | (k, v) :: rest =>
    if key < k then (key, value) :: (k, v) :: rest
    else if key = k then (key, value) :: rest
    else (k, v) :: insertMember key value rest

end Json

end CaseRouting
