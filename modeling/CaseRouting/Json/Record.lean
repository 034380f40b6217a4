import CaseRouting.Json.Scalar
import CaseRouting.Json.Skipped

/-!
# Reading records

A record is written as an object with one member per field, in any order, or as the list of its
fields in the order of their declaration. Fields are read in the order of the text. In an object a
field that comes a second time is refused at its key, members with other names are skipped, and
what is missing is found out at the end. In a list, only fields that have a default may be left off
the end.

The fields read so far are kept in a *draft*; a record is described by how each field goes into the
draft and by how the finished draft becomes the record.
-/

namespace CaseRouting.Json

/-- One field of a record whose drafts have type `δ`. All that reading needs to know of a field
stands here, so that records differ only in the fields they list. -/
structure RecordField (δ : Type) where
  /-- The name of the member. -/
  name : String
  /-- Whether the field has been read already. -/
  isRead : δ → Bool
  /-- Reads the value into the draft; at most so many brackets may be opened. -/
  read : Nat → δ → Reader δ
  /-- Whether a list may end in front of the field. -/
  mayEndBefore : Bool

/-- A field whose value is read by itself and then put into the draft. -/
def RecordField.of {δ β : Type} (name : String) (get : δ → Option β) (put : β → δ → δ)
    (value : Nat → Reader β) (mayEndBefore : Bool) : RecordField δ where
  name := name
  isRead draft := (get draft).isSome
  read depth draft cs := do
    let (v, cs) ← value depth cs
    .ok (put v draft, cs)
  mayEndBefore := mayEndBefore

/-- A record read as the value of type `α`. What it is called, which fields it has and how a draft
becomes the record are its parts, and reading is one function for all records. -/
structure Record (δ α : Type) where
  /-- The name of the record in messages. -/
  name : String
  /-- The fields in the order of their declaration. -/
  fields : List (RecordField δ)
  /-- The draft in which nothing has been read. -/
  blank : δ
  /-- The record, once all of the text has been read; reports the first missing field. -/
  finish : δ → Except Mismatch α

/-- Reads a member behind its key: a field into the draft, unless it has been read already, and a
member with any other name as `other` does. -/
def fieldMember {δ : Type} (fields : List (RecordField δ)) (other : String → δ → Reader δ)
    (depth : Nat) (key : String) (draft : δ) : Reader δ := fun cs =>
  match fields.find? fun field => field.name = key with
  | some field =>
    if field.isRead draft then .error (.mismatch (.duplicateField key))
    else do
      let cs ← colon cs
      field.read depth draft cs
  | none => other key draft cs

/-- Skips a member behind its key. Its value must be well formed, and nothing else is asked of
it. -/
def skipMember {δ : Type} (_key : String) (draft : δ) : Reader δ := fun cs => do
  let cs ← colon cs
  let cs ← skipValue cs
  .ok (draft, cs)

/-- The members of an object up to its closing brace, each handed over behind its key. Every member
takes at least one character, so that the length of the text bounds their number. -/
def members {δ : Type} (member : String → δ → Reader δ) : Nat → Bool → δ → Reader δ
  | 0, _, _, _ => .error .malformed
  | fuel + 1, first, draft, cs => do
    match ← nextKey first cs with
    | none => .ok (draft, cs)
    | some keyChars =>
      let (key, cs) ← stringBody keyChars
      let (draft, cs) ← member key draft cs
      members member fuel false draft cs

/-- A finished draft as the result of reading; a field that is missing makes the text one of another
shape. -/
def finished {α : Type} : Except Mismatch α → Except Error α
  | .ok a => .ok a
  | .error m => .error (.mismatch m)

/-- An object behind its opening brace, read into a draft and finished in front of its closing
brace. -/
def objectBody {δ α : Type} (member : String → δ → Reader δ) (blank : δ)
    (finish : δ → Except Mismatch α) : Reader α := fun cs => do
  let (draft, cs) ← members member (cs.length + 1) true blank cs
  let a ← finished (finish draft)
  let cs ← closeObject cs
  .ok (a, cs)

/-- Fields written as a list, from the field with the given index on. Where the list ends, all
fields that are left must be such that it may end before them. -/
def listedFields {δ : Type} (record : String) (count depth : Nat) :
    List (RecordField δ) → Nat → Bool → δ → Reader δ
  | [], _, _, draft, cs => .ok (draft, cs)
  | field :: fields, index, first, draft, cs => do
    match ← nextElement first cs with
    | none =>
      if field.mayEndBefore then
        listedFields record count depth fields (index + 1) first draft cs
      else .error (.mismatch (.tooShort index record count))
    | some element =>
      let (draft, cs) ← field.read depth draft element
      listedFields record count depth fields (index + 1) false draft cs

/-- Reads a record; at most `depth` brackets may be opened. -/
def Record.read {δ α : Type} (record : Record δ α) (depth : Nat) : Reader α := fun cs =>
  match skipSpace cs with
  | '[' :: rest =>
    match depth with
    | 0 => .error .malformed
    | depth + 1 => do
      let (draft, rest) ←
        listedFields record.name record.fields.length depth record.fields 0 true record.blank rest
      let a ← finished (record.finish draft)
      let rest ← closeList rest
      .ok (a, rest)
  | '\x7b' :: rest =>
    match depth with
    | 0 => .error .malformed
    | depth + 1 =>
      objectBody (fieldMember record.fields skipMember depth) record.blank record.finish rest
  | cs => refuse (.record record.name) cs

/-- The value of a field that must be there, or the error that names it. -/
def required {α : Type} (field : String) : Option α → Except Mismatch α
  | some a => .ok a
  | none => .error (.missingField field)

end CaseRouting.Json
