import CaseRouting.Gateway.CaseData
import CaseRouting.Json.Record
import CaseRouting.Json.Tree
import CaseRouting.Json.Written

/-!
# Case data as JSON

Case data are written with all their fields. When they are read, every field may be missing, an
absent payload being null; of equal keys in the data values the last one wins.
-/

namespace CaseRouting

open Json

/-- The data of a case, with all fields in the order of their declaration. The texts are written in
ascending order of their keys. -/
def CaseData.toJson (case : CaseData) : Json :=
  .object [("instance_id", .text case.instanceId),
    ("data_values", .object (case.dataValues.entries.map fun entry => (entry.1, .text entry.2))),
    ("data", case.data)]

/-- The entry behind a key of a dictionary of texts, added to the entries before it. A key that
comes again replaces the text that it had. -/
def readEntry (key : String) (entries : Dictionary String) : Reader (Dictionary String) :=
  fun cs => do
    let cs ← colon cs
    let (value, cs) ← readText .text cs
    .ok (entries.insert key value, cs)

/-- Reads a dictionary of texts, which is always an object; an entry with any other value is
refused. -/
def readDictionary (depth : Nat) : Reader (Dictionary String) := fun cs =>
  match skipSpace cs with
  | '\x7b' :: rest =>
    match depth with
    | 0 => .error .malformed
    | _ + 1 => objectBody readEntry Dictionary.empty .ok rest
  | cs => refuse .dictionary cs

/-- The fields of case data that have been read. A payload that was null counts as read. -/
structure CaseDraft where
  instanceId : Option String
  dataValues : Option (Dictionary String)
  data : Option Json

namespace CaseDraft

/-- The id of the process instance, a text. It may be left out, but it may not be null. -/
def instanceIdField : RecordField CaseDraft :=
  .of "instance_id" CaseDraft.instanceId
    (fun instanceId draft => { draft with instanceId := some instanceId })
    (fun _ => readText .text) true

/-- The texts set on the case, as one dictionary. It may come once, although its keys may repeat. -/
def dataValuesField : RecordField CaseDraft :=
  .of "data_values" CaseDraft.dataValues
    (fun dataValues draft => { draft with dataValues := some dataValues }) readDictionary true

/-- The payload, a value of any shape that is kept as it is. -/
def dataField : RecordField CaseDraft :=
  .of "data" CaseDraft.data (fun data draft => { draft with data := some data }) readTree true

end CaseDraft

/-- Case data: nothing is required, so that an empty object is a case about which nothing is
known. -/
def CaseData.record : Record CaseDraft CaseData where
  name := "CaseData"
  fields := [CaseDraft.instanceIdField, CaseDraft.dataValuesField, CaseDraft.dataField]
  blank := ⟨none, none, none⟩
  finish draft := .ok ⟨draft.instanceId.getD "", draft.dataValues.getD Dictionary.empty,
    draft.data.getD .null⟩

/-- The case data that a JSON text holds, with nothing but white space around them. -/
def CaseData.ofJsonText (text : String) : Except Error CaseData :=
  readWhole (CaseData.record.read maxDepth) text

end CaseRouting
