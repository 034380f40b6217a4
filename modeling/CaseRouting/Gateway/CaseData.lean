import CaseRouting.Gateway.Dictionary

/-!
# Case data

What is known about the case that is being routed. A navigation hands it to gateway filters and
does not look into it.
-/

namespace CaseRouting

/-- The data of a case. Only filters read them, so that a process without filters is navigated alike
for every case. -/
structure CaseData where
  /-- The id of the process instance. -/
  instanceId : String
  /-- Texts set on the case, such as choices made in a form. -/
  dataValues : Dictionary String
  /-- Any further payload. -/
  data : Json

namespace CaseData

/-- A case about which nothing is known: its instance has the empty id, no texts are set on it and
its payload is null. -/
def blank : CaseData := ⟨"", Dictionary.empty, .null⟩

/-- A case of which only the id of its instance is known. Texts and a payload may be added to it
step by step. -/
def ofInstance (instanceId : String) : CaseData := { blank with instanceId := instanceId }

/-- Sets a text on the case, in place of the one that the key had before. -/
def withValue (case : CaseData) (key value : String) : CaseData :=
  { case with dataValues := case.dataValues.insert key value }

/-- Replaces the payload, whatever its shape; what was there before is dropped and not merged. -/
def withData (case : CaseData) (data : Json) : CaseData := { case with data := data }

/-- The text set on the case under a key, if there is one. Keys are compared letter by letter. -/
def dataValue? (case : CaseData) (key : String) : Option String := case.dataValues.get? key

end CaseData

end CaseRouting
