import MetricLayer.Calendar.InternetTime
import MetricLayer.Value.Display

/-!
# Values in responses

A value is sent as JSON.  A number that is not finite is sent as null and bytes as the text they
spell in UTF-8.  Dates and the like inside lists and objects are sent as texts, durations in the ISO
form.
-/

namespace MetricLayer.Http

mutual

/-- The value as it is sent, if it can be sent. -/
def payload? : Value → Option Value
  | .float x => some (if x.isFinite then .float x else .null)
  | .bytes bs => (String.fromUTF8? ⟨bs.toArray⟩).map .text
  | .date d => some (.text d.text)
  | .moment m => some (.text m.internetText)
  | .decimal d => some (.text d.text)
  | .duration d => some (.text d.isoText)
  | .list vs => (payloads? vs).map .list
  | .tuple vs => (payloads? vs).map .list
  | .object fs => (payloadFields? fs).map .object
  | v => some v

/-- The values of a list as they are sent. -/
def payloads? : List Value → Option (List Value)
  | [] => some []
  | v :: rest => do return (← payload? v) :: (← payloads? rest)

/-- The fields of an object as they are sent. -/
def payloadFields? : List (String × Value) → Option (List (String × Value))
  | [] => some []
  | (name, v) :: rest => do return (name, ← payload? v) :: (← payloadFields? rest)

end

end MetricLayer.Http
