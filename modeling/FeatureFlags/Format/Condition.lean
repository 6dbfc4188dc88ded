import FeatureFlags.Format.Value

namespace FeatureFlags

open Json

namespace ScalarTest

variable [Named ω] [OperandFormat α]

def members (t : ScalarTest ω α) : List (String × Json) :=
  [("propertyId", .string t.propertyId), ("operator", Named.toJson t.operator)] ++
  (if t.operands.isEmpty then []
    else [("operands", .array (t.operands.map OperandFormat.toJson))]) ++
  [("operandsQuantifier", Named.toJson t.operandsQuantifier)]

def record : Record (ScalarTest ω α) :=
  .field "propertyId" Decoder.string none <|
  .field "operator" Named.decoder none <|
  .field "operands" (Decoder.list OperandFormat.decoder) (some []) <|
  .field "operandsQuantifier" Named.decoder (some .some) <|
  .done fun operandsQuantifier operands operator propertyId =>
    { propertyId, operator, operands, operandsQuantifier }

end ScalarTest

namespace ArrayTest

variable [Named ω] [OperandFormat α]

def members (t : ArrayTest ω α) : List (String × Json) :=
  [("propertyId", .string t.propertyId), ("operator", Named.toJson t.operator),
    ("arrayQuantifier", Named.toJson t.arrayQuantifier)] ++
  (if t.operands.isEmpty then []
    else [("operands", .array (t.operands.map OperandFormat.toJson))]) ++
  [("operandsQuantifier", Named.toJson t.operandsQuantifier)]

/-- Operators on lengths and on elements share one place, so a name as a key needs a `null`. -/
def record : Record (ArrayTest ω α) :=
  .field "propertyId" Decoder.string none <|
  .field "operator" (Decoder.oneOf (Named.table (ArrayOperator ω)) true) none <|
  .field "arrayQuantifier" Named.decoder (some .some) <|
  .field "operands" (Decoder.list OperandFormat.decoder) (some []) <|
  .field "operandsQuantifier" Named.decoder (some .some) <|
  .done fun operandsQuantifier operands arrayQuantifier operator propertyId =>
    { propertyId, operator, arrayQuantifier, operands, operandsQuantifier }

end ArrayTest

namespace DateTimeTest

def members (t : DateTimeTest) : List (String × Json) :=
  [("operator", Named.toJson t.operator), ("date", .string t.date.text),
    ("time", .string t.time.text), ("timeZoneOffset", .string t.timeZoneOffset.text)]

def toJson (t : DateTimeTest) : Json := .object t.members

def record : Record DateTimeTest :=
  .field "operator" Named.decoder none <|
  .field "date" (Decoder.filterMap Date.parse? Decoder.string) none <|
  .field "time" (Decoder.filterMap Time.parse? Decoder.string) none <|
  .field "timeZoneOffset" (Decoder.filterMap (fun s => (Offset.parse s).toOption) Decoder.string)
    none <|
  .done fun timeZoneOffset time date operator => { operator, date, time, timeZoneOffset }

def decoder : Decoder DateTimeTest := record.decode

end DateTimeTest

inductive ConditionKind
  | property (type : PropertyType)
  | alwaysTrue
  | segment
  | set
  | dateTime
  deriving DecidableEq

instance : Named ConditionKind where
  all := Named.all.map .property ++ [.alwaysTrue, .segment, .set, .dateTime]
  name
    | .property t => t.name
    | .alwaysTrue => "alwaysTrue"
    | .segment => "segment"
    | .set => "conditionSet"
    | .dateTime => "dateTime"

namespace PropertyTest

def members : PropertyTest → List (String × Json)
  | .boolean t => t.members
  | .number t => t.members
  | .string t => t.members
  | .booleanArray t => t.members
  | .numberArray t => t.members
  | .stringArray t => t.members

def decoder : PropertyType → Decoder PropertyTest
  | .boolean => ScalarTest.record.decode.map .boolean
  | .number => ScalarTest.record.decode.map .number
  | .string => ScalarTest.record.decode.map .string
  | .booleanArray => ArrayTest.record.decode.map .booleanArray
  | .numberArray => ArrayTest.record.decode.map .numberArray
  | .stringArray => ArrayTest.record.decode.map .stringArray

end PropertyTest

namespace Condition

def kind : Condition → ConditionKind
  | .alwaysTrue => .alwaysTrue
  | .property t => .property t.expects
  | .segment _ _ => .segment
  | .set _ _ => .set
  | .dateTime _ => .dateTime

def tagged (kind : ConditionKind) (members : List (String × Json)) : Json :=
  .object (("type", Named.toJson kind) :: members)

mutual

def toJson : Condition → Json
  | .alwaysTrue => tagged .alwaysTrue []
  | .property t => tagged (.property t.expects) t.members
  | .segment id op =>
    tagged .segment [("segmentId", .string id), ("operator", Named.toJson op)]
  | .set op cs =>
    tagged .set [("conditionSet", .object
      [("operator", Named.toJson op), ("conditions", .array (listToJson cs))])]
  | .dateTime t => tagged .dateTime t.members

def listToJson : List Condition → List Json
  | [] => []
  | c :: cs => c.toJson :: listToJson cs

end

end Condition

namespace ConditionSet

def toJson (s : ConditionSet) : Json :=
  .object [("operator", Named.toJson s.operator), ("conditions", .array (Condition.listToJson s.conditions))]

def record (condition : Decoder Condition) : Record ConditionSet :=
  .field "operator" Named.decoder none <|
  .field "conditions" (Decoder.list condition) none <|
  .done fun conditions operator => { operator, conditions }

end ConditionSet

namespace Condition

def segmentRecord : Record Condition :=
  .field "segmentId" Decoder.string none <|
  .field "operator" Named.decoder none <|
  .done fun operator segmentId => .segment segmentId operator

def setRecord (condition : Decoder Condition) : Record Condition :=
  .field "conditionSet" (ConditionSet.record condition).decode none <|
  .done fun s => s.toCondition

def bare : Decoder Condition
  | _, .array (_ :: _) _ => .error .schema
  | _, _ => .ok .alwaysTrue

def fields (condition : Decoder Condition) : ConditionKind → Decoder Condition
  | .property t => (PropertyTest.decoder t).map .property
  | .alwaysTrue => bare
  | .segment => segmentRecord.decode
  | .set => (setRecord condition).decode
  | .dateTime => DateTimeTest.decoder.map .dateTime

def decoderWithin : Nat → Decoder Condition
  | 0 => fun _ f => .error f.refusal
  | n + 1 => fun m f => do
    let t ← Tagged.decode (Named.table ConditionKind) "type" m f
    fields (decoderWithin n) t.tag .held t.content

def decoder : Decoder Condition := fun m f => decoderWithin (f.depth + 1) m f

end Condition

def ConditionSet.decoder : Decoder ConditionSet := (ConditionSet.record Condition.decoder).decode

end FeatureFlags
