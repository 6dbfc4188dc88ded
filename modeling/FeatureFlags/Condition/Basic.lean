import FeatureFlags.Condition.Operator
import FeatureFlags.Property
import FeatureFlags.Calendar.Offset

namespace FeatureFlags

structure ScalarTest (ω α : Type) where
  propertyId : String
  operator : ω
  operands : List α
  operandsQuantifier : Quantifier
  deriving DecidableEq

def ScalarTest.accepts [ScalarOperator ω α] (t : ScalarTest ω α) (value : α) : Bool :=
  scalarMatches t.operator t.operands t.operandsQuantifier value

inductive ArrayOperator (ω : Type)
  | hasElements
  | hasNoElements
  | element (operator : ω)
  deriving DecidableEq

structure ArrayTest (ω α : Type) where
  propertyId : String
  operator : ArrayOperator ω
  arrayQuantifier : Quantifier
  operands : List α
  operandsQuantifier : Quantifier
  deriving DecidableEq

def ArrayTest.accepts [ScalarOperator ω α] (t : ArrayTest ω α) (values : List α) : Bool :=
  match t.operator with
  | .hasElements => !values.isEmpty
  | .hasNoElements => values.isEmpty
  | .element op =>
    t.arrayQuantifier.apply (scalarMatches op t.operands t.operandsQuantifier) values

inductive PropertyTest
  | boolean (test : ScalarTest BooleanOperator Bool)
  | number (test : ScalarTest NumberOperator Double)
  | string (test : ScalarTest StringOperator String)
  | booleanArray (test : ArrayTest BooleanOperator Bool)
  | numberArray (test : ArrayTest NumberOperator Double)
  | stringArray (test : ArrayTest StringOperator String)
  deriving DecidableEq

namespace PropertyTest

def propertyId : PropertyTest → String
  | .boolean t => t.propertyId
  | .number t => t.propertyId
  | .string t => t.propertyId
  | .booleanArray t => t.propertyId
  | .numberArray t => t.propertyId
  | .stringArray t => t.propertyId

def expects : PropertyTest → PropertyType
  | .boolean _ => .boolean
  | .number _ => .number
  | .string _ => .string
  | .booleanArray _ => .booleanArray
  | .numberArray _ => .numberArray
  | .stringArray _ => .stringArray

def accepts : PropertyTest → PropertyValue → Bool
  | .boolean t, .boolean b => t.accepts b
  | .number t, .number d => t.accepts d
  | .string t, .string s => t.accepts s
  | .booleanArray t, .booleanArray bs => t.accepts bs
  | .numberArray t, .numberArray ds => t.accepts ds
  | .stringArray t, .stringArray ss => t.accepts ss
  | _, _ => false

end PropertyTest

inductive SetOperator
  | and
  | or
  | nand
  | nor
  deriving DecidableEq

namespace SetOperator

def decisive : SetOperator → Bool
  | .and => false
  | .or => true
  | .nand => false
  | .nor => true

def conclude (op : SetOperator) (found : Bool) : Bool :=
  match op with
  | .and => !found
  | .or => found
  | .nand => found
  | .nor => !found

end SetOperator

inductive SegmentOperator
  | isTrue
  | isFalse
  deriving DecidableEq

def SegmentOperator.apply : SegmentOperator → Bool → Bool
  | .isTrue, b => b
  | .isFalse, b => !b

inductive DateTimeOperator
  | before
  | after
  | equalsOrBefore
  | equalsOrAfter
  deriving DecidableEq

structure DateTimeTest where
  operator : DateTimeOperator
  date : Date
  time : Time
  timeZoneOffset : Offset
  deriving DecidableEq

namespace DateTimeTest

def instant? (t : DateTimeTest) (zone : Zone := .utc) : Option Instant :=
  match t.timeZoneOffset with
  | .fixed ahead _ => Instant.ofWallClock? t.date t.time ahead
  | .local => zone t.date t.time

/-- Nothing is before or after an instant that does not exist. -/
def accepts (t : DateTimeTest) (now : Moment) : Bool :=
  match t.instant? now.zone with
  | none => false
  | some i =>
    match t.operator with
    | .before => now.instant.lt i
    | .after => i.lt now.instant
    | .equalsOrBefore => now.instant.le i
    | .equalsOrAfter => i.le now.instant

end DateTimeTest

inductive Condition
  | alwaysTrue
  | property (test : PropertyTest)
  | segment (segmentId : String) (operator : SegmentOperator)
  | set (operator : SetOperator) (conditions : List Condition)
  | dateTime (test : DateTimeTest)

mutual

def Condition.equal : Condition → Condition → Bool
  | .alwaysTrue, .alwaysTrue => true
  | .property t, .property u => t == u
  | .segment id op, .segment id' op' => id == id' && op == op'
  | .set op cs, .set op' cs' => op == op' && Condition.equalIn cs cs'
  | .dateTime t, .dateTime u => t == u
  | _, _ => false

def Condition.equalIn : List Condition → List Condition → Bool
  | [], [] => true
  | c :: cs, d :: ds => c.equal d && Condition.equalIn cs ds
  | _, _ => false

end

instance : BEq Condition := ⟨Condition.equal⟩

/-- Conditions combined by an operator. Without conditions the set is false. -/
structure ConditionSet where
  operator : SetOperator
  conditions : List Condition
  deriving BEq

namespace Condition

def propertyReference : Condition → Option (String × PropertyType)
  | .property t => some (t.propertyId, t.expects)
  | _ => none

def segmentReference : Condition → Option String
  | .segment id _ => some id
  | _ => none

mutual

def nested : Condition → List Condition
  | .set op cs => .set op cs :: nestedIn cs
  | c => [c]

def nestedIn : List Condition → List Condition
  | [] => []
  | c :: cs => c.nested ++ nestedIn cs

end

end Condition

namespace ConditionSet

def toCondition (s : ConditionSet) : Condition := .set s.operator s.conditions

def nested (s : ConditionSet) : List Condition := Condition.nestedIn s.conditions

end ConditionSet

end FeatureFlags
