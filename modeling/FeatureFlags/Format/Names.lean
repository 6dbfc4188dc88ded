import FeatureFlags.Condition.Basic
import FeatureFlags.Json.Decode

namespace FeatureFlags

class Named (α : Type) where
  all : List α
  name : α → String

namespace Named

variable [Named α]

def table (α : Type) [Named α] : List (String × α) := all.map fun a => (name a, a)

def toJson (a : α) : Json := .string (name a)

def decoder : Json.Decoder α := Json.Decoder.oneOf (table α)

end Named

instance : Named FlagType where
  all := [.boolean, .number, .string]
  name := FlagType.name

instance : Named PropertyType where
  all := [.boolean, .number, .string, .booleanArray, .numberArray, .stringArray]
  name := PropertyType.name

instance : Named Quantifier where
  all := [.some, .every, .notAny, .notEvery]
  name := Quantifier.name

instance : Named BooleanOperator where
  all := [.isTrue, .isFalse]
  name
    | .isTrue => "isTrue"
    | .isFalse => "isFalse"

instance : Named NumberOperator where
  all := [.equals, .doesNotEqual, .isLessThan, .isLessThanOrEquals, .isGreaterThan,
    .isGreaterThanOrEquals, .isEven, .isOdd]
  name
    | .equals => "equals"
    | .doesNotEqual => "doesNotEqual"
    | .isLessThan => "isLessThan"
    | .isLessThanOrEquals => "isLessThanOrEquals"
    | .isGreaterThan => "isGreaterThan"
    | .isGreaterThanOrEquals => "isGreaterThanOrEquals"
    | .isEven => "isEven"
    | .isOdd => "isOdd"

instance : Named StringOperator where
  all := [.equals, .doesNotEqual, .startsWith, .doesNotStartWith, .endsWith, .doesNotEndWith,
    .contains, .doesNotContain, .isBlank, .isNotBlank, .matchesRegex, .doesNotMatchRegex]
  name
    | .equals => "equals"
    | .doesNotEqual => "doesNotEqual"
    | .startsWith => "startsWith"
    | .doesNotStartWith => "doesNotStartWith"
    | .endsWith => "endsWith"
    | .doesNotEndWith => "doesNotEndWith"
    | .contains => "contains"
    | .doesNotContain => "doesNotContain"
    | .isBlank => "isBlank"
    | .isNotBlank => "isNotBlank"
    | .matchesRegex => "matchesRegex"
    | .doesNotMatchRegex => "doesNotMatchRegex"

instance [Named ω] : Named (ArrayOperator ω) where
  all := .hasElements :: .hasNoElements :: Named.all.map .element
  name
    | .hasElements => "hasElements"
    | .hasNoElements => "hasNoElements"
    | .element op => Named.name op

instance : Named SetOperator where
  all := [.and, .or, .nand, .nor]
  name
    | .and => "and"
    | .or => "or"
    | .nand => "nand"
    | .nor => "nor"

instance : Named SegmentOperator where
  all := [.isTrue, .isFalse]
  name
    | .isTrue => "isTrue"
    | .isFalse => "isFalse"

instance : Named DateTimeOperator where
  all := [.before, .after, .equalsOrBefore, .equalsOrAfter]
  name
    | .before => "before"
    | .after => "after"
    | .equalsOrBefore => "equalsOrBefore"
    | .equalsOrAfter => "equalsOrAfter"

end FeatureFlags
