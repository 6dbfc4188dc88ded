import FeatureFlags.Value
import FeatureFlags.Text.Blank
import FeatureFlags.Text.Search
import FeatureFlags.Regex.Match
import FeatureFlags.Condition.Quantifier

namespace FeatureFlags

inductive BooleanOperator
  | isTrue
  | isFalse
  deriving DecidableEq

inductive NumberOperator
  | equals
  | doesNotEqual
  | isLessThan
  | isLessThanOrEquals
  | isGreaterThan
  | isGreaterThanOrEquals
  | isEven
  | isOdd
  deriving DecidableEq

inductive StringOperator
  | equals
  | doesNotEqual
  | startsWith
  | doesNotStartWith
  | endsWith
  | doesNotEndWith
  | contains
  | doesNotContain
  | isBlank
  | isNotBlank
  | matchesRegex
  | doesNotMatchRegex
  deriving DecidableEq

class ScalarOperator (ω : Type) (α : outParam Type) where
  takesOperand : ω → Bool
  test : ω → α → Option α → Bool

open ScalarOperator

instance : ScalarOperator BooleanOperator Bool where
  takesOperand _ := false
  test
    | .isTrue, b, _ => b
    | .isFalse, b, _ => !b

def NumberOperator.takesOperand : NumberOperator → Bool
  | .isEven => false
  | .isOdd => false
  | _ => true

def NumberOperator.test : NumberOperator → Double → Option Double → Bool
  | .isEven, d, _ => d.isEven
  | .isOdd, d, _ => d.isOdd
  | .equals, d, some e => d.equal e
  | .doesNotEqual, d, some e => !d.equal e
  | .isLessThan, d, some e => d.lt e
  | .isLessThanOrEquals, d, some e => d.le e
  | .isGreaterThan, d, some e => e.lt d
  | .isGreaterThanOrEquals, d, some e => e.le d
  | _, _, none => false

instance : ScalarOperator NumberOperator Double where
  takesOperand := NumberOperator.takesOperand
  test := NumberOperator.test

def StringOperator.takesOperand : StringOperator → Bool
  | .isBlank => false
  | .isNotBlank => false
  | _ => true

def StringOperator.test : StringOperator → String → Option String → Bool
  | .isBlank, s, _ => (Text.trim s).isEmpty
  | .isNotBlank, s, _ => !(Text.trim s).isEmpty
  | .equals, s, some t => s == t
  | .doesNotEqual, s, some t => s != t
  | .startsWith, s, some t => Text.startsWith s t
  | .doesNotStartWith, s, some t => !Text.startsWith s t
  | .endsWith, s, some t => Text.endsWith s t
  | .doesNotEndWith, s, some t => !Text.endsWith s t
  | .contains, s, some t => Text.contains s t
  | .doesNotContain, s, some t => !Text.contains s t
  | .matchesRegex, s, some t => Regex.matchesPattern t s
  | .doesNotMatchRegex, s, some t => !Regex.matchesPattern t s
  | _, _, none => false

instance : ScalarOperator StringOperator String where
  takesOperand := StringOperator.takesOperand
  test := StringOperator.test

def scalarMatches [ScalarOperator ω α] (op : ω) (operands : List α) (q : Quantifier) (value : α) :
    Bool :=
  if takesOperand op then q.apply (fun operand => test op value (some operand)) operands
  else test op value none

end FeatureFlags
