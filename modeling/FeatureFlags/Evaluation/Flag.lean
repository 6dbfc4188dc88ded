import FeatureFlags.Rollout
import FeatureFlags.Evaluation.Condition

namespace FeatureFlags

inductive EvaluationError
  | specificationNotAvailable
  | flagNotFound
  | wrongType
  deriving DecidableEq

inductive Reason
  | targetingDisabled
  | ruleMatch (ruleIndex : Nat)
  | default
  | error (error : EvaluationError)
  deriving DecidableEq

structure Detail where
  value : FlagValue
  reason : Reason
  deriving DecidableEq

def Metadata.fresh (S : Specification) (c : Context) (now : Moment) : Metadata :=
  { now, rolloutGroup := Rollout.group S.properties c }

def Rule.firstMatch (S : Specification) (c : Context) (index : Nat) :
    List Rule → Metadata → Option (Nat × Rule) × Metadata
  | [], m => (none, m)
  | rule :: rules, m =>
    if rule.enabled then
      match rule.conditionSet.evaluate S c m with
      | (true, m) => (some (index, rule), m)
      | (false, m) => firstMatch S c (index + 1) rules m
    else firstMatch S c (index + 1) rules m

def FeatureFlag.evaluate (S : Specification) (f : FeatureFlag) (c : Context) (m : Metadata) :
    Detail × Metadata :=
  if f.targeting.enabled then
    match Rule.firstMatch S c 0 f.targeting.rules m with
    | (some (index, rule), m') =>
      (⟨Rollout.select rule.valuesOnMatch m.rolloutGroup f.defaultValue, .ruleMatch index⟩, m')
    | (none, m') => (⟨f.defaultValue, .default⟩, m')
  else (⟨f.defaultValue, .targetingDisabled⟩, m)

end FeatureFlags
