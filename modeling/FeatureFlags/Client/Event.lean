import FeatureFlags.Client.Loader
import FeatureFlags.Evaluation.Flag

namespace FeatureFlags.Client

structure Served where
  specification : Specification
  fromCall : Nat

inductive Event
  | loaderFailure (attempt : Nat) (error : LoadError)
  | validatorFailure (attempt : Nat) (error : LoadError)
  | validationFailure (attempt : Nat) (payload : Payload) (rejection : Rejection)
  | loaded (served : Served)
  | fallbackUsed (flag : String) (type : FlagType) (reason : EvaluationError) (value : FlagValue)
  | warning (flag : String) (warning : Warning)

namespace Event

def ofEvaluation : Event → Bool
  | .fallbackUsed .. => true
  | .warning .. => true
  | _ => false

def ofFailure (attempt : Nat) (payload : Option Payload) (error : LoadError) : Event :=
  match error, payload with
  | .invalid r, some p => .validationFailure attempt p r
  | .contractViolation, _ => .validatorFailure attempt error
  | _, _ => .loaderFailure attempt error

end Event

end FeatureFlags.Client
