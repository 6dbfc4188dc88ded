import FeatureFlags.Payload

/-!
Loaders and the validators they are given. A validator judges one payload and marks its verdict with
its token, so that the verdict of one validator cannot pass for that of another.
-/

namespace FeatureFlags.Client

structure Validator where
  serial : Nat
  skipValidation : Bool
  deriving DecidableEq

def Validator.token (v : Validator) : UInt64 := .ofNat v.serial

structure Verdict where
  token : UInt64
  payload : Payload
  outcome : Except Rejection Specification

def Validator.validate (v : Validator) (p : Payload) : Verdict :=
  { token := v.token, payload := p, outcome := p.accept v.skipValidation }

inductive Deed
  | fail (message : String)
  | panic
  | stash (slot : Nat) (message : String)
  | serve (payload : Payload)
  /-- Returns the verdict of the validator kept in a slot, or of its own if the slot is empty. -/
  | replay (slot : Nat) (payload : Payload)
  /-- Returns the verdict of a validator that another client was just given. -/
  | borrow (skipValidation : Bool) (payload : Payload)

structure LoaderStep where
  delay : Nat := 0
  deed : Deed

/-- What a loader does on each call, by the number of the call from one. -/
abbrev Loader := Nat → LoaderStep

def Loader.ofSteps (first : LoaderStep) (more : List LoaderStep) : Loader := fun call =>
  (first :: more)[call - 1]?.getD (more.getLast?.getD first)

inductive LoadError
  | loader (message : String)
  | panicked
  | timeout (limit : Nat)
  | contractViolation
  | invalid (rejection : Rejection)
  deriving DecidableEq

/-- A time of whole milliseconds in the largest unit that is not too large, with the digits that its
fraction takes. -/
def durationText (ms : Nat) : String :=
  if ms = 0 then "0ns"
  else if ms < 1000 then Decimal.text ms ++ "ms"
  else (Decimal.trim ⟨ms, -3⟩).positional "" ++ "s"

def LoadError.message? : LoadError → Option String
  | .loader m => some ("spec loader failed: " ++ m)
  | .panicked => some "spec loader panicked"
  | .timeout limit => some ("spec loader did not finish within " ++ durationText limit)
  | .contractViolation =>
    some "spec loader did not return the result of the validator it was given"
  | .invalid r =>
    r.message?.map fun m => "spec loader returned an invalid specification: " ++ m

structure LoadFailure where
  attempts : Nat
  last : LoadError
  deriving DecidableEq

def LoadFailure.message? (f : LoadFailure) : Option String :=
  f.last.message?.map fun m =>
    "failed to load a specification after " ++ Decimal.text f.attempts ++ " attempt(s): " ++ m

end FeatureFlags.Client
