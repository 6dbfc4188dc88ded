import FeatureFlags.Format.Specification
import FeatureFlags.Validation

namespace FeatureFlags

inductive Payload
  | text (text : String)
  | json (value : Json)

inductive Rejection
  | fault (fault : Json.Fault)
  | violation (violation : Violation)
  deriving DecidableEq

def Rejection.message? : Rejection → Option String
  | .fault _ => none
  | .violation v => some v.message

namespace Specification

def validate (S : Specification) : Except Rejection Unit :=
  match S.violation? with
  | none => .ok ()
  | some v => .error (.violation v)

end Specification

namespace Payload

def read (p : Payload) : Except Rejection Specification :=
  let decoded := match p with
    | .text t => Specification.decoder.ofText t
    | .json j => Specification.decoder.ofJson j
  decoded.mapError .fault

def accept (p : Payload) (skipValidation : Bool) : Except Rejection Specification := do
  let S ← p.read
  if !skipValidation then S.validate
  return S

end Payload

end FeatureFlags
