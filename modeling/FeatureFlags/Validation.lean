import FeatureFlags.Specification

namespace FeatureFlags

inductive Declared
  | property
  | segment
  | featureFlag
  deriving DecidableEq

def Declared.name : Declared → String
  | .property => "property"
  | .segment => "segment"
  | .featureFlag => "feature flag"

inductive Violation
  | schemaVersion (version : Nat)
  | duplicateId (declared : Declared) (id : String)
  | duplicateFlagName (name : String)
  | valueType (flagId : String) (expected : FlagType)
  | rolloutPercentage (flagId : String) (ruleIndex : Nat) (percentage : Double)
  | rolloutSum (flagId : String) (ruleIndex : Nat) (sum : Double)
  | unknownProperty (id : String)
  | propertyType (id : String) (expected actual : PropertyType)
  | unknownSegment (id : String)
  | segmentCycle (id : String)
  deriving DecidableEq

def supportedSchemaVersion : Nat := 1

def Violation.message : Violation → String
  | .schemaVersion v =>
    "unsupported schema version " ++ Decimal.text v ++ ", expected " ++
      Decimal.text supportedSchemaVersion
  | .duplicateId d id => "duplicate " ++ d.name ++ " id '" ++ id ++ "'"
  | .duplicateFlagName name => "duplicate feature flag name '" ++ name ++ "'"
  | .valueType id expected =>
    "feature flag '" ++ id ++ "' has a value that is not of its type " ++ expected.name
  | .rolloutPercentage id i p =>
    "feature flag '" ++ id ++ "' rule " ++ Decimal.text i ++ " has rollout percentage " ++
      p.display ++ " outside [0, 100]"
  | .rolloutSum id i sum =>
    "feature flag '" ++ id ++ "' rule " ++ Decimal.text i ++ " rollout percentages sum to " ++
      sum.display ++ ", not 100"
  | .unknownProperty id => "condition references unknown property '" ++ id ++ "'"
  | .propertyType id expected actual =>
    "condition expects property '" ++ id ++ "' to be " ++ expected.name ++
      " but it is declared " ++ actual.name
  | .unknownSegment id => "condition references unknown segment '" ++ id ++ "'"
  | .segmentCycle id => "segment '" ++ id ++ "' references itself through its conditions"

def firstRepeated (seen : List String) : List String → Option String
  | [] => none
  | s :: ss => if s ∈ seen then some s else firstRepeated (s :: seen) ss

namespace RolloutEntry

def hundred : Double := .ofInt 100

def tolerance : Double := .ofRatio false 1 1000000000

def isShare (e : RolloutEntry) : Bool :=
  Double.zero.le e.rolloutPercentage && e.rolloutPercentage.le hundred

def total (entries : List RolloutEntry) : Double :=
  entries.foldl (fun sum e => sum.add e.rolloutPercentage) .zero

/-- Every percentage lies between 0 and 100, and unless there are none they make up a hundred. -/
def violation? (flagId : String) (ruleIndex : Nat) (entries : List RolloutEntry) :
    Option Violation :=
  match entries.find? (!·.isShare) with
  | some e => some (.rolloutPercentage flagId ruleIndex e.rolloutPercentage)
  | none =>
    let sum := total entries
    if !entries.isEmpty && tolerance.lt (sum.sub hundred).abs then
      some (.rolloutSum flagId ruleIndex sum)
    else none

end RolloutEntry

namespace Segment

/-- Follows references depth first. `active` is the path that led here, `done` holds what is known to
lead to no cycle; the walk grows it, or stops at the first segment that it meets again on its path. -/
def walk (segments : List Segment) (active : List String) :
    List String → List String → Except String (List String)
  | [], done => .ok done
  | id :: ids, done =>
    if id ∈ done then walk segments active ids done
    else if h : id ∈ active then .error id
    else match hs : segments.find? (·.id = id) with
      | none => walk segments active ids (id :: done)
      | some s =>
        have same : s.id = id := by simpa using List.find?_some hs
        have := idle_lt (List.mem_of_find?_eq_some hs) (same ▸ h)
        match walk segments (s.id :: active) s.references done with
        | .ok done => walk segments active ids (id :: done)
        | .error id => .error id
termination_by ids _ => (idle segments active, ids.length)

def onCycle? (segments : List Segment) : Option String :=
  match walk segments [] (segments.map (·.id)) [] with
  | .ok _ => none
  | .error id => some id

end Segment

namespace Specification

def referenceViolation? (S : Specification) (cond : Condition) : Option Violation :=
  match cond.propertyReference, cond.segmentReference with
  | some (id, expected), _ =>
    match S.property? id with
    | none => some (.unknownProperty id)
    | some p => if p.type = expected then none else some (.propertyType id expected p.type)
  | none, some id => if (S.segment? id).isNone then some (.unknownSegment id) else none
  | none, none => none

def referencesViolation? (S : Specification) (s : ConditionSet) : Option Violation :=
  s.nested.findSome? S.referenceViolation?

def ruleViolation? (S : Specification) (flagId : String) (rule : Rule) (index : Nat) :
    Option Violation :=
  RolloutEntry.violation? flagId index rule.valuesOnMatch <|>
    S.referencesViolation? rule.conditionSet

def flagViolation? (S : Specification) (f : FeatureFlag) : Option Violation :=
  if f.values.any (!·.hasType f.type) then some (.valueType f.id f.type)
  else f.targeting.rules.zipIdx.findSome? fun (rule, i) => S.ruleViolation? f.id rule i

def violation? (S : Specification) : Option Violation :=
  if S.schemaVersion != supportedSchemaVersion then some (.schemaVersion S.schemaVersion)
  else
    (firstRepeated [] (S.properties.map (·.id))).map (.duplicateId .property) <|>
    (firstRepeated [] (S.segments.map (·.id))).map (.duplicateId .segment) <|>
    (firstRepeated [] (S.featureFlags.map (·.id))).map (.duplicateId .featureFlag) <|>
    (firstRepeated [] (S.featureFlags.map (·.name))).map .duplicateFlagName <|>
    S.featureFlags.findSome? S.flagViolation? <|>
    S.segments.findSome? (fun s => S.referencesViolation? s.conditionSet) <|>
    (Segment.onCycle? S.segments).map .segmentCycle

end Specification

end FeatureFlags
