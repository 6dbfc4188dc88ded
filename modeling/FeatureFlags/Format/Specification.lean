import FeatureFlags.Format.Condition
import FeatureFlags.Specification

namespace FeatureFlags

open Json

def optionalMember (name : String) : Option String → List (String × Json)
  | none => []
  | some s => [(name, .string s)]

namespace RolloutEntry

def toJson (e : RolloutEntry) : Json :=
  .object [("value", e.value.toJson), ("rolloutPercentage", .double e.rolloutPercentage)]

def record : Record RolloutEntry :=
  .field "value" FlagValue.decoder none <|
  .field "rolloutPercentage" Decoder.number none <|
  .done fun rolloutPercentage value => { value, rolloutPercentage }

def decoder : Decoder RolloutEntry := record.decode

end RolloutEntry

namespace Rule

def toJson (r : Rule) : Json :=
  .object [("enabled", .boolean r.enabled), ("conditionSet", r.conditionSet.toJson),
    ("valuesOnMatch", .array (r.valuesOnMatch.map (·.toJson)))]

def record : Record Rule :=
  .field "enabled" Decoder.boolean none <|
  .field "conditionSet" ConditionSet.decoder none <|
  .field "valuesOnMatch" (Decoder.list RolloutEntry.decoder) none <|
  .done fun valuesOnMatch conditionSet enabled => { enabled, conditionSet, valuesOnMatch }

end Rule

namespace Targeting

def toJson (t : Targeting) : Json :=
  .object [("enabled", .boolean t.enabled), ("rules", .array (t.rules.map (·.toJson)))]

def record : Record Targeting :=
  .field "enabled" Decoder.boolean none <|
  .field "rules" (Decoder.list Rule.record.decode) none <|
  .done fun rules enabled => { enabled, rules }

end Targeting

namespace FeatureFlag

def toJson (f : FeatureFlag) : Json := .object <|
  [("id", .string f.id), ("name", .string f.name)] ++
  optionalMember "description" f.description ++
  [("type", Named.toJson f.type), ("defaultValue", f.defaultValue.toJson),
    ("targeting", f.targeting.toJson)]

def record : Record FeatureFlag :=
  .field "id" Decoder.string none <|
  .field "name" Decoder.string none <|
  .field "description" (Decoder.optional Decoder.string) (some none) <|
  .field "type" Named.decoder none <|
  .field "defaultValue" FlagValue.decoder none <|
  .field "targeting" Targeting.record.decode none <|
  .done fun targeting defaultValue type description name id =>
    { id, name, description, type, defaultValue, targeting }

def decoder : Decoder FeatureFlag := record.decode

end FeatureFlag

namespace Segment

def toJson (s : Segment) : Json := .object <|
  [("id", .string s.id), ("name", .string s.name)] ++
  optionalMember "description" s.description ++ [("conditionSet", s.conditionSet.toJson)]

def record : Record Segment :=
  .field "id" Decoder.string none <|
  .field "name" Decoder.string none <|
  .field "description" (Decoder.optional Decoder.string) (some none) <|
  .field "conditionSet" ConditionSet.decoder none <|
  .done fun conditionSet description name id => { id, name, description, conditionSet }

def decoder : Decoder Segment := record.decode

end Segment

namespace Specification

def toJson (S : Specification) : Json :=
  .object [("schemaVersion", .nat S.schemaVersion),
    ("featureFlags", .array (S.featureFlags.map (·.toJson))),
    ("segments", .array (S.segments.map (·.toJson))),
    ("properties", .array (S.properties.map (·.toJson)))]

def record : Record Specification :=
  .field "schemaVersion" (Decoder.natural (UInt32.size - 1)) none <|
  .field "featureFlags" (Decoder.list FeatureFlag.decoder) none <|
  .field "segments" (Decoder.list Segment.decoder) none <|
  .field "properties" (Decoder.list Property.decoder) none <|
  .done fun properties segments featureFlags schemaVersion =>
    { schemaVersion, featureFlags, segments, properties }

def decoder : Decoder Specification := record.decode

def text (S : Specification) (pretty : Bool) : String :=
  if pretty then S.toJson.pretty "" else S.toJson.compact

def roundTrips (S : Specification) (pretty : Bool) : Bool :=
  match decoder.ofText (S.text pretty) with
  | .ok T => T == S
  | .error _ => false

end Specification

end FeatureFlags
