import FeatureFlags.Flag
import Std.Data.HashMap

namespace FeatureFlags

abbrev Index := Std.HashMap String Nat

namespace Index

def addFrom (index : Index) (position : Nat) : List String → Index
  | [] => index
  | key :: keys => addFrom (index.insertIfNew key position) (position + 1) keys

def ofKeys (keys : List String) : Index := addFrom ∅ 0 keys

end Index

structure Specification where
  schemaVersion : Nat
  featureFlags : List FeatureFlag
  segments : List Segment
  properties : List Property
  flagsById : Index := .ofKeys (featureFlags.map (·.id))
  flagsByName : Index := .ofKeys (featureFlags.map (·.name))
  segmentsById : Index := .ofKeys (segments.map (·.id))
  propertiesById : Index := .ofKeys (properties.map (·.id))
  flagsById_eq : flagsById = .ofKeys (featureFlags.map (·.id)) := by rfl
  flagsByName_eq : flagsByName = .ofKeys (featureFlags.map (·.name)) := by rfl
  segmentsById_eq : segmentsById = .ofKeys (segments.map (·.id)) := by rfl
  propertiesById_eq : propertiesById = .ofKeys (properties.map (·.id)) := by rfl

instance : BEq Specification where
  beq S T := S.schemaVersion == T.schemaVersion && S.featureFlags == T.featureFlags &&
    S.segments == T.segments && S.properties == T.properties

namespace Specification

def empty : Specification := ⟨1, [], [], [], _, _, _, _, rfl, rfl, rfl, rfl⟩

def flag? (S : Specification) (id : String) : Option FeatureFlag := do
  S.featureFlags[← S.flagsById[id]?]?

def flagNamed? (S : Specification) (name : String) : Option FeatureFlag := do
  S.featureFlags[← S.flagsByName[name]?]?

def segment? (S : Specification) (id : String) : Option Segment := do
  S.segments[← S.segmentsById[id]?]?

def property? (S : Specification) (id : String) : Option Property := do
  S.properties[← S.propertiesById[id]?]?

end Specification

end FeatureFlags
