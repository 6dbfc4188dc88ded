import FeatureFlags.Number.Decimal

namespace FeatureFlags

inductive FlagType
  | boolean
  | number
  | string
  deriving DecidableEq

namespace FlagType

def name : FlagType → String
  | .boolean => "boolean"
  | .number => "number"
  | .string => "string"

end FlagType

inductive FlagValue
  | boolean (value : Bool)
  | number (value : Double)
  | string (value : String)
  deriving DecidableEq, Inhabited

namespace FlagValue

def flagType : FlagValue → FlagType
  | .boolean _ => .boolean
  | .number _ => .number
  | .string _ => .string

def hasType (v : FlagValue) (t : FlagType) : Bool := v.flagType = t

def boolean? : FlagValue → Option Bool
  | .boolean b => some b
  | _ => none

def number? : FlagValue → Option Double
  | .number d => some d
  | _ => none

def string? : FlagValue → Option String
  | .string s => some s
  | _ => none

def typeRank : FlagValue → Nat
  | .boolean _ => 0
  | .number _ => 1
  | .string _ => 2

/-- Booleans before numbers before strings; within a type, false before true, numbers in the total
order of bit patterns and strings by code points. -/
def totalCompare : FlagValue → FlagValue → Ordering
  | .boolean a, .boolean b => compare a b
  | .number a, .number b => a.totalCompare b
  | .string a, .string b => compare a b
  | v, w => compare v.typeRank w.typeRank

end FlagValue

end FeatureFlags
