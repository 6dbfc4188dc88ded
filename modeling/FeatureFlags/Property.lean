import FeatureFlags.Context
import FeatureFlags.Json.Print
import FeatureFlags.Text.Blank

namespace FeatureFlags

inductive PropertyType
  | boolean
  | number
  | string
  | booleanArray
  | numberArray
  | stringArray
  deriving DecidableEq

namespace PropertyType

def name : PropertyType → String
  | .boolean => "boolean"
  | .number => "number"
  | .string => "string"
  | .booleanArray => "booleanArray"
  | .numberArray => "numberArray"
  | .stringArray => "stringArray"

end PropertyType

structure Property where
  id : String
  name : String
  path : List String
  type : PropertyType
  rolloutDiscriminator : Bool := false
  deriving DecidableEq

inductive PropertyValue
  | boolean (value : Bool)
  | number (value : Double)
  | string (value : String)
  | booleanArray (values : List Bool)
  | numberArray (values : List Double)
  | stringArray (values : List String)
  deriving DecidableEq

inductive LookupError
  | notFound
  | incorrectDataType
  deriving DecidableEq

def PropertyType.read? : PropertyType → Json → Option PropertyValue
  | .boolean, j => j.boolean?.map .boolean
  | .number, j => j.double?.map .number
  | .string, j => j.string?.map .string
  | .booleanArray, j => do return .booleanArray (← (← j.array?).mapM Json.boolean?)
  | .numberArray, j => do return .numberArray (← (← j.array?).mapM Json.double?)
  | .stringArray, j => do return .stringArray (← (← j.array?).mapM Json.string?)

def Property.resolve (p : Property) (c : Context) : Except LookupError PropertyValue :=
  match c.valueAt p.path with
  | none => .error .notFound
  | some j =>
    match p.type.read? j with
    | none => .error .incorrectDataType
    | some v => .ok v

namespace PropertyValue

def numberKey (d : Double) : String := if d.equal .zero then "0" else d.display

def bracketed (parts : List String) : String := "[" ++ ",".intercalate parts ++ "]"

def rolloutKey : PropertyValue → String
  | .boolean b => if b then "true" else "false"
  | .number d => numberKey d
  | .string s => Text.trim s
  | .booleanArray bs => bracketed (bs.map fun b => if b then "true" else "false")
  | .numberArray ds => bracketed (ds.map numberKey)
  | .stringArray ss => bracketed (ss.map Json.quote)

end PropertyValue

end FeatureFlags
