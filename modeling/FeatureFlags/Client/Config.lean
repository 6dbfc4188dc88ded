import FeatureFlags.Format.Value

namespace FeatureFlags.Client

open Json

inductive TypeMismatchPolicy
  | emergencyFallback
  | error
  deriving DecidableEq

instance : Named TypeMismatchPolicy where
  all := [.emergencyFallback, .error]
  name
    | .emergencyFallback => "emergencyFallback"
    | .error => "error"

inductive Delivery
  | nonBlocking
  | blocking
  deriving DecidableEq

instance : Named Delivery where
  all := [.nonBlocking, .blocking]
  name
    | .nonBlocking => "nonBlocking"
    | .blocking => "blocking"

structure TypeFallbacks where
  boolean : Bool := false
  number : Double := .zero
  string : String := ""
  deriving DecidableEq, Inhabited

namespace TypeFallbacks

def value (f : TypeFallbacks) : FlagType → FlagValue
  | .boolean => .boolean f.boolean
  | .number => .number f.number
  | .string => .string f.string

def toJson (f : TypeFallbacks) : Json :=
  .object [("boolean", .boolean f.boolean), ("number", .double f.number),
    ("string", .string f.string)]

def record : Record TypeFallbacks :=
  .field "boolean" Decoder.boolean (some false) <|
  .field "number" Decoder.number (some .zero) <|
  .field "string" Decoder.string (some "") <|
  .done fun string number boolean => { boolean, number, string }

def decoder : Decoder TypeFallbacks := record.decode

end TypeFallbacks

/-- Times are in milliseconds. A negative loader timeout means none, and a negative stale time that
every specification is stale at once. -/
structure Config where
  loaderTimeout : Int := 15000
  maxRetries : Nat := 5
  retryDelay : Nat := 2500
  cacheStaleTime : Int := 15000
  refreshWait : Int := 1500
  initialLoad : Bool := true
  fallbacksByName : List (String × FlagValue) := []
  fallbacksByType : TypeFallbacks := {}
  typeMismatchPolicy : TypeMismatchPolicy := .emergencyFallback
  delivery : Delivery := .nonBlocking
  skipValidation : Bool := false
  deriving DecidableEq, Inhabited

def setByName (name : String) (a : α) : List (String × α) → List (String × α)
  | [] => [(name, a)]
  | (k, b) :: rest =>
    if name < k then (name, a) :: (k, b) :: rest
    else if name = k then (name, a) :: rest
    else (k, b) :: setByName name a rest

def sortByName (entries : List (String × α)) : List (String × α) :=
  entries.foldl (fun sorted (k, a) => setByName k a sorted) []

namespace Config

def setFallback (c : Config) (name : String) (value : FlagValue) : Config :=
  { c with fallbacksByName := setByName name value c.fallbacksByName }

/-- Tries in a load sequence: the first one and the retries, as far as 32 bits count them. -/
def attempts (c : Config) : Nat := min (c.maxRetries + 1) (UInt32.size - 1)

def timeout? (c : Config) : Option Nat :=
  if 0 ≤ c.loaderTimeout then some c.loaderTimeout.toNat else none

def staleTime? (c : Config) : Option Nat :=
  if 0 ≤ c.cacheStaleTime then some c.cacheStaleTime.toNat else none

def refreshWait? (c : Config) : Option Nat :=
  if 0 < c.refreshWait then some c.refreshWait.toNat else none

def fallback (c : Config) (name : String) (type : FlagType) (byName : Bool) : FlagValue :=
  let named := if byName then c.fallbacksByName.lookup name else none
  (named.filter (·.hasType type)).getD (c.fallbacksByType.value type)

def toJson (c : Config) : Json :=
  .object [("loaderTimeoutMs", .int c.loaderTimeout), ("maxRetries", .nat c.maxRetries),
    ("retryDelayMs", .nat c.retryDelay), ("cacheStaleTimeMs", .int c.cacheStaleTime),
    ("refreshWaitMs", .int c.refreshWait), ("initialLoad", .boolean c.initialLoad),
    ("emergencyFallbacksByName", .object (c.fallbacksByName.map fun (k, v) => (k, v.toJson))),
    ("emergencyFallbacksByType", c.fallbacksByType.toJson),
    ("typeMismatchPolicy", Named.toJson c.typeMismatchPolicy),
    ("callbackMode", Named.toJson c.delivery),
    ("dangerouslySkipValidation", .boolean c.skipValidation)]

def record : Record Config :=
  let d : Config := {}
  .field "loaderTimeoutMs" Decoder.int64 (some d.loaderTimeout) <|
  .field "maxRetries" (Decoder.natural (UInt32.size - 1)) (some d.maxRetries) <|
  .field "retryDelayMs" (Decoder.natural (UInt64.size - 1)) (some d.retryDelay) <|
  .field "cacheStaleTimeMs" Decoder.int64 (some d.cacheStaleTime) <|
  .field "refreshWaitMs" Decoder.int64 (some d.refreshWait) <|
  .field "initialLoad" Decoder.boolean (some d.initialLoad) <|
  .field "emergencyFallbacksByName" ((Decoder.object FlagValue.decoder).map sortByName)
    (some d.fallbacksByName) <|
  .field "emergencyFallbacksByType" TypeFallbacks.decoder (some d.fallbacksByType) <|
  .field "typeMismatchPolicy" Named.decoder (some d.typeMismatchPolicy) <|
  .field "callbackMode" Named.decoder (some d.delivery) <|
  .field "dangerouslySkipValidation" Decoder.boolean (some d.skipValidation) <|
  .done fun skipValidation delivery typeMismatchPolicy fallbacksByType fallbacksByName initialLoad
      refreshWait cacheStaleTime retryDelay maxRetries loaderTimeout =>
    { loaderTimeout, maxRetries, retryDelay, cacheStaleTime, refreshWait, initialLoad,
      fallbacksByName, fallbacksByType, typeMismatchPolicy, delivery, skipValidation }

def decoder : Decoder Config := record.decode

end Config

end FeatureFlags.Client
