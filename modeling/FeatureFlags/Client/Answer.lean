import FeatureFlags.Client.Config
import FeatureFlags.Client.Event

namespace FeatureFlags.Client

structure TypeMismatch where
  flag : String
  expected : FlagType
  actual : FlagType
  deriving DecidableEq

def TypeMismatch.message (m : TypeMismatch) : String :=
  "flag '" ++ m.flag ++ "' is a " ++ m.actual.name ++ " flag but was evaluated as " ++
    m.expected.name

structure Answer (α : Type) where
  result : α
  events : List Event := []

namespace Config

/-- A fallback in place of a value, of which an event tells. The fallback under the name of the flag
is consulted unless the flag is there with a wrong type. -/
def fallBack (c : Config) (flag : String) (type : FlagType) (reason : EvaluationError) :
    Answer Detail :=
  let value := c.fallback flag type (reason != .wrongType)
  { result := ⟨value, .error reason⟩, events := [.fallbackUsed flag type reason value] }

def detailIn (c : Config) (S : Specification) (now : Moment) (flag : String) (type : FlagType)
    (context : Context) : Answer (Except TypeMismatch Detail) :=
  match S.flagNamed? flag with
  | none =>
    let a := c.fallBack flag type .flagNotFound
    { a with result := .ok a.result }
  | some f =>
    if f.type = type then
      let (d, m) := f.evaluate S context (.fresh S context now)
      let warnings := m.warnings.map (.warning flag)
      if d.value.hasType type then { result := .ok d, events := warnings }
      else
        let a := c.fallBack flag type .wrongType
        { result := .ok a.result, events := warnings ++ a.events }
    else match c.typeMismatchPolicy with
      | .error => { result := .error { flag, expected := type, actual := f.type } }
      | .emergencyFallback =>
        let a := c.fallBack flag type .wrongType
        { a with result := .ok a.result }

def detail (c : Config) (served : Option Served) (now : Moment) (flag : String) (type : FlagType)
    (context : Context) : Answer (Except TypeMismatch Detail) :=
  match served with
  | some s => c.detailIn s.specification now flag type context
  | none =>
    let a := c.fallBack flag type .specificationNotAvailable
    { a with result := .ok a.result }

def valueAs (c : Config) (type : FlagType) (d : Detail) : FlagValue :=
  match type with
  | .boolean => .boolean (d.value.boolean?.getD c.fallbacksByType.boolean)
  | .number => .number (d.value.number?.getD c.fallbacksByType.number)
  | .string => .string (d.value.string?.getD c.fallbacksByType.string)

/-- Evaluates flags one after another, each as its own type. Of flags with one name the last one
counts that has a value. -/
def allIn (c : Config) (S : Specification) (now : Moment) (context : Context)
    (values : List (String × FlagValue)) : List FeatureFlag → Answer (List (String × FlagValue))
  | [] => { result := values }
  | f :: fs =>
    let a := c.detailIn S now f.name f.type context
    let values := match a.result with
      | .ok d => setByName f.name d.value values
      | .error _ => values
    let rest := c.allIn S now context values fs
    { rest with events := a.events ++ rest.events }

def all (c : Config) (served : Option Served) (now : Moment) (context : Context) :
    Answer (List (String × FlagValue)) :=
  match served with
  | some s => c.allIn s.specification now context [] s.specification.featureFlags
  | none =>
    let answers := c.fallbacksByName.map fun (name, value) =>
      (name, c.fallBack name value.flagType .specificationNotAvailable)
    { result := answers.map fun (name, a) => (name, a.result.value),
      events := answers.flatMap fun (_, a) => a.events }

end Config

end FeatureFlags.Client
