import FeatureFlags.Json.Basic

namespace FeatureFlags

structure Context where
  attributes : List (String × Json)
  deriving Inhabited

namespace Context

def empty : Context := ⟨[]⟩

def isEmpty (c : Context) : Bool := c.attributes.isEmpty

def toJson (c : Context) : Json := .object c.attributes

def ofJson? : Json → Option Context
  | .object members => some ⟨members⟩
  | _ => none

def set (c : Context) (key : String) (value : Json) : Context := ⟨Json.insert key value c.attributes⟩

def remove (c : Context) (key : String) : Context := ⟨c.attributes.filter fun m => m.1 != key⟩

end Context

def Json.follow : Json → List String → Option Json
  | j, [] => some j
  | .object members, key :: path => do (← members.lookup key).follow path
  | _, _ :: _ => none

/-- The value at a path. Nothing is at the empty path, and `null` counts as nothing. -/
def Context.valueAt (c : Context) : List String → Option Json
  | [] => none
  | path => (c.toJson.follow path).filter fun j => !j.isNull

end FeatureFlags
