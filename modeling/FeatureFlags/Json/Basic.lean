import FeatureFlags.Number.Decimal

/-!
JSON values. Objects list their members in the order in which they are written; an object that comes
from outside has its members sorted by key, each key once.
-/

namespace FeatureFlags

/-- Whole numbers of 64 bits stay whole; every other number is a double. -/
inductive Json.Number
  | integer (value : Int)
  | double (value : Double)
  deriving DecidableEq

inductive Json
  | null
  | boolean (value : Bool)
  | number (value : Json.Number)
  | string (value : String)
  | array (items : List Json)
  | object (members : List (String × Json))
  deriving Inhabited

namespace Json

def Number.toDouble : Number → Double
  | .integer i => .ofInt i
  | .double d => d

def Number.text : Number → String
  | .integer i => (if i < 0 then "-" else "") ++ Decimal.text i.natAbs
  | .double d => d.jsonText

def nat (n : Nat) : Json := .number (.integer n)

def int (i : Int) : Json := .number (.integer i)

def double (d : Double) : Json := .number (.double d)

def strings (ss : List String) : Json := .array (ss.map .string)

def isNull : Json → Bool
  | .null => true
  | _ => false

def boolean? : Json → Option Bool
  | .boolean b => some b
  | _ => none

def double? : Json → Option Double
  | .number n => some n.toDouble
  | _ => none

def string? : Json → Option String
  | .string s => some s
  | _ => none

def array? : Json → Option (List Json)
  | .array items => some items
  | _ => none

def object? : Json → Option (List (String × Json))
  | .object members => some members
  | _ => none

def insert (key : String) (value : Json) : List (String × Json) → List (String × Json)
  | [] => [(key, value)]
  | (k, v) :: rest =>
    if key < k then (key, value) :: (k, v) :: rest
    else if key = k then (key, value) :: rest
    else (k, v) :: insert key value rest

def sortMembers (members : List (String × Json)) : List (String × Json) :=
  members.foldl (fun sorted (k, v) => insert k v sorted) []

mutual

def sorted : Json → Json
  | .array items => .array (sortedItems items)
  | .object members => .object (sortMembers (sortedMembers members))
  | j => j

def sortedItems : List Json → List Json
  | [] => []
  | j :: js => j.sorted :: sortedItems js

def sortedMembers : List (String × Json) → List (String × Json)
  | [] => []
  | (k, j) :: ms => (k, j.sorted) :: sortedMembers ms

end

end Json

end FeatureFlags
