import FeatureFlags.Json.Basic

/-!
What a JSON text says up to its first fault. A decoder walks a fragment in the order of the text, so
whichever comes first, a fault of the text or a wrong shape, decides.
-/

namespace FeatureFlags.Json

inductive Fragment
  | null
  | boolean (value : Bool)
  | number (value : Number)
  | overflow
  | string (value : String)
  | malformedString
  | array (items : List Fragment) (closed : Bool)
  /-- Members, whose keys may be malformed strings, and whether the closing brace was reached. -/
  | object (members : List (Option String × Fragment)) (closed : Bool)
  | misplaced (first : Fragment)
  | cut
  deriving Inhabited

namespace Fragment

mutual

def isComplete : Fragment → Bool
  | .array items closed => areComplete items && closed
  | .object members closed => haveComplete members && closed
  | .misplaced _ => false
  | .cut => false
  | _ => true

def areComplete : List Fragment → Bool
  | [] => true
  | f :: fs => f.isComplete && areComplete fs

def haveComplete : List (Option String × Fragment) → Bool
  | [] => true
  | (_, f) :: ms => f.isComplete && haveComplete ms

end

mutual

def depth : Fragment → Nat
  | .array items _ => depthOfItems items + 1
  | .object members _ => depthOfMembers members + 1
  | .misplaced f => f.depth + 1
  | _ => 0

def depthOfItems : List Fragment → Nat
  | [] => 0
  | f :: fs => max f.depth (depthOfItems fs)

def depthOfMembers : List (Option String × Fragment) → Nat
  | [] => 0
  | (_, f) :: ms => max f.depth (depthOfMembers ms)

end

mutual

def toJson? : Fragment → Option Json
  | .null => some .null
  | .boolean b => some (.boolean b)
  | .number n => some (.number n)
  | .string s => some (.string s)
  | .array items true => (itemsToJson? items).map .array
  | .object members true => (membersToJson? members).map fun ms => .object (sortMembers ms)
  | _ => none

def itemsToJson? : List Fragment → Option (List Json)
  | [] => some []
  | f :: fs => do return (← f.toJson?) :: (← itemsToJson? fs)

def membersToJson? : List (Option String × Fragment) → Option (List (String × Json))
  | [] => some []
  | (k, f) :: ms => do return (← k, ← f.toJson?) :: (← membersToJson? ms)

end

end Fragment

mutual

def toFragment : Json → Fragment
  | .null => .null
  | .boolean b => .boolean b
  | .number n => .number n
  | .string s => .string s
  | .array items => .array (itemsToFragments items) true
  | .object members => .object (membersToFragments members) true

def itemsToFragments : List Json → List Fragment
  | [] => []
  | j :: js => j.toFragment :: itemsToFragments js

def membersToFragments : List (String × Json) → List (Option String × Fragment)
  | [] => []
  | (k, j) :: ms => (some k, j.toFragment) :: membersToFragments ms

end

end FeatureFlags.Json
