import FeatureFlags.Json.Basic

namespace FeatureFlags.Json

def hexDigit (n : Nat) : Char := (Nat.toDigits 16 (n % 16)).headD '0'

def escape (c : Char) : List Char :=
  if c = '"' then ['\\', '"']
  else if c = '\\' then ['\\', '\\']
  else if 0x20 ≤ c.toNat then [c]
  else if c.toNat = 8 then ['\\', 'b']
  else if c.toNat = 9 then ['\\', 't']
  else if c.toNat = 10 then ['\\', 'n']
  else if c.toNat = 12 then ['\\', 'f']
  else if c.toNat = 13 then ['\\', 'r']
  else ['\\', 'u', '0', '0', hexDigit (c.toNat / 16), hexDigit c.toNat]

def quote (s : String) : String := String.ofList ('"' :: s.toList.flatMap escape ++ ['"'])

mutual

def compact : Json → String
  | .null => "null"
  | .boolean b => if b then "true" else "false"
  | .number n => n.text
  | .string s => quote s
  | .array items => "[" ++ ",".intercalate (compactItems items) ++ "]"
  | .object members => "\x7b" ++ ",".intercalate (compactMembers members) ++ "\x7d"

def compactItems : List Json → List String
  | [] => []
  | j :: js => j.compact :: compactItems js

def compactMembers : List (String × Json) → List String
  | [] => []
  | (k, j) :: ms => (quote k ++ ":" ++ j.compact) :: compactMembers ms

end

def block (indent opening closing : String) (parts : List String) : String :=
  if parts.isEmpty then opening ++ closing
  else
    let inner := indent ++ "    "
    opening ++ "\n" ++ inner ++ (",\n" ++ inner).intercalate parts ++ "\n" ++ indent ++ closing

mutual

def pretty (indent : String) : Json → String
  | .array items => block indent "[" "]" (prettyItems (indent ++ "    ") items)
  | .object members => block indent "\x7b" "\x7d" (prettyMembers (indent ++ "    ") members)
  | j => j.compact

def prettyItems (indent : String) : List Json → List String
  | [] => []
  | j :: js => j.pretty indent :: prettyItems indent js

def prettyMembers (indent : String) : List (String × Json) → List String
  | [] => []
  | (k, j) :: ms => (quote k ++ ": " ++ j.pretty indent) :: prettyMembers indent ms

end

end FeatureFlags.Json
