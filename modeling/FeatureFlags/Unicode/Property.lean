import FeatureFlags.Text.Search
import FeatureFlags.Unicode.GeneralCategory
import FeatureFlags.Unicode.Script
import FeatureFlags.Unicode.BinaryProperty
import FeatureFlags.Unicode.Age
import FeatureFlags.Unicode.Segmentation

namespace FeatureFlags.Unicode

def decimalDigits : CharSet := .unions (Text.digitZeros.map fun z => .range z (z + 9))

def categories (names : List String) : CharSet := .unions (names.map generalCategories.get)

def marks : CharSet := categories ["mn", "mc", "me"]

def casedLetters : CharSet := categories ["lu", "ll", "lt"]

def letters : CharSet := casedLetters ∪ categories ["lm", "lo"]

def assigned : CharSet := .unions (decimalDigits :: generalCategories.map Row.set)

def composedCategory? : String → Option CharSet
  | "nd" | "decimalnumber" | "digit" => some decimalDigits
  | "lc" | "casedletter" => some casedLetters
  | "l" | "letter" => some letters
  | "m" | "mark" | "combiningmark" => some marks
  | "n" | "number" => some (decimalDigits ∪ categories ["nl", "no"])
  | "p" | "punctuation" | "punct" => some (categories ["pc", "pd", "ps", "pe", "pi", "pf", "po"])
  | "s" | "symbol" => some (categories ["sm", "sc", "sk", "so"])
  | "z" | "separator" => some (categories ["zs", "zl", "zp"])
  | "c" | "other" => some (categories ["cc", "cf", "co"] ∪ assigned.compl)
  | "cn" | "unassigned" => some assigned.compl
  | "any" => some .all
  | "assigned" => some assigned
  | "ascii" => some (.range 0 0x7F)
  | _ => none

def lowercase : CharSet := categories ["ll"] ∪ binaryProperties.get "olower"

def uppercase : CharSet := categories ["lu"] ∪ binaryProperties.get "oupper"

def alphabetic : CharSet :=
  lowercase ∪ uppercase ∪ categories ["lt", "lm", "lo", "nl"] ∪ binaryProperties.get "oalpha"

def wordCharacters : CharSet :=
  alphabetic ∪ marks ∪ decimalDigits ∪ categories ["pc"] ∪ binaryProperties.get "joinc"

def whiteSpace : CharSet := binaryProperties.get "wspace"

def graphemeExtend : CharSet := categories ["me", "mn"] ∪ binaryProperties.get "ogrext"

def identifierStart : CharSet :=
  (letters ∪ categories ["nl"] ∪ binaryProperties.get "oids").diff
    (binaryProperties.get "patsyn" ∪ binaryProperties.get "patws")

def identifierContinue : CharSet :=
  identifierStart ∪ categories ["mn", "mc", "pc"] ∪ decimalDigits ∪ binaryProperties.get "oidc"

/-- What identifiers may start with, but may not any more once normalised. -/
def unstableStart : CharSet :=
  Row.set ⟨[], ["37A AB8 7F 21E7+1 CBC1+5 196+1 74 1 1 1 1 1 1 1 11F+1"]⟩

def unstableContinue : CharSet := Row.set ⟨[], ["37A 2D20+1 CBC1+5 196+1 74 1 1 1 1 1 1 1"]⟩

def composedProperty? : String → Option CharSet
  | "lower" | "lowercase" => some lowercase
  | "upper" | "uppercase" => some uppercase
  | "alpha" | "alphabetic" => some alphabetic
  | "math" => some (categories ["sm"] ∪ binaryProperties.get "omath")
  | "cased" => some (lowercase ∪ uppercase ∪ categories ["lt"])
  | "ci" | "caseignorable" =>
    some (categories ["mn", "me", "cf", "lm", "sk"] ∪ .unions (["ml", "mb", "sq"].map wordBreaks.get))
  | "cwcm" | "changeswhencasemapped" => some (.unions (["cwl", "cwu", "cwt"].map binaryProperties.get))
  | "grext" | "graphemeextend" => some graphemeExtend
  | "grbase" | "graphemebase" =>
    some (assigned.diff (categories ["cc", "cf", "co", "zl", "zp"] ∪ graphemeExtend))
  | "di" | "defaultignorablecodepoint" =>
    some ((categories ["cf"] ∪ .unions (["vs", "odi"].map binaryProperties.get)).diff
      (whiteSpace ∪ .range 0xFFF9 0xFFFB ∪ .range 0x13430 0x1343F ∪ binaryProperties.get "pcm"))
  | "ids" | "idstart" => some identifierStart
  | "idc" | "idcontinue" => some identifierContinue
  | "xids" | "xidstart" => some (identifierStart.diff unstableStart)
  | "xidc" | "xidcontinue" => some (identifierContinue.diff unstableContinue)
  | _ => none

def category? (name : String) : Option CharSet := composedCategory? name <|> generalCategories.find? name

def binaryProperty? (name : String) : Option CharSet :=
  composedProperty? name <|> binaryProperties.find? name

def age? (name : String) : Option CharSet :=
  match ages.span (!·.names.contains name) with
  | (_, []) => none
  | (before, row :: _) => some (.unions (row.set :: before.map Row.set))

/-- The name that stands for all its spellings: case, spaces, hyphens and underscores make no
difference, nor does `is` before the name. -/
def looseName (name : List Char) : String :=
  let startsWithIs := (name.take 2).map Char.toLower == ['i', 's']
  let kept := (if startsWithIs then name.drop 2 else name).filter fun c =>
    c.toNat < 0x80 && c != ' ' && c != '_' && c != '-'
  let loose := String.ofList (kept.map Char.toLower)
  if startsWithIs && loose == "c" then "isc" else loose

def named? (name : List Char) : Option CharSet :=
  let loose := looseName name
  binaryProperty? loose <|> category? loose <|> scripts.find? loose

def valued? (property value : List Char) : Option CharSet :=
  let value := looseName value
  match looseName property with
  | "gc" | "generalcategory" => category? value
  | "sc" | "script" => scripts.find? value
  | "scx" | "scriptextensions" => scriptExtensions.find? value <|> scripts.find? value
  | "age" => age? value
  | "gcb" | "graphemeclusterbreak" => graphemeBreaks.find? value
  | "wb" | "wordbreak" => wordBreaks.find? value
  | "sb" | "sentencebreak" => sentenceBreaks.find? value
  | _ => none

/-- The set that `name`, `property=value`, `property:value` or `property!=value` describes. The sign only
separates: whether the set or its complement is meant is for those to say who ask for it. -/
def described? (description : List Char) : Option CharSet :=
  let parts := Text.cut? ['!', '='] description <|> Text.cut? [':'] description <|>
    Text.cut? ['='] description
  match parts with
  | some (property, value) => valued? property value
  | none => named? description

end FeatureFlags.Unicode
