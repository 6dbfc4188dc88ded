namespace FeatureFlags.Text

def occursIn (part : List Char) : List Char → Bool
  | [] => part.isEmpty
  | c :: cs => part.isPrefixOf (c :: cs) || occursIn part cs

def startsWith (s part : String) : Bool := part.toList.isPrefixOf s.toList

def endsWith (s part : String) : Bool := part.toList.isSuffixOf s.toList

def contains (s part : String) : Bool := occursIn part.toList s.toList

def cut? (part : List Char) : List Char → Option (List Char × List Char)
  | [] => if part.isEmpty then some ([], []) else none
  | c :: cs =>
    if part.isPrefixOf (c :: cs) then some ([], (c :: cs).drop part.length)
    else (cut? part cs).map fun (before, after) => (c :: before, after)

end FeatureFlags.Text
