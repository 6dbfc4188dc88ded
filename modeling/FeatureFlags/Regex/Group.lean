import FeatureFlags.Regex.Mode

namespace FeatureFlags.Regex

open Unicode

inductive GroupHead
  | flags (m : Mode)
  | group (m : Mode)
  | capture (name : Option String)

namespace GroupHead

def startsName (c : Char) : Bool := c == '_' || alphabetic.contains c

def continuesName (c : Char) : Bool :=
  startsName c || decimalDigits.contains c || (categories ["nl", "no"]).contains c
    || c == '.' || c == '[' || c == ']'

def name? (cs : List Char) : Option (GroupHead × List Char) := do
  let name := cs.takeWhile (· != '>')
  let c :: rest := name | none
  let '>' :: after := cs.drop name.length | none
  if startsName c && rest.all continuesName then
    return (.capture (some (String.ofList name)), after)
  else none

def flags? (m : Mode) (cs : List Char) : Option (GroupHead × List Char) := do
  let letters := cs.takeWhile fun c => c != ':' && c != ')'
  let changed ← m.change? letters
  match cs.drop letters.length with
  | ':' :: rest => return (.group changed, rest)
  | ')' :: rest => if letters.isEmpty then none else return (.flags changed, rest)
  | _ => none

/-- Reads from after the parenthesis. Groups that look around are not known. -/
def read? (m : Mode) (cs : List Char) : Option (GroupHead × List Char) :=
  match m.skip cs with
  | '?' :: '=' :: _ | '?' :: '!' :: _ | '?' :: '<' :: '=' :: _ | '?' :: '<' :: '!' :: _ => none
  | '?' :: 'P' :: '<' :: rest => name? rest
  | '?' :: '<' :: rest => name? rest
  | '?' :: rest => flags? m rest
  | rest => some (.capture none, rest)

end GroupHead

namespace Repetition

def dropLazy : List Char → List Char
  | '?' :: cs => cs
  | cs => cs

def number (m : Mode) (cs : List Char) : Option Nat × List Char :=
  let cs := cs.dropWhile Text.isBlank
  let digits := (m.visible cs).takeWhile (·.1.isDigit)
  match digits.getLast? with
  | none => (none, cs)
  | some (_, rest) =>
    let n := digits.foldl (fun n d => 10 * n + (d.1.toNat - 48)) 0
    (if n < UInt32.size then some n else none, (m.skip rest).dropWhile Text.isBlank)

def bounds? (m : Mode) (cs : List Char) : Option (Nat × Option Nat × List Char) := do
  let (least, rest) := number m (m.skip cs)
  let least ← least
  match rest with
  | '\x7d' :: rest => return (least, some least, rest)
  | ',' :: rest =>
    match m.skip rest with
    | '\x7d' :: rest => return (least, none, rest)
    | rest =>
      let (most, rest) := number m rest
      let most ← most
      let '\x7d' :: rest := rest | none
      if least ≤ most then return (least, some most, rest) else none
  | _ => none

end Repetition

end FeatureFlags.Regex
