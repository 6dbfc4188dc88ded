import FeatureFlags.Regex.Mode

namespace FeatureFlags.Regex

open Unicode

inductive Atom
  | char (c : Char)
  | set (s : CharSet)
  | look (l : Look)

namespace Ascii

def digits : CharSet := .range 0x30 0x39

def upper : CharSet := .range 0x41 0x5A

def lower : CharSet := .range 0x61 0x7A

def word : CharSet := digits ∪ upper ∪ lower ∪ .single '_'

def space : CharSet := .ofString " \t\n\x0b\x0c\r"

end Ascii

namespace Escape

def braced? (m : Mode) (cs : List Char) : Option (List Char × List Char) :=
  let inside := (m.visible cs).takeWhile (·.1 != '\x7d')
  match (m.visible cs).drop inside.length with
  | (_, rest) :: _ => some (inside.map (·.1), rest)
  | [] => none

def ofCodePoint? (n : Nat) : Option Char := if n.isValidChar then some (Char.ofNat n) else none

def codePoint? (m : Mode) (width : Nat) (cs : List Char) : Option (Atom × List Char) :=
  match m.visible cs with
  | ('\x7b', rest) :: _ => do
    let (digits, rest) ← braced? m rest
    if digits.isEmpty then none
    return (.char (← ofCodePoint? (← Text.hexNumber? digits)), rest)
  | visible => do
    let digits := visible.take width
    if digits.length < width then none
    let c ← ofCodePoint? (← Text.hexNumber? (digits.map (·.1)))
    let (_, rest) ← digits.getLast?
    -- Two digits stand for a byte, which beyond ASCII is no character of its own.
    if width = 2 && !m.unicode && 0x7F < c.toNat then none
    return (.char c, rest)

def property? (m : Mode) (negated : Bool) (cs : List Char) : Option (Atom × List Char) := do
  let (description, rest) ← match m.visible cs with
    | ('\x7b', rest) :: _ => braced? m rest
    | ('\\', _) :: _ => none
    | (c, rest) :: _ => some ([c], rest)
    | [] => none
  if !m.unicode then none
  let s := m.fold (← described? description)
  return (.set (← if negated then m.negate? s else some s), rest)

def edges : List (String × WordEdge) :=
  [("start", .start), ("end", .finish), ("start-half", .startHalf), ("end-half", .finishHalf)]

def wordLook (m : Mode) (edge : WordEdge) : Atom :=
  .look (.word edge (if m.unicode then wordCharacters else Ascii.word))

/-- A brace after a boundary holds its kind if that starts with a letter or a hyphen, and is no part of it
otherwise. -/
def boundary? (m : Mode) : List Char → Option (Atom × List Char)
  | '\x7b' :: cs => do
    let (first, _) ← (m.visible cs).head?
    if !first.isAlpha && first != '-' then return (wordLook m .boundary, '\x7b' :: cs)
    let (name, rest) ← braced? m cs
    return (wordLook m (← edges.lookup (String.ofList name)), rest)
  | cs => some (wordLook m .boundary, cs)

def shorthand (m : Mode) : Char → Option CharSet
  | 'd' => some (if m.unicode then decimalDigits else Ascii.digits)
  | 's' => some (if m.unicode then whiteSpace else Ascii.space)
  | 'w' => some (if m.unicode then wordCharacters else Ascii.word)
  | _ => none

/-- What stands after a backslash, and the rest. Any ASCII character that is no letter or digit may be
escaped, and then stands for itself. -/
def read? (m : Mode) : List Char → Option (Atom × List Char)
  | [] => none
  | c :: cs =>
    match c with
    | 'x' => codePoint? m 2 cs
    | 'u' => codePoint? m 4 cs
    | 'U' => codePoint? m 8 cs
    | 'p' => property? m false cs
    | 'P' => property? m true cs
    | 'd' | 's' | 'w' => (shorthand m c).map fun s => (.set s, cs)
    | 'D' | 'S' | 'W' => ((shorthand m c.toLower).bind m.negate?).map fun s => (.set s, cs)
    | 'a' => some (.char '\x07', cs)
    | 'f' => some (.char '\x0c', cs)
    | 't' => some (.char '\t', cs)
    | 'n' => some (.char '\n', cs)
    | 'r' => some (.char '\r', cs)
    | 'v' => some (.char '\x0b', cs)
    | 'A' => some (.look .start, cs)
    | 'z' => some (.look .finish, cs)
    | 'b' => boundary? m cs
    | 'B' => some (wordLook m .notBoundary, cs)
    | '<' => some (wordLook m .start, cs)
    | '>' => some (wordLook m .finish, cs)
    | c => if c.toNat < 0x80 && !c.isAlphanum then some (.char c, cs) else none

end Escape

end FeatureFlags.Regex
