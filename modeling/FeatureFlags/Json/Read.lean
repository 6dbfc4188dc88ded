import FeatureFlags.Json.Fragment
import FeatureFlags.Text.Digit

namespace FeatureFlags.Json

namespace Read

def isBlank (c : Char) : Bool := c = ' ' || c = '\t' || c = '\n' || c = '\r'

def skip (cs : List Char) : List Char := cs.dropWhile isBlank

def isHighSurrogate (n : Nat) : Bool := 0xD800 ≤ n && n < 0xDC00

def isLowSurrogate (n : Nat) : Bool := 0xDC00 ≤ n && n < 0xE000

def unescape? : Char → Option Char
  | '"' => some '"'
  | '\\' => some '\\'
  | '/' => some '/'
  | 'b' => some (Char.ofNat 8)
  | 'f' => some (Char.ofNat 12)
  | 'n' => some '\n'
  | 'r' => some '\r'
  | 't' => some '\t'
  | _ => none

inductive Piece
  | char (c : Char)
  | unit (n : Nat)

def pieces? : List Char → Option (List Piece × List Char)
  | '"' :: cs => some ([], cs)
  | '\\' :: 'u' :: a :: b :: c :: d :: cs => do
    let n ← Text.hexNumber? [a, b, c, d]
    let (ps, rest) ← pieces? cs
    return (.unit n :: ps, rest)
  | '\\' :: c :: cs => do
    let c ← unescape? c
    let (ps, rest) ← pieces? cs
    return (.char c :: ps, rest)
  | c :: cs => do
    if c.toNat < 0x20 then none
    let (ps, rest) ← pieces? cs
    return (.char c :: ps, rest)
  | [] => none

def join? : List Piece → Option (List Char)
  | [] => some []
  | .char c :: ps => (c :: ·) <$> join? ps
  | .unit n :: .unit m :: ps =>
    if isHighSurrogate n then
      if isLowSurrogate m then
        (Char.ofNat (0x10000 + (n - 0xD800) * 0x400 + (m - 0xDC00)) :: ·) <$> join? ps
      else none
    else if isLowSurrogate n then none
    else (Char.ofNat n :: ·) <$> join? (.unit m :: ps)
  | .unit n :: ps =>
    if isHighSurrogate n || isLowSurrogate n then none else (Char.ofNat n :: ·) <$> join? ps

def stringBody (cs : List Char) : Option (Option String × List Char) := do
  let (ps, rest) ← pieces? cs
  return ((join? ps).map String.ofList, rest)

def natOf (digits : List Char) : Nat := digits.foldl (fun n c => n * 10 + (c.toNat - 48)) 0

def digits? (cs : List Char) : Option (List Char × List Char) :=
  match cs.takeWhile Char.isDigit with
  | [] => none
  | ds => some (ds, cs.dropWhile Char.isDigit)

def whole? (cs : List Char) : Option (List Char × List Char) := do
  let (ds, rest) ← digits? cs
  if ds.head? = some '0' && ds.length != 1 then none else some (ds, rest)

def fraction? : List Char → Option (Option (List Char) × List Char)
  | '.' :: cs => do
    let (ds, rest) ← digits? cs
    return (some ds, rest)
  | cs => some (none, cs)

def exponent? : List Char → Option (Option Int × List Char)
  | c :: cs =>
    if c = 'e' || c = 'E' then
      match cs with
      | '-' :: cs => do
        let (ds, rest) ← digits? cs
        return (some (-(natOf ds : Int)), rest)
      | '+' :: cs => do
        let (ds, rest) ← digits? cs
        return (some (natOf ds : Int), rest)
      | cs => do
        let (ds, rest) ← digits? cs
        return (some (natOf ds : Int), rest)
    else some (none, c :: cs)
  | [] => some (none, [])

/-- Takes digits into a number while 64 bits hold it; with those that are left over. -/
def absorb (n : Nat) : List Char → Nat × List Char
  | [] => (n, [])
  | c :: cs =>
    let m := n * 10 + (c.toNat - 48)
    if m < UInt64.size then absorb m cs else (n, c :: cs)

/-- The decimal of digits before and after the point and an exponent. Digits that are left over count
for their places before the point, and for nothing after it. -/
def decimal (ds fs : List Char) (e : Int) : Decimal :=
  let (whole, beyond) := absorb 0 ds
  -- even after digits were left over, one more may still fit
  let (digits, unread) := absorb whole fs
  ⟨digits, e + beyond.length - (fs.length - unread.length : Nat)⟩

/-- A number of 64 bits in digits alone. What is below the signed ones is a double, and so is a negative
zero. -/
def wholeNumber (negative : Bool) (n : Nat) : Number :=
  if !negative then .integer n
  else if n != 0 && n ≤ UInt64.size / 2 then .integer (-(n : Int))
  else .double (.ofMagnitude true (Double.wholeMagnitude n))

def number? (negative : Bool) (cs : List Char) : Option (Fragment × List Char) := do
  let (ds, rest) ← whole? cs
  let (fs, rest) ← fraction? rest
  let (e, rest) ← exponent? rest
  if fs.isNone && e.isNone && natOf ds < UInt64.size then
    return (.number (wholeNumber negative (natOf ds)), rest)
  else match (decimal ds (fs.getD []) (e.getD 0)).toDouble? negative with
    | some d => return (.number (.double d), rest)
    | none => return (.overflow, rest)

def after? : List Char → List Char → Option (List Char)
  | [], cs => some cs
  | w :: ws, c :: cs => if w = c then after? ws cs else none
  | _ :: _, [] => none

def word (said : Fragment) (w : String) (cs : List Char) : Fragment × Option (List Char) :=
  match after? w.toList cs with
  | some rest => (said, some rest)
  | none => (.cut, none)

def scalar (cs : List Char) : Fragment × Option (List Char) :=
  match cs with
  | 'n' :: cs => word .null "ull" cs
  | 't' :: cs => word (.boolean true) "rue" cs
  | 'f' :: cs => word (.boolean false) "alse" cs
  | '"' :: cs =>
    match stringBody cs with
    | some (some s, rest) => (.string s, some rest)
    | some (none, rest) => (.malformedString, some rest)
    | none => (.cut, none)
  | '-' :: cs => ((number? true cs).map fun (f, rest) => (f, some rest)).getD (.cut, none)
  | cs => ((number? false cs).map fun (f, rest) => (f, some rest)).getD (.cut, none)

mutual

/-- The first argument bounds the number of tokens, which the number of characters does. -/
def value : Nat → List Char → Fragment × Option (List Char)
  | 0, _ => (.cut, none)
  | n + 1, cs =>
    match skip cs with
    | '[' :: cs =>
      match skip cs with
      | ']' :: cs => (.array [] true, some cs)
      | cs =>
        let (fs, rest) := items n cs
        (.array fs rest.isSome, rest)
    | '{' :: cs =>
      match skip cs with
      | '}' :: cs => (.object [] true, some cs)
      | '"' :: cs =>
        let (ms, rest) := members n cs
        (.object ms rest.isSome, rest)
      | cs => (.misplaced (value n cs).1, none)
    | cs => scalar cs

def items : Nat → List Char → List Fragment × Option (List Char)
  | 0, _ => ([], none)
  | n + 1, cs =>
    match value n cs with
    | (f, none) => ([f], none)
    | (f, some cs) =>
      match skip cs with
      | ']' :: cs => ([f], some cs)
      | ',' :: cs =>
        match skip cs with
        | ']' :: _ => ([f], none)
        | cs =>
          let (fs, rest) := items n cs
          (f :: fs, rest)
      | _ => ([f], none)

def members : Nat → List Char → List (Option String × Fragment) × Option (List Char)
  | 0, _ => ([], none)
  | n + 1, cs =>
    match stringBody cs with
    | none => ([], none)
    | some (key, cs) =>
      match skip cs with
      | ':' :: cs =>
        match value n cs with
        | (f, none) => ([(key, f)], none)
        | (f, some cs) =>
          match skip cs with
          | '}' :: cs => ([(key, f)], some cs)
          | ',' :: cs =>
            match skip cs with
            | '"' :: cs =>
              let (ms, rest) := members n cs
              ((key, f) :: ms, rest)
            | _ => ([(key, f)], none)
          | _ => ([(key, f)], none)
      | _ => ([(key, .cut)], none)

end

end Read

def read (text : String) : Fragment × Option (List Char) :=
  Read.value (text.length + 1) text.toList

end FeatureFlags.Json
