import FeatureFlags.Number.Decimal
import FeatureFlags.Text.Blank

namespace FeatureFlags

namespace Date

def leastYear : Int := -262143

def greatestYear : Int := 262142

def isLeap (year : Int) : Bool := year % 4 = 0 && (year % 100 != 0 || year % 400 = 0)

def monthLength (year : Int) (month : Nat) : Nat :=
  if month = 2 then if isLeap year then 29 else 28
  else if month = 4 || month = 6 || month = 9 || month = 11 then 30
  else 31

def Exists (year : Int) (month day : Nat) : Prop :=
  leastYear ≤ year ∧ year ≤ greatestYear ∧ 1 ≤ month ∧ month ≤ 12 ∧
    1 ≤ day ∧ day ≤ monthLength year month

instance (year : Int) (month day : Nat) : Decidable (Exists year month day) :=
  inferInstanceAs (Decidable (_ ∧ _))

end Date

structure Date where
  year : Int
  month : Nat
  day : Nat
  exist : Date.Exists year month day
  deriving DecidableEq

namespace Date

def ofParts? (year : Int) (month day : Nat) : Option Date :=
  if h : Exists year month day then some ⟨year, month, day, h⟩ else none

def daysBeforeYear (year : Int) : Int :=
  let y := year - 1
  365 * y + y / 4 - y / 100 + y / 400

def daysBeforeMonth (year : Int) : Nat → Nat
  | 0 => 0
  | 1 => 0
  | m + 1 => daysBeforeMonth year m + monthLength year m

def dayNumber (d : Date) : Int :=
  daysBeforeYear d.year + daysBeforeMonth d.year d.month + d.day - 1 - 719162

def leastDayNumber : Int := daysBeforeYear leastYear - 719162

def greatestDayNumber : Int := daysBeforeYear (greatestYear + 1) - 1 - 719162

def padded (n value : Nat) : String :=
  let s := Decimal.text value
  Decimal.zeros (n - s.length) ++ s

def yearText (year : Int) : String :=
  if 0 ≤ year && year ≤ 9999 then padded 4 year.toNat
  else (if year < 0 then "-" else "+") ++ padded 4 year.natAbs

def text (d : Date) : String := yearText d.year ++ "-" ++ padded 2 d.month ++ "-" ++ padded 2 d.day

end Date

namespace Calendar

def number (digits : List Char) : Nat := digits.foldl (fun n c => n * 10 + (c.toNat - 48)) 0

def readNumber (width : Nat) (cs : List Char) : Option (Nat × List Char) :=
  let cs := Text.trimStart cs
  match (cs.take width).takeWhile Char.isDigit with
  | [] => none
  | ds => some (number ds, cs.drop ds.length)

def readYear (cs : List Char) : Option (Int × List Char) :=
  let signed (negative : Bool) (cs : List Char) : Option (Int × List Char) :=
    match cs.takeWhile Char.isDigit with
    | [] => none
    | ds =>
      some (if negative then -(number ds : Int) else number ds, cs.dropWhile Char.isDigit)
  match Text.trimStart cs with
  | '-' :: cs => signed true cs
  | '+' :: cs => signed false cs
  | cs => (readNumber 4 cs).map fun (n, rest) => (n, rest)

def readMark (mark : Char) (cs : List Char) : Option (List Char) :=
  match Text.trimStart cs with
  | c :: rest => if c = mark then some rest else none
  | [] => none

end Calendar

open Calendar in
def Date.parse? (s : String) : Option Date := do
  let (year, cs) ← readYear s.toList
  let (month, cs) ← readNumber 2 (← readMark '-' cs)
  let (day, cs) ← readNumber 2 (← readMark '-' cs)
  if (Text.trimStart cs).isEmpty then Date.ofParts? year month day else none

end FeatureFlags
