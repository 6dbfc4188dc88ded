import FeatureFlags.Calendar.Date

namespace FeatureFlags

/-- A time of day in seconds and nanoseconds. A second that ends a minute may last for two thousand
million nanoseconds; its second half is a leap second. -/
structure Time where
  second : Nat
  nano : Nat
  second_lt : second < 86400
  nano_lt : nano < 1000000000 ∨ second % 60 = 59 ∧ nano < 2000000000
  deriving DecidableEq

namespace Time

def ofParts? (hour minute second nano : Nat) : Option Time :=
  let (second, nano) := if second = 60 then (59, nano + 1000000000) else (second, nano)
  let total := hour * 3600 + minute * 60 + second
  if hour ≤ 23 && minute ≤ 59 && second ≤ 59 then
    if h : total < 86400 ∧ (nano < 1000000000 ∨ total % 60 = 59 ∧ nano < 2000000000) then
      some ⟨total, nano, h.1, h.2⟩
    else none
  else none

def fractionText (nano : Nat) : String :=
  if nano = 0 then ""
  else if nano % 1000000 = 0 then "." ++ Date.padded 3 (nano / 1000000)
  else if nano % 1000 = 0 then "." ++ Date.padded 6 (nano / 1000)
  else "." ++ Date.padded 9 nano

def text (t : Time) : String :=
  let leap := 1000000000 ≤ t.nano
  let second := t.second % 60 + if leap then 1 else 0
  Date.padded 2 (t.second / 3600) ++ ":" ++ Date.padded 2 (t.second / 60 % 60) ++ ":" ++
    Date.padded 2 second ++ fractionText (t.nano % 1000000000)

end Time

namespace Calendar

def readFraction (cs : List Char) : Option (Nat × List Char) :=
  match (cs.take 9).takeWhile Char.isDigit with
  | [] => none
  | ds => some (number ds * Nat.pow 10 (9 - ds.length), (cs.drop ds.length).dropWhile Char.isDigit)

def readSeconds (cs : List Char) : Option ((Nat × Nat) × List Char) := do
  let (second, cs) ← readNumber 2 (← readMark ':' cs)
  let (nano, cs) ← match cs with
    | '.' :: cs => readFraction cs
    | cs => some (0, cs)
  return ((second, nano), cs)

end Calendar

open Calendar in
def Time.parse? (s : String) : Option Time := do
  let (hour, cs) ← readNumber 2 s.toList
  let (minute, cs) ← readNumber 2 (← readMark ':' cs)
  let ((second, nano), cs) := (readSeconds cs).getD ((0, 0), cs)
  if (Text.trimStart cs).isEmpty && second ≤ 60 then Time.ofParts? hour minute second nano else none

end FeatureFlags
