import FeatureFlags.Calendar.Time
import FeatureFlags.Calendar.Instant
import FeatureFlags.Text.Digit

namespace FeatureFlags

inductive Offset
  | fixed (seconds : Int) (lt_day : seconds.natAbs < 86400)
  | «local»
  deriving DecidableEq

namespace Offset

inductive Refusal
  | form (text : String)
  | hours (text : String)
  | minutes (text : String)
  | range (text : String)
  deriving DecidableEq

def Refusal.message : Refusal → String
  | .form s => "invalid time zone offset '" ++ s ++ "'"
  | .hours s => "invalid hours in '" ++ s ++ "'"
  | .minutes s => "invalid minutes in '" ++ s ++ "'"
  | .range s => "time zone offset '" ++ s ++ "' out of range"

def twoDigits? (a b : Char) : Option Nat :=
  if a.isDigit && b.isDigit then some (Calendar.number [a, b]) else none

/-- Reads `local` or a sign, two digits, a colon and two digits. Digits of any script have the form of
an offset, but only ASCII digits have a value. -/
def parse (s : String) : Except Refusal Offset :=
  if s = "local" then .ok .local
  else match s.toList with
    | [sign, a, b, ':', c, d] =>
      if (sign = '+' || sign = '-') && [a, b, c, d].all Text.isDecimalDigit then
        match twoDigits? a b, twoDigits? c d with
        | none, _ => .error (.hours s)
        | _, none => .error (.minutes s)
        | some hours, some minutes =>
          let seconds : Int := (hours * 60 + minutes) * 60
          let seconds := if sign = '-' then -seconds else seconds
          if h : seconds.natAbs < 86400 then .ok (.fixed seconds h) else .error (.range s)
      else .error (.form s)
    | _ => .error (.form s)

def text : Offset → String
  | .local => "local"
  | .fixed s _ =>
    let minutes := s.natAbs / 60
    (if s < 0 then "-" else "+") ++ Date.padded 2 (minutes / 60) ++ ":" ++
      Date.padded 2 (minutes % 60)

end Offset

def Instant.ofWallClock? (date : Date) (time : Time) (ahead : Int) : Option Instant :=
  let seconds := date.dayNumber * 86400 + time.second - ahead
  if Date.leastDayNumber * 86400 ≤ seconds && seconds < (Date.greatestDayNumber + 1) * 86400 then
    some ⟨seconds, time.nano⟩
  else none

/-- The first instant at which the clocks of a place show a date and time. They may skip some. -/
def Zone := Date → Time → Option Instant

def Zone.utc : Zone := fun date time => Instant.ofWallClock? date time 0

structure Moment where
  instant : Instant
  zone : Zone

instance : Coe Instant Moment := ⟨fun i => ⟨i, .utc⟩⟩

def Moment.epoch : Moment := ⟨⟨0, 0⟩, .utc⟩

end FeatureFlags
