import FeatureFlags.Number.Double

namespace FeatureFlags

structure Decimal where
  digits : Nat
  exponent : Int
  deriving DecidableEq, Repr

namespace Decimal

def text (n : Nat) : String := String.ofList (Nat.toDigits 10 n)

def width (n : Nat) : Nat := (Nat.toDigits 10 n).length

def trim (d : Decimal) : Decimal := go (width d.digits) d
where
  go : Nat → Decimal → Decimal
    | 0, d => d
    | n + 1, d =>
      if d.digits != 0 && d.digits % 10 == 0 then go n ⟨d.digits / 10, d.exponent + 1⟩ else d

def greatestPower : Nat := 308

def powerMagnitude (n : Nat) : Nat := Double.wholeMagnitude (Nat.pow 10 n)

def divide (magnitude n : Nat) : Nat :=
  if n ≤ greatestPower then Double.quotientMagnitude magnitude (powerMagnitude n)
  else if magnitude = 0 then 0
  else divide (Double.quotientMagnitude magnitude (powerMagnitude greatestPower)) (n - greatestPower)
termination_by n
decreasing_by
  unfold greatestPower at *
  omega

def multiply? (magnitude n : Nat) : Option Nat :=
  if n ≤ greatestPower then
    let product := Double.productMagnitude magnitude (powerMagnitude n)
    if product < Double.infinityMagnitude then some product else none
  else if magnitude = 0 then some 0
  else none

/-- The number that is read of a decimal; none if it is too large to be finite. The digits, the power
of ten and what comes of both are rounded one after another, so it need not be the nearest one. -/
def toDouble? (negative : Bool) (d : Decimal) : Option Double :=
  let digits := Double.wholeMagnitude d.digits
  let magnitude :=
    if 0 ≤ d.exponent then multiply? digits d.exponent.toNat
    else some (divide digits d.exponent.natAbs)
  magnitude.map (.ofMagnitude negative)

inductive Tie
  | up | even
  deriving DecidableEq

def leadingExponent (num den : Nat) : Int :=
  if den ≤ num then width (num / den) - 1
  else
    let w := width (den / num)
    if den ≤ num * Nat.pow 10 (w - 1) then -((w : Int) - 1) else -w

/-- The multiple of `10 ^ exponent` that rounds to the finite nonzero `magnitude` and is nearest to it,
if there is one. It lies between the midpoints to the neighbouring magnitudes, which round to the even
one of the two. -/
def onGrid? (tie : Tie) (magnitude : Nat) (exponent : Int) : Option Decimal :=
  let up := Nat.pow 10 exponent.toNat
  let down := Nat.pow 10 (-exponent).toNat
  let value := Double.units magnitude
  let low := (Double.units (magnitude - 1) + value) * down
  let high := (value + Double.units (magnitude + 1)) * down
  let step := Double.unitsInOne * up
  let inside (d : Nat) : Bool :=
    let p := 2 * d * step
    if magnitude % 2 = 0 then low ≤ p && p ≤ high else low < p && p < high
  let floor := value * down / step
  let rest := 2 * (value * down % step)
  match inside floor, inside (floor + 1) with
  | false, false => none
  | true, false => some ⟨floor, exponent⟩
  | false, true => some ⟨floor + 1, exponent⟩
  | true, true =>
    let goesUp := step < rest || rest == step && (tie == .up || floor % 2 == 1)
    some ⟨if goesUp then floor + 1 else floor, exponent⟩

/-- The shortest decimal that rounds to a finite magnitude: the coarsest of the grids of one to
seventeen digits that has one. -/
def shortest (tie : Tie) (magnitude : Nat) : Decimal :=
  if magnitude = 0 then ⟨0, 0⟩
  else
    let lead := leadingExponent (Double.units magnitude) Double.unitsInOne
    let found := (List.range 17).findSome? fun n : Nat => onGrid? tie magnitude (lead - n)
    (found.getD ⟨Double.units magnitude, -1074⟩).trim

def zeros (n : Nat) : String := String.ofList (List.replicate n '0')

def positional (whole : String) (d : Decimal) : String :=
  let ds := Nat.toDigits 10 d.digits
  let point := d.exponent + ds.length
  if 0 ≤ d.exponent then String.ofList ds ++ zeros d.exponent.toNat ++ whole
  else if 0 < point then
    String.ofList (ds.take point.toNat) ++ "." ++ String.ofList (ds.drop point.toNat)
  else "0." ++ zeros point.natAbs ++ String.ofList ds

def exponential (d : Decimal) : String :=
  let ds := Nat.toDigits 10 d.digits
  let e := d.exponent + ds.length - 1
  let mantissa := match ds with
    | [] => ""
    | c :: [] => c.toString
    | c :: cs => c.toString ++ "." ++ String.ofList cs
  mantissa ++ "e" ++ (if e < 0 then "-" else "+") ++ text e.natAbs

end Decimal

namespace Double

def sign (d : Double) : String := if d.isNegative then "-" else ""

def display (d : Double) : String :=
  if d.isNaN then "NaN"
  else if !d.isFinite then d.sign ++ "inf"
  else d.sign ++ (Decimal.shortest .up d.magnitude).positional ""

/-- The fewest digits that tell the number, with `.0` when whole; an exponent is written where the
leading digit stands below `10 ^ (-5)` or above `10 ^ 15`. -/
def jsonText (d : Double) : String :=
  let decimal := Decimal.shortest .even d.magnitude
  let lead := decimal.exponent + Decimal.width decimal.digits - 1
  d.sign ++ if lead < -5 || 15 < lead then decimal.exponential else decimal.positional ".0"

end Double

end FeatureFlags
