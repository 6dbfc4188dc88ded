/-!
Binary64 numbers as bit patterns. A finite number is a whole multiple of `2 ^ (-1074)`, so sums and
quotients are computed exactly in `Nat` and `Int` and rounded once, to nearest with ties to even.
-/

namespace FeatureFlags

structure Double where
  bits : UInt64
  deriving DecidableEq, Inhabited

namespace Double

def infinityMagnitude : Nat := 0x7FF0000000000000

def signBit : Nat := 0x8000000000000000

def fractions : Nat := 0x10000000000000

def isNegative (d : Double) : Bool := signBit ≤ d.bits.toNat

/-- The bits below the sign. Among numbers of one sign it grows with the absolute value. -/
def magnitude (d : Double) : Nat := d.bits.toNat % signBit

def isNaN (d : Double) : Bool := infinityMagnitude < d.magnitude

def isFinite (d : Double) : Bool := d.magnitude < infinityMagnitude

def ofMagnitude (negative : Bool) (magnitude : Nat) : Double :=
  ⟨.ofNat (if negative then magnitude + signBit else magnitude)⟩

def zero : Double := ofMagnitude false 0

def nan : Double := ofMagnitude false (infinityMagnitude + fractions / 2)

def infinity : Double := ofMagnitude false infinityMagnitude

def neg (d : Double) : Double := ofMagnitude (!d.isNegative) d.magnitude

def abs (d : Double) : Double := ofMagnitude false d.magnitude

def units (magnitude : Nat) : Nat :=
  if magnitude < fractions then magnitude
  else (fractions + magnitude % fractions) <<< (magnitude / fractions - 1)

def scaled (d : Double) : Int :=
  if d.isNegative then -(units d.magnitude : Int) else units d.magnitude

def roundRatio (num den : Nat) : Nat :=
  let q := num / den
  let r := num % den
  if 2 * r < den then q else if den < 2 * r then q + 1 else q + q % 2

def nearestMagnitude (num den : Nat) : Nat :=
  let shift := (num / den).log2 - 52
  min infinityMagnitude (shift * fractions + roundRatio num (den <<< shift))

def unitsInOne : Nat := 1 <<< 1074

def ofRatio (negative : Bool) (num den : Nat) : Double :=
  ofMagnitude negative (nearestMagnitude (num * unitsInOne) den)

def ofInt (i : Int) : Double := ofRatio (i < 0) i.natAbs 1

def wholeMagnitude (n : Nat) : Nat := nearestMagnitude (n * unitsInOne) 1

def productMagnitude (a b : Nat) : Nat := nearestMagnitude (units a * units b) unitsInOne

def quotientMagnitude (a b : Nat) : Nat := nearestMagnitude (units a * unitsInOne) (units b)

def add (a b : Double) : Double :=
  if a.isNaN || b.isNaN then nan
  else if !a.isFinite then if !b.isFinite && a.isNegative != b.isNegative then nan else a
  else if !b.isFinite then b
  else
    let sum := a.scaled + b.scaled
    if sum = 0 then ofMagnitude (a.isNegative && b.isNegative) 0
    else ofMagnitude (sum < 0) (nearestMagnitude sum.natAbs 1)

def sub (a b : Double) : Double := a.add b.neg

def rank (d : Double) : Int := if d.isNegative then -(d.magnitude : Int) else d.magnitude

def le (a b : Double) : Bool := !a.isNaN && !b.isNaN && a.rank ≤ b.rank

def lt (a b : Double) : Bool := !a.isNaN && !b.isNaN && a.rank < b.rank

def equal (a b : Double) : Bool := !a.isNaN && !b.isNaN && a.rank == b.rank

/-- The place of a bit pattern in the total order, which separates the zeros and the NaNs. -/
def totalRank (d : Double) : Int := if d.isNegative then -(d.magnitude : Int) - 1 else d.magnitude

def totalCompare (a b : Double) : Ordering := compare a.totalRank b.totalRank

def isEven (d : Double) : Bool := d.isFinite && units d.magnitude % (2 * unitsInOne) == 0

def isOdd (d : Double) : Bool := d.isFinite && units d.magnitude % (2 * unitsInOne) == unitsInOne

end Double

end FeatureFlags
