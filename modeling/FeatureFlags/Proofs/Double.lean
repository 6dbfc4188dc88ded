import FeatureFlags.Number.Double
import Mathlib.Order.Monotone.Basic
import Mathlib.Order.Basic

namespace FeatureFlags

namespace Double

section OfMagnitude

variable {negative : Bool} {m : Nat}

theorem toNat_bits_ofMagnitude (h : m < signBit) :
    (ofMagnitude negative m).bits.toNat = if negative then m + signBit else m := by
  unfold signBit at *
  cases negative <;> simp [ofMagnitude, signBit] <;> omega

theorem magnitude_ofMagnitude (h : m < signBit) : (ofMagnitude negative m).magnitude = m := by
  rw [magnitude, toNat_bits_ofMagnitude h]
  cases negative <;> simp [Nat.mod_eq_of_lt h]

theorem isNegative_ofMagnitude (h : m < signBit) : (ofMagnitude negative m).isNegative = negative := by
  rw [isNegative, toNat_bits_ofMagnitude h]
  cases negative <;> simp [h]

theorem lt_signBit_of_le (h : m ≤ infinityMagnitude) : m < signBit :=
  Nat.lt_of_le_of_lt h (by decide)

theorem isNaN_ofMagnitude (h : m ≤ infinityMagnitude) : (ofMagnitude negative m).isNaN = false := by
  simp [isNaN, magnitude_ofMagnitude (lt_signBit_of_le h), h]

end OfMagnitude

theorem nearestMagnitude_le (num den : Nat) : nearestMagnitude num den ≤ infinityMagnitude :=
  Nat.min_le_left ..

theorem isNaN_of_isFinite {d : Double} (h : d.isFinite) : d.isNaN = false := by
  simp only [isFinite, isNaN, decide_eq_true_eq, decide_eq_false_iff_not] at *
  omega

theorem magnitude_lt (d : Double) : d.magnitude < signBit := Nat.mod_lt _ (by decide)

@[simp] theorem magnitude_neg (d : Double) : d.neg.magnitude = d.magnitude :=
  magnitude_ofMagnitude d.magnitude_lt

@[simp] theorem magnitude_abs (d : Double) : d.abs.magnitude = d.magnitude :=
  magnitude_ofMagnitude d.magnitude_lt

@[simp] theorem isNaN_abs (d : Double) : d.abs.isNaN = d.isNaN := by simp [isNaN]

theorem isNaN_add {a b : Double} (ha : a.isNaN = false) (hb : b.isFinite) :
    (a.add b).isNaN = false := by
  unfold add
  rw [if_neg (by simp [ha, isNaN_of_isFinite hb])]
  split
  · simp [hb, ha]
  · simp only [hb, Bool.not_true, Bool.false_eq_true, if_false]
    split
    · exact isNaN_ofMagnitude (Nat.zero_le _)
    · exact isNaN_ofMagnitude (nearestMagnitude_le ..)

theorem isNaN_sub {a b : Double} (ha : a.isNaN = false) (hb : b.isFinite) :
    (a.sub b).isNaN = false :=
  isNaN_add ha (by simpa [isFinite] using hb)

theorem not_lt {a b : Double} (ha : a.isNaN = false) (hb : b.isNaN = false) :
    (a.lt b) = false ↔ b.le a := by
  simp [lt, le, ha, hb]

theorem units_strictMono : StrictMono units := by
  apply strictMono_nat_of_lt_succ
  intro m
  unfold units
  have positive : 0 < fractions := by decide
  by_cases small : m + 1 < fractions
  · simp [small, Nat.lt_of_succ_lt small]
  · by_cases last : m < fractions
    · obtain rfl : m = fractions - 1 := by omega
      decide
    · rw [if_neg last, if_neg (by omega), Nat.shiftLeft_eq, Nat.shiftLeft_eq]
      -- beyond the subnormals the spacing doubles with each exponent
      obtain ⟨e, hq⟩ : ∃ e, m / fractions = e + 1 :=
        ⟨m / fractions - 1, by have := Nat.div_pos (Nat.le_of_not_lt last) positive; omega⟩
      have division := Nat.div_add_mod m fractions
      have bound := Nat.mod_lt m positive
      have power := Nat.two_pow_pos e
      by_cases wraps : m % fractions + 1 = fractions
      · -- the next exponent begins where the fractions of this one end
        have next : m + 1 = fractions * (e + 2) := by
          rw [Nat.mul_add, ← division, hq, Nat.mul_add]
          omega
        rw [next, Nat.mul_mod_right, Nat.mul_div_cancel_left _ positive, hq]
        simp only [Nat.add_sub_cancel, Nat.add_zero]
        rw [show e + 2 - 1 = e + 1 from rfl, Nat.pow_succ, ← Nat.mul_assoc, Nat.mul_right_comm]
        exact Nat.mul_lt_mul_of_pos_right (by omega) power
      · have next : m + 1 = fractions * (e + 1) + (m % fractions + 1) := by
          rw [← hq]
          omega
        have inner : m % fractions + 1 < fractions := by omega
        rw [next, Nat.mul_add_mod, Nat.mod_eq_of_lt inner, Nat.mul_add_div positive,
          Nat.div_eq_of_lt inner, hq]
        exact Nat.mul_lt_mul_of_pos_right (by omega) power

theorem le_iff_scaled_le {a b : Double} (ha : a.isFinite) (hb : b.isFinite) :
    a.le b ↔ a.scaled ≤ b.scaled := by
  have units_le (m n : Nat) : units m ≤ units n ↔ m ≤ n := units_strictMono.le_iff_le
  have units_zero : units 0 = 0 := rfl
  have zero_le (m : Nat) : units m ≤ 0 ↔ m ≤ 0 := by rw [← units_zero, units_le, units_zero]
  have ranks : a.le b ↔ a.rank ≤ b.rank := by
    simp [le, isNaN_of_isFinite ha, isNaN_of_isFinite hb]
  rw [ranks, rank, rank, scaled, scaled]
  have := units_le a.magnitude b.magnitude
  have := units_le b.magnitude a.magnitude
  have := zero_le a.magnitude
  have := zero_le b.magnitude
  split <;> split <;> omega

end Double

end FeatureFlags
