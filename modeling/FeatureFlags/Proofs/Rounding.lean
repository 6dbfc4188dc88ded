import FeatureFlags.Proofs.Double
import Mathlib.Algebra.Order.Field.Basic
import Mathlib.Data.Rat.Cast.Order
import Mathlib.Tactic.FieldSimp
import Mathlib.Tactic.Linarith
import Mathlib.Tactic.NormNum
import Mathlib.Tactic.Positivity
import Mathlib.Tactic.Ring

/-!
Rounding to the nearest double. What lies between the midpoints to the neighbouring magnitudes
rounds to a magnitude, and so does a midpoint if the magnitude is even.
-/

namespace FeatureFlags.Double

def RoundsTo (m : Nat) (x : ℚ) : Prop :=
  if m % 2 = 0 then (units (m - 1) + units m : ℚ) ≤ 2 * x ∧ 2 * x ≤ units m + units (m + 1)
  else (units (m - 1) + units m : ℚ) < 2 * x ∧ 2 * x < units m + units (m + 1)

theorem units_add {s k : Nat} (least : s = 0 ∨ fractions ≤ k) (most : k ≤ 2 * fractions) :
    units (s * fractions + k) = k * 2 ^ s := by
  unfold units
  rcases Nat.lt_or_ge k fractions with small | large
  · obtain rfl : s = 0 := by omega
    simp [small]
  · rw [if_neg (by omega), Nat.shiftLeft_eq]
    rcases Nat.lt_or_eq_of_le most with less | rfl
    · have quotient : (s * fractions + k) / fractions = s + 1 := by unfold fractions at *; omega
      have rest : fractions + (s * fractions + k) % fractions = k := by unfold fractions at *; omega
      rw [quotient, rest, Nat.add_sub_cancel]
    · have quotient : (s * fractions + 2 * fractions) / fractions = s + 2 := by
        unfold fractions; omega
      have rest : fractions + (s * fractions + 2 * fractions) % fractions = fractions := by
        unfold fractions; omega
      rw [quotient, rest, show s + 2 - 1 = s + 1 from rfl, Nat.pow_succ]
      ring

section Ratio

variable (num : Nat) {den : Nat}

theorem roundRatio_spec (positive : 0 < den) :
    (2 * roundRatio num den - 1 : ℚ) ≤ 2 * (num / den) ∧
      2 * (num / den) ≤ (2 * roundRatio num den + 1 : ℚ) ∧
      (2 * (num / den) = (2 * roundRatio num den - 1 : ℚ) ∨
        2 * (num / den) = (2 * roundRatio num den + 1 : ℚ) → roundRatio num den % 2 = 0) := by
  have division := Nat.div_add_mod num den
  have small := Nat.mod_lt num positive
  unfold roundRatio
  dsimp only
  generalize num / den = q at division
  generalize num % den = r at division small
  have pos : (0 : ℚ) < den := by exact_mod_cast positive
  have value : (num / den : ℚ) = q + r / den := by
    rw [← division]
    push_cast
    field_simp
  have rest_nonneg : (0 : ℚ) ≤ r / den := by positivity
  have rest_lt : (r / den : ℚ) < 1 := by
    rw [div_lt_one pos]
    exact_mod_cast small
  rw [value]
  split
  · next less =>
    have half : (2 * (r / den) : ℚ) < 1 := by
      rw [← mul_div_assoc, div_lt_one pos]
      exact_mod_cast less
    refine ⟨by linarith, by linarith, ?_⟩
    rintro (same | same) <;> linarith
  · split
    · next more =>
      have half : (1 : ℚ) < 2 * (r / den) := by
        rw [← mul_div_assoc, one_lt_div pos]
        exact_mod_cast more
      push_cast
      refine ⟨by linarith, by linarith, ?_⟩
      rintro (same | same) <;> linarith
    · have half : (2 * (r / den) : ℚ) = 1 := by
        rw [← mul_div_assoc, div_eq_one_iff_eq pos.ne']
        exact_mod_cast (by omega : 2 * r = den)
      rcases Nat.mod_two_eq_zero_or_one q with even | odd
      · rw [even]
        push_cast
        exact ⟨by linarith, by linarith, fun _ => even⟩
      · rw [odd]
        push_cast
        exact ⟨by linarith, by linarith, fun _ => by omega⟩

def spacing (num den : Nat) : Nat := (num / den).log2 - 52

theorem lt_of_spacing (positive : 0 < den) :
    (num / den : ℚ) < 2 * fractions * 2 ^ spacing num den := by
  have quotient : num / den < 2 * fractions * 2 ^ spacing num den := by
    have log : num / den < 2 ^ ((num / den).log2 + 1) := Nat.lt_log2_self
    have power : 2 * fractions * 2 ^ spacing num den = 2 ^ (53 + spacing num den) := by
      rw [Nat.pow_add]
      rfl
    rw [power]
    exact Nat.lt_of_lt_of_le log (Nat.pow_le_pow_right (by decide) (by unfold spacing; omega))
  rw [Nat.div_lt_iff_lt_mul positive] at quotient
  rw [div_lt_iff₀ (by exact_mod_cast positive)]
  exact_mod_cast quotient

theorem le_of_spacing (positive : 0 < den) (coarse : 0 < spacing num den) :
    (fractions * 2 ^ spacing num den : ℚ) ≤ num / den := by
  have quotient : fractions * 2 ^ spacing num den ≤ num / den := by
    have nonzero : num / den ≠ 0 := by
      intro zero
      simp [spacing, zero] at coarse
    have power : fractions * 2 ^ spacing num den = 2 ^ (52 + spacing num den) := by
      rw [Nat.pow_add]
      rfl
    have log : 52 + spacing num den = (num / den).log2 := by unfold spacing at *; omega
    rw [power, log]
    exact Nat.log2_self_le nonzero
  rw [Nat.le_div_iff_mul_le positive] at quotient
  rw [le_div_iff₀ (by exact_mod_cast positive)]
  exact_mod_cast quotient

end Ratio

/-- A quotient rounded to a multiple of a power of two, at which magnitudes are spaced. -/
structure Rounded (x : ℚ) (s k : Nat) : Prop where
  least : s = 0 ∨ fractions ≤ k
  most : k ≤ 2 * fractions
  low : ((2 * k - 1) * 2 ^ s : ℚ) ≤ 2 * x
  high : 2 * x ≤ ((2 * k + 1) * 2 ^ s : ℚ)
  tie : 2 * x = ((2 * k - 1) * 2 ^ s : ℚ) ∨ 2 * x = ((2 * k + 1) * 2 ^ s : ℚ) → k % 2 = 0
  coarse : 0 < s → (fractions * 2 ^ s : ℚ) ≤ x
  fine : x < 2 * fractions * 2 ^ s

theorem rounded_spacing (num : Nat) {den : Nat} (positive : 0 < den) :
    Rounded (num / den) (spacing num den) (roundRatio num (den <<< spacing num den)) := by
  have high := lt_of_spacing num positive
  have low := le_of_spacing num positive
  generalize spacing num den = s at high low
  have power : (0 : ℚ) < 2 ^ s := by positivity
  have pos : (0 : ℚ) < den := by exact_mod_cast positive
  have shifted : 0 < den <<< s := by
    rw [Nat.shiftLeft_eq]
    positivity
  obtain ⟨below, above, tie⟩ := roundRatio_spec num shifted
  have scaled : (num / (den <<< s : Nat) : ℚ) * 2 ^ s = num / den := by
    rw [Nat.shiftLeft_eq]
    push_cast
    field_simp
  generalize roundRatio num (den <<< s) = k at below above tie
  generalize (num / (den <<< s : Nat) : ℚ) = y at below above tie scaled
  rw [← scaled] at high low ⊢
  -- in units of the spacing the value has at most one bit more than the fractions
  have fine : y < 2 * fractions := lt_of_mul_lt_mul_right high power.le
  have cancel {a b : ℚ} (same : 2 * (a * 2 ^ s) = b * 2 ^ s) : 2 * a = b :=
    mul_right_cancel₀ power.ne' (by linarith)
  refine ⟨?_, ?_, ?_, ?_, fun same => tie (same.imp cancel cancel), low, high⟩
  · rcases Nat.eq_zero_or_pos s with zero | coarse
    · exact .inl zero
    · have large : (fractions : ℚ) ≤ y := le_of_mul_le_mul_right (low coarse) power
      have twice : (2 * fractions : ℚ) ≤ 2 * k + 1 := by linarith
      have twice : 2 * fractions ≤ 2 * k + 1 := by exact_mod_cast twice
      exact .inr (by omega)
  · have twice : (2 * k : ℚ) < 4 * fractions + 1 := by linarith
    have twice : 2 * k < 4 * fractions + 1 := by exact_mod_cast twice
    omega
  · have := mul_le_mul_of_nonneg_right below power.le
    linarith
  · have := mul_le_mul_of_nonneg_right above power.le
    linarith

section Rounded

variable {x : ℚ} {s k m : Nat}

theorem units_mono {m n : Nat} (h : m ≤ n) : (units m : ℚ) ≤ units n := by
  exact_mod_cast units_strictMono.monotone h

theorem units_lt {m n : Nat} (h : m < n) : (units m : ℚ) < units n := by
  exact_mod_cast units_strictMono h

theorem RoundsTo.bounds (h : RoundsTo m x) :
    (units (m - 1) + units m : ℚ) ≤ 2 * x ∧ 2 * x ≤ units m + units (m + 1) := by
  unfold RoundsTo at h
  split at h
  · exact h
  · exact ⟨h.1.le, h.2.le⟩

theorem RoundsTo.odd (h : RoundsTo m x) (odd : m % 2 = 1) :
    (units (m - 1) + units m : ℚ) < 2 * x ∧ 2 * x < units m + units (m + 1) := by
  unfold RoundsTo at h
  rwa [if_neg (by omega)] at h

theorem Rounded.units_eq (h : Rounded x s k) : (units (s * fractions + k) : ℚ) = k * 2 ^ s := by
  rw [units_add h.least h.most]
  push_cast
  rfl

theorem parity {s k : Nat} (even : k % 2 = 0) : (s * fractions + k) % 2 = 0 := by
  unfold fractions
  omega

theorem Rounded.not_lt (h : Rounded x s k) (around : RoundsTo m x) :
    ¬ s * fractions + k < m := by
  intro lt
  have here := h.units_eq
  have above := units_mono (show s * fractions + k ≤ m - 1 by omega)
  have beyond := units_mono (show s * fractions + k + 1 ≤ m by omega)
  have low := around.bounds.1
  have inside : k < 2 * fractions := by
    by_contra top
    obtain rfl : k = 2 * fractions := by have := h.most; omega
    have fine := h.fine
    have grows := units_lt (Nat.lt_succ_self (s * fractions + 2 * fractions))
    push_cast at here
    linarith
  have next : (units (s * fractions + k + 1) : ℚ) = (k + 1) * 2 ^ s := by
    have least := h.least
    rw [Nat.add_assoc, units_add (by omega) (by omega)]
    push_cast
    rfl
  have high := h.high
  have even := parity (s := s) (h.tie (.inr (by linarith)))
  rcases Nat.lt_or_eq_of_le (show s * fractions + k + 1 ≤ m from lt) with more | rfl
  · have grows := units_lt more
    linarith
  · have strict := (around.odd (by omega)).1
    linarith

theorem Rounded.not_gt (h : Rounded x s k) (around : RoundsTo m x) :
    ¬ m < s * fractions + k := by
  intro gt
  have here := h.units_eq
  have below := units_mono (show m ≤ s * fractions + k - 1 by omega)
  have beyond := units_mono (show m + 1 ≤ s * fractions + k by omega)
  have high := around.bounds.2
  have inside : s = 0 ∨ fractions + 1 ≤ k := by
    by_contra bottom
    obtain rfl : k = fractions := by have := h.least; omega
    have coarse := h.coarse (by omega)
    have grows := units_lt (show s * fractions + fractions - 1 < s * fractions + fractions by omega)
    linarith
  have positive : 1 ≤ k := by
    rcases inside with rfl | large <;> omega
  have previous : (units (s * fractions + k - 1) : ℚ) = (k - 1) * 2 ^ s := by
    have most := h.most
    rw [Nat.add_sub_assoc positive, units_add (by omega) (by omega)]
    push_cast [positive]
    rfl
  have low := h.low
  have even := parity (s := s) (h.tie (.inl (by linarith)))
  rcases Nat.lt_or_eq_of_le (show m + 1 ≤ s * fractions + k from gt) with less | same
  · have grows := units_lt less
    linarith
  · have strict := (around.odd (by omega)).2
    rw [same] at strict
    linarith

end Rounded

theorem nearestMagnitude_eq {num den m : Nat} (positive : 0 < den)
    (finite : m < infinityMagnitude) (h : RoundsTo m (num / den)) :
    nearestMagnitude num den = m := by
  have rounded := rounded_spacing num positive
  have lower := rounded.not_lt h
  have upper := rounded.not_gt h
  have same : spacing num den * fractions + roundRatio num (den <<< spacing num den) = m := by omega
  calc
    _ = min infinityMagnitude
          (spacing num den * fractions + roundRatio num (den <<< spacing num den)) := rfl
    _ = m := by rw [same, Nat.min_eq_right finite.le]

theorem roundsTo_units (m : Nat) : RoundsTo m (units m) := by
  have below := units_mono (Nat.sub_le m 1)
  have above := units_lt (Nat.lt_succ_self m)
  unfold RoundsTo
  split
  · exact ⟨by linarith, by linarith⟩
  · have strictly := units_lt (show m - 1 < m by omega)
    exact ⟨by linarith, by linarith⟩

theorem RoundsTo.not_lt {n : Nat} (h : RoundsTo m x) (g : RoundsTo n x) : ¬ m < n := by
  intro lt
  have below := units_mono (show m ≤ n - 1 by omega)
  have above := units_mono (show m + 1 ≤ n by omega)
  have low := g.bounds.1
  have high := h.bounds.2
  have even : m % 2 = 0 := by
    by_contra odd
    have := (h.odd (by omega)).2
    linarith
  -- both would be even and meet at one midpoint, so they are no neighbours
  have next : n ≠ m + 1 := by
    rintro rfl
    have := (g.odd (by omega)).1
    linarith
  have between := units_lt (show m + 1 < n by omega)
  linarith

theorem RoundsTo.unique {n : Nat} (h : RoundsTo m x) (g : RoundsTo n x) : m = n :=
  Nat.le_antisymm (Nat.not_lt.1 (g.not_lt h)) (Nat.not_lt.1 (h.not_lt g))

theorem exists_units_eq {n s : Nat} (positive : 0 < n) (fits : n ≤ 2 * fractions) (least : 52 ≤ s)
    (most : s ≤ 2000) : ∃ m < infinityMagnitude, units m = n * 2 ^ s := by
  have low := Nat.log2_self_le positive.ne'
  have high := Nat.lt_log2_self (n := n)
  have log : n.log2 ≤ 53 := by
    have : 2 ^ n.log2 ≤ 2 ^ 53 := low.trans fits
    exact (Nat.pow_le_pow_iff_right (by decide)).1 this
  have shifted : fractions ≤ n * 2 ^ (52 - n.log2) ∧ n * 2 ^ (52 - n.log2) ≤ 2 * fractions := by
    rcases Nat.lt_or_eq_of_le log with small | top
    · have power : 2 ^ n.log2 * 2 ^ (52 - n.log2) = fractions := by
        rw [← Nat.pow_add, Nat.add_sub_cancel' (by omega)]
        rfl
      have twice : 2 ^ (n.log2 + 1) * 2 ^ (52 - n.log2) = 2 * fractions := by
        rw [Nat.pow_succ, Nat.mul_right_comm, power, Nat.mul_comm]
      exact ⟨power ▸ Nat.mul_le_mul_right _ low, twice ▸ Nat.mul_le_mul_right _ high.le⟩
    · rw [top] at low ⊢
      unfold fractions at *
      omega
  obtain ⟨large, small⟩ := shifted
  refine ⟨(s - (52 - n.log2)) * fractions + n * 2 ^ (52 - n.log2), ?_, ?_⟩
  · have steps : (s - (52 - n.log2)) * fractions ≤ 2000 * fractions :=
      Nat.mul_le_mul_right _ (by omega)
    have room : 2000 * fractions + 2 * fractions < infinityMagnitude := by decide
    omega
  · rw [units_add (.inr large) small, Nat.mul_assoc, ← Nat.pow_add, Nat.add_sub_cancel' (by omega)]

theorem exists_unitsInOne : ∃ s, unitsInOne = 2 ^ s ∧ 52 ≤ s ∧ s ≤ 1074 := by
  unfold unitsInOne
  generalize same : 1074 = s
  exact ⟨s, Nat.one_shiftLeft s, by omega, Nat.le_refl s⟩

theorem units_wholeMagnitude {n k : Nat} (fits : n ≤ 2 * fractions) (near : k ≤ 22) :
    units (wholeMagnitude (n * 2 ^ k)) = n * 2 ^ k * unitsInOne := by
  rcases Nat.eq_zero_or_pos n with rfl | positive
  · rw [Nat.zero_mul]
    rfl
  · obtain ⟨s, one, least, most⟩ := exists_unitsInOne
    obtain ⟨m, finite, same⟩ := exists_units_eq positive fits (s := k + s) (by omega) (by omega)
    rw [Nat.pow_add, ← Nat.mul_assoc, ← one] at same
    have rounds : RoundsTo m ((n * 2 ^ k * unitsInOne : Nat) / (1 : Nat) : ℚ) := by
      rw [← same, Nat.cast_one, div_one]
      exact roundsTo_units m
    rw [wholeMagnitude, nearestMagnitude_eq Nat.one_pos finite rounds, same]

end FeatureFlags.Double
