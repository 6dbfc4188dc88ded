import FeatureFlags.Number.Decimal
import FeatureFlags.Proofs.Rounding
import Mathlib.Algebra.Order.Field.Power

/-!
The shortest decimal of a magnitude rounds to it. Seventeen digits always suffice: on that grid
neighbours lie closer together than the midpoints around the magnitude.
-/

namespace FeatureFlags

namespace Double

variable {m : Nat} {x : ℚ}

theorem RoundsTo.of_below (le : x ≤ units m) (not : ¬ RoundsTo m x) :
    2 * x ≤ units (m - 1) + units m := by
  by_contra beyond
  have grows := units_lt (Nat.lt_succ_self m)
  apply not
  unfold RoundsTo
  split <;> constructor <;> linarith

theorem RoundsTo.of_above (positive : 0 < m) (le : units m ≤ x) (not : ¬ RoundsTo m x) :
    (units m + units (m + 1) : ℚ) ≤ 2 * x := by
  by_contra beyond
  have grows := units_lt (show m - 1 < m by omega)
  apply not
  unfold RoundsTo
  split <;> constructor <;> linarith

theorem exists_units (m : Nat) : ∃ s k, m = s * fractions + k ∧ (s = 0 ∨ fractions ≤ k) ∧
    k < 2 * fractions := by
  unfold fractions
  by_cases small : m < 0x10000000000000
  · exact ⟨0, m, by omega, .inl rfl, by omega⟩
  · exact ⟨m / 0x10000000000000 - 1, 0x10000000000000 + m % 0x10000000000000, by omega,
      .inr (by omega), by omega⟩

theorem units_gap (positive : 0 < m) :
    (2 * units m : ℚ) < 10 ^ 16 * (units (m + 1) - units (m - 1)) := by
  obtain ⟨s, k, rfl, least, most⟩ := exists_units m
  have here := units_add least most.le
  have above : units (s * fractions + k + 1) = (k + 1) * 2 ^ s := by
    rw [Nat.add_assoc, units_add (by omega) (by omega)]
  have power : 0 < 2 ^ s := by positivity
  rcases Nat.lt_or_ge k (fractions + 1) with bottom | inner
  · -- below the least fraction of a power of two the spacing may be finer
    have below := units_strictMono.monotone (Nat.sub_le (s * fractions + k) 1)
    have below : (units (s * fractions + k - 1) : ℚ) ≤ k * 2 ^ s := by
      rw [here] at below
      exact_mod_cast below
    have digits : (2 * k : ℚ) < 10 ^ 16 := by
      have : 2 * k < 10 ^ 16 := by unfold fractions at *; omega
      exact_mod_cast this
    rw [here, above]
    push_cast
    have power : (0 : ℚ) < 2 ^ s := by positivity
    nlinarith
  · have below : units (s * fractions + k - 1) = (k - 1) * 2 ^ s := by
      rw [Nat.add_sub_assoc (by omega), units_add (by omega) (by omega)]
    have digits : (2 * k : ℚ) < 2 * 10 ^ 16 := by
      have : 2 * k < 2 * 10 ^ 16 := by unfold fractions at *; omega
      exact_mod_cast this
    rw [here, above, below]
    push_cast [show 1 ≤ k by omega]
    have power : (0 : ℚ) < 2 ^ s := by positivity
    nlinarith

end Double

namespace Decimal

open Double (units unitsInOne)

def value (d : Decimal) : ℚ := d.digits * 10 ^ d.exponent

def RoundsTo (d : Decimal) (m : Nat) : Prop := Double.RoundsTo m (d.value * unitsInOne)

theorem ten_zpow (e : Int) : (10 : ℚ) ^ e = Nat.pow 10 e.toNat / Nat.pow 10 (-e).toNat := by
  rcases Int.le_total 0 e with nonneg | nonpos
  · obtain ⟨n, rfl⟩ := Int.eq_ofNat_of_zero_le nonneg
    simp
  · obtain ⟨n, same⟩ := Int.eq_ofNat_of_zero_le (show 0 ≤ -e by omega)
    obtain rfl : e = -n := by omega
    simp

section Lead

variable {num den : Nat}

theorem lt_pow_width (n : Nat) : n < 10 ^ width n :=
  (Nat.length_toDigits_le_iff (by decide) Nat.length_toDigits_pos).1 (Nat.le_refl _)

theorem pow_width_le {n : Nat} (positive : 0 < n) : 10 ^ (width n - 1) ≤ n := by
  rcases Nat.eq_zero_or_pos (width n - 1) with zero | more
  · rw [zero]
    exact positive
  · by_contra less
    have := (Nat.length_toDigits_le_iff (by decide) more).2 (Nat.lt_of_not_le less)
    unfold width at *
    omega

theorem exists_width (n : Nat) : ∃ w, width n = w + 1 :=
  ⟨width n - 1, (Nat.sub_add_cancel Nat.length_toDigits_pos).symm⟩

theorem pow_leadingExponent_le (num_pos : 0 < num) (den_pos : 0 < den) :
    (10 : ℚ) ^ leadingExponent num den ≤ num / den := by
  have num_cast : (0 : ℚ) < num := by exact_mod_cast num_pos
  have den_cast : (0 : ℚ) < den := by exact_mod_cast den_pos
  have inverse {k : Nat} (le : den ≤ num * 10 ^ k) : (10 : ℚ) ^ (-(k : Int)) ≤ num / den := by
    rw [zpow_neg, zpow_natCast, inv_eq_one_div, div_le_div_iff₀ (by positivity) den_cast, one_mul]
    exact_mod_cast le
  unfold leadingExponent
  split
  · next le =>
    have power := pow_width_le (Nat.div_pos le den_pos)
    obtain ⟨w, same⟩ := exists_width (num / den)
    rw [same, Nat.le_div_iff_mul_le den_pos] at power
    rw [same, Nat.cast_succ, Int.add_sub_cancel, zpow_natCast, le_div_iff₀ den_cast]
    exact_mod_cast power
  · have digits := lt_pow_width (den / num)
    obtain ⟨w, same⟩ := exists_width (den / num)
    dsimp only
    rw [same] at digits ⊢
    split
    · next le =>
      rw [Nat.cast_succ, Int.add_sub_cancel]
      exact inverse le
    · rw [Nat.div_lt_iff_lt_mul num_pos, Nat.mul_comm] at digits
      exact inverse digits.le

end Lead

theorem RoundsTo.of_value_eq {d d' : Decimal} {m : Nat} (h : d.RoundsTo m)
    (same : d'.value = d.value) : d'.RoundsTo m := by
  unfold RoundsTo
  rwa [same]

theorem roundsTo_zero (e : Int) : (⟨0, e⟩ : Decimal).RoundsTo 0 := by
  rw [RoundsTo, value, Nat.cast_zero, zero_mul, zero_mul]
  exact_mod_cast Double.roundsTo_units 0

theorem RoundsTo.digits_ne_zero {d : Decimal} {m : Nat} (h : d.RoundsTo m) (positive : 0 < m) :
    d.digits ≠ 0 := by
  intro zero
  have nothing : d.value = 0 := by simp [value, zero]
  rw [RoundsTo, nothing, zero_mul] at h
  have low := h.bounds.1
  have grows := Double.units_lt positive
  have least : (0 : ℚ) ≤ units (m - 1) := Nat.cast_nonneg _
  have least : (0 : ℚ) ≤ units 0 := Nat.cast_nonneg _
  linarith

section Grid

variable {tie : Tie} {m n : Nat} {e : Int}

theorem inside_iff :
    (if m % 2 = 0 then
        decide ((units (m - 1) + units m) * Nat.pow 10 (-e).toNat
          ≤ 2 * n * (unitsInOne * Nat.pow 10 e.toNat)) &&
        decide (2 * n * (unitsInOne * Nat.pow 10 e.toNat)
          ≤ (units m + units (m + 1)) * Nat.pow 10 (-e).toNat)
      else
        decide ((units (m - 1) + units m) * Nat.pow 10 (-e).toNat
          < 2 * n * (unitsInOne * Nat.pow 10 e.toNat)) &&
        decide (2 * n * (unitsInOne * Nat.pow 10 e.toNat)
          < (units m + units (m + 1)) * Nat.pow 10 (-e).toNat)) = true ↔
    RoundsTo ⟨n, e⟩ m := by
  have positive : (0 : ℚ) < Nat.pow 10 (-e).toNat := by
    rw [Nat.pow_eq]
    positivity
  unfold RoundsTo value Double.RoundsTo
  rw [ten_zpow]
  generalize Nat.pow 10 (-e).toNat = down at positive
  generalize Nat.pow 10 e.toNat = up
  have scale : (2 * (n * (up / down) * unitsInOne) : ℚ) = 2 * n * (unitsInOne * up) / down := by
    ring
  dsimp only
  rw [scale]
  split
  · rw [le_div_iff₀ positive, div_le_iff₀ positive]
    simp only [Bool.and_eq_true, decide_eq_true_eq]
    norm_cast
  · rw [lt_div_iff₀ positive, div_lt_iff₀ positive]
    simp only [Bool.and_eq_true, decide_eq_true_eq]
    norm_cast

theorem roundsTo_of_onGrid? {d : Decimal} (h : onGrid? tie m e = some d) : d.RoundsTo m := by
  unfold onGrid? at h
  dsimp only at h
  split at h
  · cases h
  · next yes _ =>
    cases h
    exact inside_iff.1 yes
  · next _ yes =>
    cases h
    exact inside_iff.1 yes
  · next below above =>
    cases h
    split
    · exact inside_iff.1 above
    · exact inside_iff.1 below

theorem floor_mul_le : ((units m * Nat.pow 10 (-e).toNat /
    (unitsInOne * Nat.pow 10 e.toNat) : Nat) * (10 ^ e * unitsInOne) : ℚ) ≤ units m := by
  have positive : 0 < Nat.pow 10 (-e).toNat := Nat.pow_pos (by decide)
  rw [ten_zpow]
  generalize Nat.pow 10 (-e).toNat = down at positive
  generalize Nat.pow 10 e.toNat = up
  have floor : units m * down / (unitsInOne * up) * (unitsInOne * up) ≤ units m * down :=
    Nat.div_mul_le_self ..
  generalize units m * down / (unitsInOne * up) = n at floor
  have positive : (0 : ℚ) < down := by exact_mod_cast positive
  have floor : (n * (unitsInOne * up) : ℚ) ≤ units m * down := by exact_mod_cast floor
  calc
    (n * (up / down * unitsInOne) : ℚ) = n * (unitsInOne * up) / down := by ring
    _ ≤ units m := by rwa [div_le_iff₀ positive]

theorem lt_floor_succ_mul : (units m : ℚ) < ((units m * Nat.pow 10 (-e).toNat /
    (unitsInOne * Nat.pow 10 e.toNat) : Nat) + 1) * (10 ^ e * unitsInOne) := by
  have positive : 0 < Nat.pow 10 (-e).toNat := Nat.pow_pos (by decide)
  have step : 0 < unitsInOne * Nat.pow 10 e.toNat :=
    Nat.mul_pos (by decide) (Nat.pow_pos (by decide))
  rw [ten_zpow]
  generalize Nat.pow 10 (-e).toNat = down at positive
  generalize Nat.pow 10 e.toNat = up at step
  have floor : units m * down < unitsInOne * up * (units m * down / (unitsInOne * up) + 1) :=
    Nat.lt_mul_div_succ _ step
  generalize units m * down / (unitsInOne * up) = n at floor
  have positive : (0 : ℚ) < down := by exact_mod_cast positive
  have floor : (units m * down : ℚ) < unitsInOne * up * (n + 1) := by exact_mod_cast floor
  calc
    (units m : ℚ) < unitsInOne * up * (n + 1) / down := by rwa [lt_div_iff₀ positive]
    _ = (n + 1) * (up / down * unitsInOne) := by ring

theorem exists_onGrid? (positive : 0 < m)
    (fine : (10 ^ 16 * (10 ^ e * unitsInOne) : ℚ) ≤ units m) :
    ∃ d, onGrid? tie m e = some d := by
  unfold onGrid?
  dsimp only
  split
  · next below above =>
    -- with neither neighbour inside, the midpoints would be closer together than the neighbours
    have below := mt inside_iff.2 (Bool.eq_false_iff.1 below)
    have above := mt inside_iff.2 (Bool.eq_false_iff.1 above)
    have floor := floor_mul_le (m := m) (e := e)
    have ceiling := lt_floor_succ_mul (m := m) (e := e)
    have gap := Double.units_gap positive
    generalize units m * Nat.pow 10 (-e).toNat / (unitsInOne * Nat.pow 10 e.toNat) = n at *
    unfold RoundsTo value at below above
    dsimp only at below above
    rw [mul_assoc] at below above
    push_cast at above
    generalize (10 ^ e * unitsInOne : ℚ) = g at *
    have low := Double.RoundsTo.of_below floor below
    have high := Double.RoundsTo.of_above positive ceiling.le above
    linarith
  all_goals exact ⟨_, rfl⟩

end Grid

theorem value_trim (d : Decimal) : d.trim.value = d.value := by
  have strips (n : Nat) : (trim.go n d).value = d.value := by
    induction n generalizing d with
    | zero => rfl
    | succ n ih =>
      unfold trim.go
      split
      · next ends =>
        simp only [Bool.and_eq_true, beq_iff_eq] at ends
        have tenfold : d.digits = d.digits / 10 * 10 := by omega
        rw [ih]
        unfold value
        dsimp only
        conv_rhs => rw [tenfold]
        rw [zpow_add_one₀ (by norm_num)]
        push_cast
        ring
      · rfl
  exact strips _

theorem roundsTo_shortest (tie : Tie) {m : Nat} (positive : 0 < m) :
    (shortest tie m).RoundsTo m := by
  have units_pos : 0 < units m :=
    Nat.lt_of_le_of_lt (Nat.zero_le _) (Double.units_strictMono positive)
  have leading := pow_leadingExponent_le units_pos (show 0 < unitsInOne by decide)
  unfold shortest
  rw [if_neg (by omega)]
  dsimp only
  generalize leadingExponent (units m) unitsInOne = lead at *
  unfold RoundsTo
  rw [value_trim]
  cases same : (List.range 17).findSome? fun n : Nat => onGrid? tie m (lead - n) with
  | some d =>
    obtain ⟨n, _, found⟩ := List.exists_of_findSome?_eq_some same
    exact roundsTo_of_onGrid? found
  | none =>
    have last := List.findSome?_eq_none_iff.1 same 16 (by decide)
    have fine : (10 ^ 16 * (10 ^ (lead - 16) * unitsInOne) : ℚ) ≤ units m := by
      rw [le_div_iff₀ (by norm_num [unitsInOne])] at leading
      calc
        (10 ^ 16 * (10 ^ (lead - 16) * unitsInOne) : ℚ) = 10 ^ lead * unitsInOne := by
          rw [zpow_sub₀ (by norm_num)]
          norm_cast
          ring
        _ ≤ units m := leading
    obtain ⟨d, found⟩ : ∃ d, onGrid? tie m (lead - 16) = some d := exists_onGrid? positive fine
    cases last.symm.trans found

/-- Few enough digits around the point that they and their power of ten are doubles. -/
def isShort (d : Decimal) : Bool :=
  d.digits * 10 ^ (d.exponent.toNat + 1) ≤ 2 * Double.fractions && -22 ≤ d.exponent

theorem units_powerMagnitude {n : Nat} (near : n ≤ 22) :
    units (powerMagnitude n) = 10 ^ n * unitsInOne := by
  have fits : 5 ^ n ≤ 2 * Double.fractions :=
    (Nat.pow_le_pow_right (by decide) near).trans (by decide)
  have power : Nat.pow 10 n = 5 ^ n * 2 ^ n := by
    rw [← Nat.mul_pow]
    rfl
  rw [powerMagnitude, power, Double.units_wholeMagnitude fits near, ← power]
  rfl

section Read

variable {d : Decimal} {m : Nat} (h : d.RoundsTo m) (finite : m < Double.infinityMagnitude)
  (few : d.digits ≤ 2 * Double.fractions)
include h finite few

theorem RoundsTo.multiply?_eq {n : Nat} (exponent : d.exponent = n) (near : n ≤ 22) :
    multiply? (Double.wholeMagnitude d.digits) n = some m := by
  have digits := Double.units_wholeMagnitude few (Nat.zero_le 22)
  rw [Nat.pow_zero, Nat.mul_one] at digits
  have one : (0 : ℚ) < unitsInOne := by norm_num [unitsInOne]
  have product : Double.productMagnitude (Double.wholeMagnitude d.digits) (powerMagnitude n) = m := by
    unfold Double.productMagnitude
    apply Double.nearestMagnitude_eq (by decide) finite
    have same : ((d.digits * unitsInOne * (10 ^ n * unitsInOne) : Nat) / unitsInOne : ℚ) =
        d.value * unitsInOne := by
      rw [value, exponent, zpow_natCast]
      push_cast
      field_simp
    rw [digits, units_powerMagnitude near, same]
    exact h
  unfold multiply?
  dsimp only
  rw [product, if_pos (near.trans (by decide)), if_pos finite]

theorem RoundsTo.divide_eq {n : Nat} (exponent : d.exponent = -n) (near : n ≤ 22) :
    divide (Double.wholeMagnitude d.digits) n = m := by
  have digits := Double.units_wholeMagnitude few (Nat.zero_le 22)
  rw [Nat.pow_zero, Nat.mul_one] at digits
  have one : (0 : ℚ) < unitsInOne := by norm_num [unitsInOne]
  unfold divide
  rw [if_pos (near.trans (by decide))]
  unfold Double.quotientMagnitude
  have power := units_powerMagnitude near
  apply Double.nearestMagnitude_eq _ finite
  · have same : ((d.digits * unitsInOne * unitsInOne : Nat) / (10 ^ n * unitsInOne : Nat) : ℚ) =
        d.value * unitsInOne := by
      rw [value, exponent, zpow_neg, zpow_natCast]
      push_cast
      field_simp
    rw [digits, power, same]
    exact h
  · rw [power]
    exact Nat.mul_pos (Nat.pow_pos (by decide)) (by decide)

theorem RoundsTo.toDouble? (near : d.exponent.natAbs ≤ 22) (negative : Bool) :
    d.toDouble? negative = some (.ofMagnitude negative m) := by
  unfold Decimal.toDouble?
  dsimp only
  split
  · next nonneg =>
    obtain ⟨n, same⟩ := Int.eq_ofNat_of_zero_le nonneg
    rw [same, Int.toNat_natCast, h.multiply?_eq finite few same (by omega), Option.map_some]
  · next neg =>
    obtain ⟨n, same⟩ := Int.exists_eq_neg_ofNat (Int.not_le.1 neg).le
    rw [same, Int.natAbs_neg, Int.natAbs_natCast, h.divide_eq finite few same (by omega),
      Option.map_some]

end Read

end Decimal

end FeatureFlags
