import FeatureFlags.Value
import FeatureFlags.Proofs.Double

namespace FeatureFlags

namespace Double

theorem eq_of_isNegative_of_magnitude {a b : Double} (sign : a.isNegative = b.isNegative)
    (magnitude : a.magnitude = b.magnitude) : a = b := by
  obtain ⟨a⟩ := a
  obtain ⟨b⟩ := b
  have halves : signBit ≤ a.toNat ↔ signBit ≤ b.toNat := decide_eq_decide.1 sign
  have := a.toNat_lt
  have := b.toNat_lt
  simp only [Double.magnitude, signBit] at halves magnitude
  congr 1
  exact UInt64.toNat_inj.1 (by omega)

theorem ofMagnitude_self (d : Double) : ofMagnitude d.isNegative d.magnitude = d :=
  eq_of_isNegative_of_magnitude (isNegative_ofMagnitude d.magnitude_lt)
    (magnitude_ofMagnitude d.magnitude_lt)

theorem totalRank_injective : Function.Injective totalRank := by
  intro a b same
  have sign : a.isNegative = b.isNegative := by
    unfold totalRank at same
    grind
  apply eq_of_isNegative_of_magnitude sign
  unfold totalRank at same
  grind

instance : Std.TransCmp totalCompare where
  eq_swap := Std.OrientedOrd.eq_swap
  isLE_trans := Std.TransOrd.isLE_trans

instance : Std.LawfulEqCmp totalCompare where
  compare_self := Std.ReflOrd.compare_self
  eq_of_compare h := totalRank_injective (Std.LawfulEqOrd.eq_of_compare h)

end Double

namespace FlagValue

instance : Std.OrientedCmp totalCompare where
  eq_swap {v w} := by
    cases v <;> cases w
    case boolean.boolean => exact Std.OrientedOrd.eq_swap
    case number.number => exact @Std.OrientedCmp.eq_swap _ Double.totalCompare _ _ _
    case string.string => exact Std.OrientedOrd.eq_swap
    all_goals rfl

theorem totalCompare_of_lt {v w : FlagValue} (h : v.typeRank < w.typeRank) :
    totalCompare v w = .lt := by
  cases v <;> cases w <;> simp [typeRank] at h <;> rfl

theorem typeRank_le_of_isLE {v w : FlagValue} (h : (totalCompare v w).isLE) :
    v.typeRank ≤ w.typeRank := by
  by_contra later
  have swapped : totalCompare v w = (totalCompare w v).swap := Std.OrientedCmp.eq_swap
  rw [swapped, totalCompare_of_lt (Nat.lt_of_not_le later)] at h
  cases h

instance : Std.TransCmp totalCompare where
  isLE_trans {u v w} uv vw := by
    have uv' := typeRank_le_of_isLE uv
    have vw' := typeRank_le_of_isLE vw
    by_cases lt : u.typeRank < w.typeRank
    · rw [totalCompare_of_lt lt]
      rfl
    · -- the three are of one type
      have uv' : u.typeRank = v.typeRank := by omega
      have vw' : v.typeRank = w.typeRank := by omega
      cases u <;> cases v <;> cases uv' <;> cases w <;> cases vw'
      case boolean.boolean.refl.boolean.refl => exact Std.TransOrd.isLE_trans uv vw
      case number.number.refl.number.refl =>
        exact @Std.TransCmp.isLE_trans _ Double.totalCompare _ _ _ _ uv vw
      case string.string.refl.string.refl => exact Std.TransOrd.isLE_trans uv vw

instance : Std.LawfulEqCmp totalCompare where
  compare_self {v} := by
    cases v with
    | boolean b => exact Std.ReflOrd.compare_self
    | number d => exact @Std.ReflCmp.compare_self _ Double.totalCompare _ _
    | string s => exact Std.ReflOrd.compare_self
  eq_of_compare {v w} h := by
    cases v <;> cases w
    case boolean.boolean => exact congrArg _ (Std.LawfulEqOrd.eq_of_compare h)
    case number.number =>
      exact congrArg _ (@Std.LawfulEqCmp.eq_of_compare _ Double.totalCompare _ _ _ h)
    case string.string => exact congrArg _ (Std.LawfulEqOrd.eq_of_compare h)
    all_goals cases h

theorem isLE_totalCompare_self (v : FlagValue) : (v.totalCompare v).isLE := by
  rw [@Std.ReflCmp.compare_self _ totalCompare]
  rfl

end FlagValue

end FeatureFlags
