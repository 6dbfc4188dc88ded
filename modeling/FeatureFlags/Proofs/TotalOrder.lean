import FeatureFlags.Proofs.Value
import Mathlib.Data.String.Basic

namespace FeatureFlags

namespace Double

def IsQuiet (d : Double) : Prop := fractions / 2 ≤ d.magnitude % fractions

def payload (d : Double) : Nat := d.magnitude % (fractions / 2)

def PayloadAtMost (a b : Double) : Prop :=
  ¬ a.IsQuiet ∧ b.IsQuiet ∨ (a.IsQuiet ↔ b.IsQuiet) ∧ a.payload ≤ b.payload

/-- The total order of IEEE 754. Numbers are ordered by value and a negative zero stands before a
positive one; NaNs stand at the end of their sign, and those of negative sign in reverse. -/
inductive AtMost : Double → Double → Prop
  | less : a.lt b → AtMost a b
  | equal : a.equal b → a.isNegative ∨ b.isNegative = false → AtMost a b
  | negativeNaN : a.isNaN → a.isNegative → b.isNaN = false → AtMost a b
  | positiveNaN : a.isNaN = false → b.isNaN → b.isNegative = false → AtMost a b
  | signs : a.isNaN → b.isNaN → a.isNegative → b.isNegative = false → AtMost a b
  | positiveNaNs : a.isNaN → b.isNaN → a.isNegative = false → b.isNegative = false →
    a.PayloadAtMost b → AtMost a b
  | negativeNaNs : a.isNaN → b.isNaN → a.isNegative → b.isNegative → b.PayloadAtMost a →
    AtMost a b

variable {a b : Double}

theorem isNaN_iff : a.isNaN ↔ infinityMagnitude < a.magnitude := decide_eq_true_iff

theorem isNaN_eq_false_iff : a.isNaN = false ↔ a.magnitude ≤ infinityMagnitude :=
  decide_eq_false_iff_not.trans Nat.not_lt

theorem payloadAtMost_iff (ha : a.isNaN) (hb : b.isNaN) :
    a.PayloadAtMost b ↔ a.magnitude ≤ b.magnitude := by
  have ha := isNaN_iff.1 ha
  have hb := isNaN_iff.1 hb
  have := a.magnitude_lt
  have := b.magnitude_lt
  simp only [infinityMagnitude, signBit] at *
  simp only [PayloadAtMost, IsQuiet, payload, fractions]
  omega

theorem totalRank_le_iff_rank : a.totalRank ≤ b.totalRank ↔
    a.rank < b.rank ∨ a.rank = b.rank ∧ (a.isNegative ∨ b.isNegative = false) := by
  unfold totalRank rank
  cases a.isNegative <;> cases b.isNegative <;> simp <;> omega

theorem totalRank_lt_of_rank_lt (h : a.rank < b.rank) : a.totalRank < b.totalRank := by
  unfold totalRank
  unfold rank at h
  grind

theorem AtMost.totalRank_le (h : a.AtMost b) : a.totalRank ≤ b.totalRank := by
  cases h with
  | less h =>
    have less : a.rank < b.rank := by simp_all [lt]
    exact (totalRank_lt_of_rank_lt less).le
  | equal h sign =>
    have equal : a.rank = b.rank := by simp_all [Double.equal]
    exact totalRank_le_iff_rank.2 (.inr ⟨equal, sign⟩)
  | negativeNaN ha sign hb =>
    have := isNaN_iff.1 ha
    have := isNaN_eq_false_iff.1 hb
    simp only [totalRank, sign]
    grind
  | positiveNaN ha hb sign =>
    have := isNaN_iff.1 hb
    have := isNaN_eq_false_iff.1 ha
    simp only [totalRank, sign]
    grind
  | signs ha hb sa sb =>
    simp only [totalRank, sa, sb]
    grind
  | positiveNaNs ha hb sa sb le =>
    have := (payloadAtMost_iff ha hb).1 le
    simpa [totalRank, sa, sb] using this
  | negativeNaNs ha hb sa sb le =>
    have := (payloadAtMost_iff hb ha).1 le
    simpa [totalRank, sa, sb] using this

theorem atMost_of_totalRank_le (h : a.totalRank ≤ b.totalRank) : a.AtMost b := by
  cases ha : a.isNaN <;> cases hb : b.isNaN
  case false.false =>
    rcases totalRank_le_iff_rank.1 h with less | ⟨equal, sign⟩
    · exact .less (by simp [lt, ha, hb, less])
    · exact .equal (by simp [Double.equal, ha, hb, equal]) sign
  case true.false =>
    have := isNaN_iff.1 ha
    have := isNaN_eq_false_iff.1 hb
    have sign : a.isNegative := by
      unfold totalRank at h
      grind
    exact .negativeNaN ha sign hb
  case false.true =>
    have := isNaN_iff.1 hb
    have := isNaN_eq_false_iff.1 ha
    have sign : b.isNegative = false := by
      unfold totalRank at h
      grind
    exact .positiveNaN ha hb sign
  case true.true =>
    cases sa : a.isNegative <;> cases sb : b.isNegative
    case false.false =>
      have le : a.magnitude ≤ b.magnitude := by simpa [totalRank, sa, sb] using h
      exact .positiveNaNs ha hb sa sb ((payloadAtMost_iff ha hb).2 le)
    case false.true =>
      unfold totalRank at h
      grind
    case true.false => exact .signs ha hb sa sb
    case true.true =>
      have le : b.magnitude ≤ a.magnitude := by simpa [totalRank, sa, sb] using h
      exact .negativeNaNs ha hb sa sb ((payloadAtMost_iff hb ha).2 le)

theorem isLE_totalCompare_iff : (a.totalCompare b).isLE ↔ a.AtMost b := by
  rw [totalCompare, Std.isLE_compare]
  exact ⟨atMost_of_totalRank_le, AtMost.totalRank_le⟩

theorem totalCompare_eq_lt_iff : a.totalCompare b = .lt ↔ a.totalRank < b.totalRank :=
  Std.compare_eq_lt

theorem totalCompare_of_scaled_lt (ha : a.isFinite) (hb : b.isFinite) (h : a.scaled < b.scaled) :
    a.totalCompare b = .lt := by
  have number := isNaN_of_isFinite ha
  have number' := isNaN_of_isFinite hb
  have greater : b.le a = false := by
    rw [Bool.eq_false_iff, ne_eq, le_iff_scaled_le hb ha]
    omega
  have less : a.rank < b.rank := by simpa [le, number, number'] using greater
  exact totalCompare_eq_lt_iff.2 (totalRank_lt_of_rank_lt less)

theorem totalCompare_eq_lt_iff_lt (ha : a.isNaN = false) (hb : b.isNaN = false)
    (nonzero : ¬ (a.magnitude = 0 ∧ b.magnitude = 0)) : a.totalCompare b = .lt ↔ a.lt b := by
  have less : a.lt b ↔ a.rank < b.rank := by simp [lt, ha, hb]
  rw [totalCompare_eq_lt_iff, less]
  unfold totalRank rank
  grind

end Double

def Text.codePoints (s : String) : List Nat := s.toList.map (·.toNat)

theorem Text.codePoints_lt_iff {s t : String} : codePoints s < codePoints t ↔ s < t := by
  have mono {s t : String} (h : s < t) : codePoints s < codePoints t :=
    List.map_lt (fun _ _ h => h) (String.lt_iff.1 h)
  constructor
  · intro h
    rcases lt_trichotomy s t with less | rfl | greater
    · exact less
    · exact absurd h (lt_irrefl _)
    · exact absurd h (mono greater).asymm
  · exact mono

namespace FlagValue

/-- Values of one type with the same content: numbers bit for bit, texts byte for byte. -/
def SameContent : FlagValue → FlagValue → Prop
  | .boolean a, .boolean b => a = b
  | .number a, .number b => a.bits = b.bits
  | .string s, .string t => s.toUTF8 = t.toUTF8
  | _, _ => False

theorem sameContent_iff {v w : FlagValue} : v.SameContent w ↔ v = w := by
  cases v <;> cases w
  case number.number a b =>
    obtain ⟨a⟩ := a
    obtain ⟨b⟩ := b
    simp [SameContent]
  case string.string s t =>
    rw [SameContent, string.injEq]
    exact String.toByteArray_inj
  all_goals simp [SameContent]

theorem totalCompare_string_eq_lt_iff {s t : String} :
    totalCompare (.string s) (.string t) = .lt ↔ Text.codePoints s < Text.codePoints t := by
  rw [Text.codePoints_lt_iff, totalCompare]
  exact Std.LawfulLTCmp.eq_lt_iff_lt

structure Arranges (cmp : FlagValue → FlagValue → Ordering) : Prop where
  reflexive : ∀ v, cmp v v = .eq
  antisymmetric : ∀ v w, cmp v w = (cmp w v).swap
  transitive : ∀ u v w, (cmp u v).isLE → (cmp v w).isLE → (cmp u w).isLE
  equal : ∀ v w, cmp v w = .eq ↔ v.SameContent w
  types : ∀ v w, v.typeRank < w.typeRank → cmp v w = .lt
  booleans : cmp (.boolean false) (.boolean true) = .lt
  numbers : ∀ a b, (cmp (.number a) (.number b)).isLE ↔ a.AtMost b
  numeric : ∀ a b, a.isNaN = false → b.isNaN = false → ¬ (a.magnitude = 0 ∧ b.magnitude = 0) →
    (cmp (.number a) (.number b) = .lt ↔ a.lt b)
  finite : ∀ a b : Double, a.isFinite → b.isFinite → a.scaled < b.scaled →
    cmp (.number a) (.number b) = .lt
  strings : ∀ s t,
    cmp (.string s) (.string t) = .lt ↔ Text.codePoints s < Text.codePoints t

theorem arranges_totalCompare : Arranges totalCompare where
  reflexive _ := Std.ReflCmp.compare_self
  antisymmetric _ _ := Std.OrientedCmp.eq_swap
  transitive _ _ _ := Std.TransCmp.isLE_trans
  equal _ _ := Std.LawfulEqCmp.compare_eq_iff_eq.trans sameContent_iff.symm
  types _ _ := totalCompare_of_lt
  booleans := rfl
  numbers _ _ := Double.isLE_totalCompare_iff
  numeric _ _ := Double.totalCompare_eq_lt_iff_lt
  finite _ _ := Double.totalCompare_of_scaled_lt
  strings _ _ := totalCompare_string_eq_lt_iff

end FlagValue

end FeatureFlags
