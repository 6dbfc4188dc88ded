import FeatureFlags.Proofs.Json.Numeral

namespace FeatureFlags

open Json.Read (exists_split)

namespace Decimal

theorem toList_positional_point (d : Decimal) : (d.positional ".0").toList =
    if '.' ∈ (d.positional "").toList then (d.positional "").toList
    else (d.positional "").toList ++ ['.', '0'] := by
  unfold positional
  dsimp only
  split
  · have whole : '.' ∉ Nat.toDigits 10 d.digits ++ List.replicate d.exponent.toNat '0' := by
      rw [List.mem_append]
      rintro (point | point)
      · exact absurd (isDigit_of_mem_toDigits _ point) (by decide)
      · exact absurd (isDigit_of_mem_zeros _ point) (by decide)
    rw [if_neg (by simpa using whole)]
    simp
  · split <;> simp

theorem mem_positional (d : Decimal) : ∀ c ∈ (d.positional "").toList, c.isDigit ∨ c = '.' := by
  intro c hc
  have there : c ∈ (d.positional ".0").toList := by
    rw [toList_positional_point]
    split
    · exact hc
    · exact List.mem_append_left _ hc
  obtain ⟨ds, fs, split, text⟩ := exists_split d
  rw [text, List.mem_append, List.mem_cons] at there
  rcases there with whole | point | fraction
  · exact .inl (split.all c (List.mem_append_left _ whole))
  · exact .inr point
  · exact .inl (split.all c (List.mem_append_right _ fraction))

theorem value_eq_of_positional {d e : Decimal} (same : d.positional "" = e.positional "") :
    d.value = e.value := by
  have texts : (d.positional ".0").toList = (e.positional ".0").toList := by
    rw [toList_positional_point, toList_positional_point, same]
  obtain ⟨ds, fs, split, text⟩ := exists_split d
  obtain ⟨ds', fs', split', text'⟩ := exists_split e
  have noPoint {cs : List Char} (all : ∀ c ∈ cs, c.isDigit) : '.' ∉ cs :=
    fun point => absurd (all _ point) (by decide)
  rw [text, text'] at texts
  obtain ⟨rfl, -, rfl⟩ := (List.append_cons_inj_of_notMem
    (noPoint fun c hc => split.all c (List.mem_append_left _ hc))
    (noPoint fun c hc => split.all c (List.mem_append_right _ hc))).1 texts
  exact split.value.symm.trans split'.value

theorem eq_of_positional_shortest {tie : Tie} {m n : Nat}
    (same : (shortest tie m).positional "" = (shortest tie n).positional "") : m = n := by
  have rounds (m : Nat) : (shortest tie m).RoundsTo m := by
    rcases Nat.eq_zero_or_pos m with rfl | positive
    · exact roundsTo_zero 0
    · exact roundsTo_shortest tie positive
  exact ((rounds m).of_value_eq (value_eq_of_positional same).symm).unique (rounds n)

end Decimal

namespace Double

/-- The text of the absolute value. -/
def body (d : Double) : String :=
  if d.isFinite then (Decimal.shortest .up d.magnitude).positional "" else "inf"

theorem display_of_not_isNaN {d : Double} (h : d.isNaN = false) : d.display = d.sign ++ d.body := by
  unfold display body
  rw [h]
  cases d.isFinite <;> rfl

theorem mem_body (d : Double) : ∀ c ∈ d.body.toList, c.isDigit ∨ c ∈ ['.', 'i', 'n', 'f'] := by
  intro c hc
  unfold body at hc
  split at hc
  · rcases Decimal.mem_positional _ c hc with digit | point
    · exact .inl digit
    · exact .inr (by simp [point])
  · exact .inr (List.mem_cons_of_mem _ hc)

theorem mem_sign (d : Double) : '-' ∈ d.sign.toList ↔ d.isNegative := by
  unfold sign
  split
  · next negative => simp [negative]
  · next nonnegative => simp [nonnegative]

theorem mem_display (d : Double) : ∀ c ∈ d.display.toList,
    c.isDigit ∨ c ∈ ['N', 'a', '-', '.', 'i', 'n', 'f'] := by
  intro c hc
  by_cases nan : d.isNaN
  · rw [display, if_pos nan] at hc
    obtain rfl | rfl | rfl : c = 'N' ∨ c = 'a' ∨ c = 'N' := by simpa using hc
    all_goals exact .inr (by decide)
  · rw [display_of_not_isNaN (Bool.eq_false_iff.2 nan), String.toList_append, List.mem_append] at hc
    rcases hc with sign | body
    · unfold Double.sign at sign
      split at sign
      · exact .inr (by simpa using .inr (.inr (.inl (List.mem_singleton.1 sign))))
      · cases sign
    · refine (mem_body d c body).imp_right fun letter => ?_
      simp only [List.mem_cons] at letter ⊢
      tauto

theorem isNegative_of_display {a b : Double} (ha : a.isNaN = false) (hb : b.isNaN = false)
    (same : a.display = b.display) : a.isNegative = b.isNegative := by
  have told {d : Double} (h : d.isNaN = false) : '-' ∈ d.display.toList ↔ d.isNegative := by
    have body : '-' ∉ d.body.toList := fun dash => absurd (mem_body d _ dash) (by decide)
    rw [display_of_not_isNaN h, String.toList_append, List.mem_append, mem_sign]
    exact or_iff_left body
  exact Bool.eq_iff_iff.2 ((told ha).symm.trans (same ▸ told hb))

theorem magnitude_of_body {a b : Double} (ha : a.isNaN = false) (hb : b.isNaN = false)
    (same : a.body = b.body) : a.magnitude = b.magnitude := by
  -- infinity is the one magnitude that is neither finite nor a NaN
  have infinite {d : Double} (h : d.isNaN = false) (beyond : ¬ d.isFinite) :
      d.magnitude = infinityMagnitude := by
    simp only [isNaN, isFinite, decide_eq_true_eq, decide_eq_false_iff_not] at h beyond
    omega
  have letters (d : Decimal) : d.positional "" ≠ "inf" := fun infinity =>
    absurd (d.mem_positional 'i' (by simp [infinity])) (by decide)
  unfold body at same
  split at same <;> split at same
  · exact Decimal.eq_of_positional_shortest same
  · exact absurd same (letters _)
  · exact absurd same.symm (letters _)
  · next beyond beyond' => rw [infinite ha beyond, infinite hb beyond']

/-- A number is told by its text, apart from the bits of a NaN. -/
theorem display_eq_iff {a b : Double} : a.display = b.display ↔ a = b ∨ (a.isNaN ∧ b.isNaN) := by
  have apart {a b : Double} (ha : a.isNaN) (hb : b.isNaN = false) : a.display ≠ b.display := by
    intro same
    have letter : 'N' ∈ b.display.toList := by
      rw [← same, display, if_pos ha]
      decide
    rw [display_of_not_isNaN hb, String.toList_append, List.mem_append] at letter
    rcases letter with sign | body
    · unfold Double.sign at sign
      split at sign <;> simp at sign
    · exact absurd (mem_body b _ body) (by decide)
  constructor
  · intro same
    cases ha : a.isNaN <;> cases hb : b.isNaN
    · have sign := isNegative_of_display ha hb same
      rw [display_of_not_isNaN ha, display_of_not_isNaN hb, Double.sign, Double.sign, sign] at same
      exact .inl (eq_of_isNegative_of_magnitude sign
        (magnitude_of_body ha hb (String.append_right_inj _ |>.1 same)))
    · exact absurd same.symm (apart hb ha)
    · exact absurd same (apart ha hb)
    · exact .inr ⟨rfl, rfl⟩
  · rintro (rfl | ⟨ha, hb⟩)
    · rfl
    · rw [display, display, if_pos ha, if_pos hb]

end Double

end FeatureFlags
