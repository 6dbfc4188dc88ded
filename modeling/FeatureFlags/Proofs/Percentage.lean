import FeatureFlags.Validation
import FeatureFlags.Proofs.Double

namespace FeatureFlags

namespace RolloutEntry

def IsPercentage (d : Double) : Prop :=
  d.isFinite ∧ 0 ≤ d.scaled ∧ d.scaled ≤ 100 * Double.unitsInOne

def IsWhole (sum : Double) : Prop := (sum.sub hundred).abs.le tolerance

theorem isFinite_zero : Double.zero.isFinite := by decide

theorem scaled_zero : Double.zero.scaled = 0 := by decide +kernel

theorem isFinite_hundred : hundred.isFinite := by decide +kernel

theorem scaled_hundred : hundred.scaled = 100 * Double.unitsInOne := by decide +kernel

theorem isNaN_tolerance : tolerance.isNaN = false := by decide +kernel

theorem isFinite_of_isShare {e : RolloutEntry} (h : e.isShare) : e.rolloutPercentage.isFinite := by
  have zero : Double.zero.rank = 0 := by decide
  have upper : hundred.rank < Double.infinityMagnitude := by decide +kernel
  simp only [isShare, Double.le, Bool.and_eq_true, decide_eq_true_eq, zero] at h
  have bounds : 0 ≤ e.rolloutPercentage.rank ∧ e.rolloutPercentage.rank ≤ hundred.rank :=
    ⟨h.1.2, h.2.2⟩
  simp only [Double.isFinite, decide_eq_true_eq]
  unfold Double.rank at bounds upper
  split at bounds <;> omega

theorem isShare_iff {e : RolloutEntry} : e.isShare ↔ IsPercentage e.rolloutPercentage := by
  have values (finite : e.rolloutPercentage.isFinite) :
      e.isShare ↔ 0 ≤ e.rolloutPercentage.scaled ∧
        e.rolloutPercentage.scaled ≤ 100 * Double.unitsInOne := by
    rw [isShare, Bool.and_eq_true, Double.le_iff_scaled_le isFinite_zero finite,
      Double.le_iff_scaled_le finite isFinite_hundred, scaled_zero, scaled_hundred]
  constructor
  · intro h
    have finite := isFinite_of_isShare h
    exact ⟨finite, (values finite).1 h⟩
  · rintro ⟨finite, bounds⟩
    exact (values finite).2 bounds

theorem isNaN_total {entries : List RolloutEntry}
    (percentages : ∀ e ∈ entries, IsPercentage e.rolloutPercentage) :
    (total entries).isNaN = false := by
  have sum (acc : Double) (h : acc.isNaN = false) :
      (entries.foldl (fun sum e => sum.add e.rolloutPercentage) acc).isNaN = false := by
    induction entries generalizing acc with
    | nil => exact h
    | cons e es ih =>
      have step := Double.isNaN_add h (percentages e (.head _)).1
      exact ih (fun e he => percentages e (.tail _ he)) _ step
  exact sum .zero (by decide)

theorem isWhole_iff {entries : List RolloutEntry}
    (percentages : ∀ e ∈ entries, IsPercentage e.rolloutPercentage) :
    tolerance.lt ((total entries).sub hundred).abs = false ↔ IsWhole (total entries) := by
  apply Double.not_lt isNaN_tolerance
  rw [Double.isNaN_abs]
  exact Double.isNaN_sub (isNaN_total percentages) isFinite_hundred

variable {flagId : String} {ruleIndex : Nat} {entries : List RolloutEntry}

theorem violation?_eq_none_iff :
    violation? flagId ruleIndex entries = none ↔
      (∀ e ∈ entries, IsPercentage e.rolloutPercentage) ∧
        (entries ≠ [] → IsWhole (total entries)) := by
  unfold violation?
  cases found : entries.find? (!·.isShare) with
  | some e =>
    have outside : ¬ e.isShare := by simpa using List.find?_some found
    simp only [reduceCtorEq, false_iff]
    intro h
    exact outside (isShare_iff.2 (h.1 e (List.mem_of_find?_eq_some found)))
  | none =>
    have percentages : ∀ e ∈ entries, IsPercentage e.rolloutPercentage := by
      intro e he
      simpa [isShare_iff] using List.find?_eq_none.1 found e he
    rw [and_iff_right percentages, ← isWhole_iff percentages]
    simp

theorem of_violation?_eq_some {v : Violation} (h : violation? flagId ruleIndex entries = some v) :
    (∃ e ∈ entries, v = .rolloutPercentage flagId ruleIndex e.rolloutPercentage ∧
      ¬ IsPercentage e.rolloutPercentage) ∨
    (v = .rolloutSum flagId ruleIndex (total entries) ∧ entries ≠ [] ∧
      ¬ IsWhole (total entries)) := by
  unfold violation? at h
  cases found : entries.find? (!·.isShare) with
  | some e =>
    have outside : ¬ e.isShare := by simpa using List.find?_some found
    refine .inl ⟨e, List.mem_of_find?_eq_some found, ?_, isShare_iff.not.1 outside⟩
    simpa [found] using h.symm
  | none =>
    have percentages : ∀ e ∈ entries, IsPercentage e.rolloutPercentage := by
      intro e he
      simpa [isShare_iff] using List.find?_eq_none.1 found e he
    simp only [found, Option.ite_none_right_eq_some, Option.some.injEq, Bool.and_eq_true,
      Bool.not_eq_true', List.isEmpty_eq_false_iff] at h
    obtain ⟨⟨nonempty, far⟩, rfl⟩ := h
    refine .inr ⟨rfl, nonempty, ?_⟩
    rw [← isWhole_iff percentages, far]
    simp

end RolloutEntry

end FeatureFlags
