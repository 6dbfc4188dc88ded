import FeatureFlags.Rollout
import FeatureFlags.Proofs.Value

/-!
The order in which the entries of a rollout are declared decides nothing. Entries are sorted by value,
which leaves open only where entries of one value stand; if those have equal percentages, the running
totals are equal too.
-/

namespace FeatureFlags

namespace Double

/-- Numbers that compare alike with every number: equal ones, the zeros among them, and NaNs. -/
def Same (a b : Double) : Prop := a.equal b ∨ a.isNaN ∧ b.isNaN

instance (a b : Double) : Decidable (a.Same b) := inferInstanceAs (Decidable (_ ∨ _))

theorem equal_iff {a b : Double} : a.equal b ↔
    a.isNaN = false ∧ b.isNaN = false ∧ (a = b ∨ a.magnitude = 0 ∧ b.magnitude = 0) := by
  simp only [equal, Bool.and_eq_true, Bool.not_eq_true', beq_iff_eq, and_assoc]
  refine and_congr_right fun _ => and_congr_right fun _ => ⟨fun same => ?_, ?_⟩
  · unfold rank at same
    by_cases sign : a.isNegative = b.isNegative
    · left
      apply eq_of_isNegative_of_magnitude sign
      grind
    · right
      grind
  · rintro (rfl | ⟨za, zb⟩)
    · rfl
    · simp [rank, za, zb]

theorem Same.cases {a b : Double} (h : a.Same b) :
    a = b ∨ a.magnitude = 0 ∧ b.magnitude = 0 ∨ a.isNaN ∧ b.isNaN := by
  rcases h with h | h
  · exact (equal_iff.1 h).2.2.imp_right .inl
  · exact .inr (.inr h)

theorem Same.refl (a : Double) : a.Same a := by
  cases nan : a.isNaN
  · exact .inl (equal_iff.2 ⟨nan, nan, .inl rfl⟩)
  · exact .inr ⟨nan, nan⟩

theorem same_of_magnitude_eq_zero {a b : Double} (ha : a.magnitude = 0) (hb : b.magnitude = 0) :
    a.Same b := by
  have number {d : Double} (h : d.magnitude = 0) : d.isNaN = false := by simp [isNaN, h]
  exact .inl (equal_iff.2 ⟨number ha, number hb, .inr ⟨ha, hb⟩⟩)

theorem add_comm (a b : Double) : a.add b = b.add a := by
  unfold add
  cases nans : a.isNaN || b.isNaN with
  | true => simp [Bool.or_comm b.isNaN, nans]
  | false =>
    rw [Bool.or_comm] at nans
    simp only [nans, Bool.false_eq_true, if_false]
    by_cases fa : a.isFinite <;> by_cases fb : b.isFinite
    · simp [fa, fb, Int.add_comm, Bool.and_comm]
    · simp [fa, fb]
    · simp [fa, fb]
    · by_cases sign : a.isNegative = b.isNegative
      · have same : a = b := by
          apply eq_of_isNegative_of_magnitude sign
          simp only [isNaN, isFinite, Bool.or_eq_false_iff, decide_eq_false_iff_not,
            decide_eq_true_eq] at nans fa fb
          omega
        simp [same]
      · simp [fa, fb, sign, Ne.symm sign]

theorem scaled_of_magnitude_eq_zero {a : Double} (h : a.magnitude = 0) : a.scaled = 0 := by
  simp [scaled, h, units, fractions]

theorem add_same {a b b' : Double} (h : b.Same b') : (a.add b).Same (a.add b') := by
  rcases h.cases with rfl | ⟨zero, zero'⟩ | ⟨nan, nan'⟩
  · exact .refl _
  · have finite {d : Double} (h : d.magnitude = 0) : d.isFinite := by
      simp [isFinite, h, infinityMagnitude]
    have number {d : Double} (h : d.magnitude = 0) : d.isNaN = false := by simp [isNaN, h]
    unfold add
    simp only [number zero, number zero', finite zero, finite zero', Bool.or_false, Bool.not_true,
      Bool.false_and, Bool.false_eq_true, if_false, scaled_of_magnitude_eq_zero zero,
      scaled_of_magnitude_eq_zero zero']
    split
    · exact .refl _
    split
    · exact .refl _
    split
    · apply same_of_magnitude_eq_zero <;> exact magnitude_ofMagnitude (by decide)
    · exact .refl _
  · simp [add, nan, nan', Same.refl]

theorem Same.trans {a b c : Double} (ab : a.Same b) (bc : b.Same c) : a.Same c := by
  unfold Same equal at *
  grind

theorem Same.add {a a' b b' : Double} (ha : a.Same a') (hb : b.Same b') :
    (a.add b).Same (a'.add b') := by
  apply (add_same hb).trans
  rw [add_comm a, add_comm a']
  exact add_same ha

theorem le_of_same {a b : Double} (h : a.Same b) (d : Double) : d.le a = d.le b := by
  unfold Same equal at h
  unfold le
  grind

end Double

namespace Rollout

theorem entryPrecedes_eq_isLE (a b : RolloutEntry) :
    entryPrecedes a b = (a.value.totalCompare b.value).isLE := by
  unfold entryPrecedes
  cases a.value.totalCompare b.value <;> rfl

theorem pairwise_sorted (es : List RolloutEntry) :
    (es.mergeSort entryPrecedes).Pairwise fun a b => (a.value.totalCompare b.value).isLE := by
  have sorted := fun trans total => @List.pairwise_mergeSort _ entryPrecedes trans total es
  simp only [entryPrecedes_eq_isLE] at sorted
  apply sorted
  · exact fun a b c => Std.TransCmp.isLE_trans
  · intro a b
    rw [@Std.OrientedCmp.eq_swap _ FlagValue.totalCompare]
    cases b.value.totalCompare a.value <;> rfl

theorem values_sorted {es fs : List RolloutEntry} (h : es.Perm fs) :
    (es.mergeSort entryPrecedes).map (·.value) = (fs.mergeSort entryPrecedes).map (·.value) := by
  apply @List.Perm.eq_of_pairwise _ fun v w : FlagValue => (v.totalCompare w).isLE
  · intro v w _ _ vw wv
    exact Std.LawfulEqCmp.eq_of_compare (Std.OrientedCmp.isLE_antisymm vw wv)
  · exact List.pairwise_map.2 (pairwise_sorted es)
  · exact List.pairwise_map.2 (pairwise_sorted fs)
  · apply List.Perm.map
    exact (List.mergeSort_perm ..).trans (h.trans (List.mergeSort_perm ..).symm)

theorem value_reach {es fs : List RolloutEntry} (values : es.map (·.value) = fs.map (·.value))
    (shares : ∀ a ∈ es, ∀ b ∈ fs, a.value = b.value →
      a.rolloutPercentage.Same b.rolloutPercentage)
    (group : Double) {total total' : Double} (totals : total.Same total') :
    (reach group total es).map (·.value) = (reach group total' fs).map (·.value) := by
  induction es generalizing fs total total' with
  | nil =>
    obtain rfl : fs = [] := by simpa using values.symm
    rfl
  | cons a es ih =>
    obtain ⟨b, fs, rfl, value, rest⟩ := List.map_eq_cons_iff.1 values.symm
    have totals := totals.add (shares a (.head _) b (.head _) value.symm)
    have step := ih rest.symm (fun a ha b hb => shares a (.tail _ ha) b (.tail _ hb)) totals
    simp only [reach, Double.le_of_same totals]
    split
    · exact congrArg some value.symm
    · exact step

theorem select_eq_getD (entries : List RolloutEntry) (group : Double) (fallback : FlagValue) :
    select entries group fallback =
      (((reach group .zero (entries.mergeSort entryPrecedes)).map (·.value)).or
        ((entries.mergeSort entryPrecedes).map (·.value)).getLast?).getD fallback := by
  rw [select, List.getLast?_map, ← Option.map_or]
  simp only [Option.orElse_eq_orElse, Option.orElse_eq_or]
  cases (reach group .zero (entries.mergeSort entryPrecedes)).or
    (entries.mergeSort entryPrecedes).getLast? <;> rfl

/-- A rollout whose entries of equal values have equal percentages gives each group the same value in
whichever order the entries are declared. -/
theorem select_perm {es fs : List RolloutEntry} (permuted : es.Perm fs)
    (shares : ∀ a ∈ es, ∀ b ∈ es, a.value.totalCompare b.value = .eq →
      a.rolloutPercentage.Same b.rolloutPercentage) (group : Double) (fallback : FlagValue) :
    select es group fallback = select fs group fallback := by
  have sorted (es : List RolloutEntry) {e : RolloutEntry} :
      e ∈ es.mergeSort entryPrecedes ↔ e ∈ es := (List.mergeSort_perm ..).mem_iff
  have reached := by
    refine value_reach (values_sorted permuted) ?_ group (.refl .zero)
    intro a ha b hb value
    apply shares a ((sorted es).1 ha) b (permuted.mem_iff.2 ((sorted fs).1 hb))
    rw [value]
    exact Std.ReflCmp.compare_self
  rw [select_eq_getD, select_eq_getD, reached, values_sorted permuted]

def scattered : List RolloutEntry :=
  [⟨.string "b", .ofInt 60⟩, ⟨.boolean true, .nan⟩, ⟨.number .zero, .zero⟩, ⟨.string "b", .ofInt 60⟩,
    ⟨.number .zero, Double.zero.neg⟩, ⟨.boolean true, Double.nan.neg⟩]

theorem select_scattered : scattered.Perm scattered.reverse ∧
    (∀ a ∈ scattered, ∀ b ∈ scattered, a.value.totalCompare b.value = .eq →
      a.rolloutPercentage.Same b.rolloutPercentage) ∧
    select scattered unknownGroup (.string "a") =
      select scattered.reverse unknownGroup (.string "a") := by
  have shares : ∀ a ∈ scattered, ∀ b ∈ scattered, a.value.totalCompare b.value = .eq →
      a.rolloutPercentage.Same b.rolloutPercentage := by
    decide +kernel
  exact ⟨(List.reverse_perm _).symm, shares, select_perm (List.reverse_perm _).symm shares _ _⟩

end Rollout

end FeatureFlags
