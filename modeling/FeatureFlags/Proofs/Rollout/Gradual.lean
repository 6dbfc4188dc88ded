import FeatureFlags.Proofs.Rollout.Permutation
import Mathlib.Data.List.Forall2

/-!
Greater groups get later values. Entries stand in the order of their values and a group goes to the
first whose running total reaches it, so a group that is reached at fewer places goes further back.
That takes no assumption on the percentages: totals may fall, fall short or be no number.
-/

namespace FeatureFlags

namespace Double

variable {a b c : Double}

theorem le_trans (ab : a.le b) (bc : b.le c) : a.le c := by
  simp only [le, Bool.and_eq_true, decide_eq_true_eq] at *
  exact ⟨⟨ab.1.1, bc.1.2⟩, Int.le_trans ab.2 bc.2⟩

theorem not_le_of_lt (h : a.lt b) : b.le a = false := by
  simp only [lt, Bool.and_eq_true, decide_eq_true_eq] at h
  simp [le, h.2]

theorem not_le_of_isNaN (h : a.isNaN) (b : Double) : a.le b = false := by simp [le, h]

end Double

namespace Rollout

def sorted (entries : List RolloutEntry) : List RolloutEntry := entries.mergeSort entryPrecedes

def totalsFrom (total : Double) : List RolloutEntry → List Double
  | [] => []
  | e :: es => total.add e.rolloutPercentage :: totalsFrom (total.add e.rolloutPercentage) es

def totals (entries : List RolloutEntry) : List Double := totalsFrom .zero (sorted entries)

def settle (group total : Double) : RolloutEntry → List RolloutEntry → FlagValue
  | e, [] => e.value
  | e, f :: es =>
    if group.le (total.add e.rolloutPercentage) then e.value
    else settle group (total.add e.rolloutPercentage) f es

section Settle

variable {g h t u : Double} {e f : RolloutEntry} {es fs : List RolloutEntry} {v : FlagValue}

theorem settle_eq_getD (g t : Double) (e : RolloutEntry) (es : List RolloutEntry) :
    ((reach g t (e :: es)).map (·.value)).or ((e :: es).map (·.value)).getLast? =
      some (settle g t e es) := by
  induction es generalizing e t with
  | nil =>
    rw [settle, reach]
    split <;> rfl
  | cons f es ih =>
    rw [settle, reach]
    split
    · rfl
    · rw [← ih _ f]
      rfl

theorem settle_mem (g t : Double) (e : RolloutEntry) (es : List RolloutEntry) :
    settle g t e es ∈ (e :: es).map (·.value) := by
  induction es generalizing e t with
  | nil => exact .head _
  | cons f es ih =>
    rw [settle]
    split
    · exact .head _
    · exact .tail _ (ih _ f)

theorem settle_of_le (reached : g.le (t.add e.rolloutPercentage)) : settle g t e es = e.value := by
  cases es with
  | nil => rfl
  | cons f es => exact if_pos reached

theorem isLE_of_mem (order : (e :: es).Pairwise fun a b => (a.value.totalCompare b.value).isLE)
    (hv : v ∈ (e :: es).map (·.value)) : (e.value.totalCompare v).isLE := by
  obtain ⟨f, hf, rfl⟩ := List.mem_map.1 hv
  rcases List.mem_cons.1 hf with rfl | later
  · exact FlagValue.isLE_totalCompare_self _
  · exact List.rel_of_pairwise_cons order later

theorem settle_isLE (values : (e :: es).map (·.value) = (f :: fs).map (·.value))
    (order : (e :: es).Pairwise fun a b => (a.value.totalCompare b.value).isLE)
    (reached : List.Forall₂ (fun x y => h.le y → g.le x) (totalsFrom t (e :: es))
      (totalsFrom u (f :: fs))) :
    ((settle g t e es).totalCompare (settle h u f fs)).isLE := by
  have behind := isLE_of_mem order (values ▸ settle_mem h u f fs)
  induction es generalizing e f fs t u with
  | nil => exact behind
  | cons e' es ih =>
    obtain ⟨here, rest⟩ := List.forall₂_cons.1 reached
    by_cases first : g.le (t.add e.rolloutPercentage)
    · rwa [settle_of_le first]
    · cases fs with
      | nil => cases rest
      | cons f' fs =>
        have rest_values := (List.cons.inj values).2
        have rest_order := List.Pairwise.of_cons order
        rw [settle, if_neg first, settle, if_neg fun h' => first (here h')]
        exact ih rest_values rest_order rest (isLE_of_mem rest_order (rest_values ▸ settle_mem ..))

theorem isLE_settle (order : (e :: es).Pairwise fun a b => (a.value.totalCompare b.value).isLE)
    (unreached : ∀ x ∈ totalsFrom t (e :: es), g.le x = false)
    (hv : v ∈ (e :: es).map (·.value)) : (v.totalCompare (settle g t e es)).isLE := by
  induction es generalizing e t v with
  | nil =>
    obtain rfl := List.mem_singleton.1 hv
    exact isLE_of_mem order (.head _)
  | cons f es ih =>
    have rest {w : FlagValue} := @ih _ f w (List.Pairwise.of_cons order)
      fun x hx => unreached x (.tail _ hx)
    rw [settle, if_neg (by simp [unreached _ (.head _)])]
    rcases List.mem_cons.1 hv with rfl | hv
    · have next := isLE_of_mem order (.tail _ (.head _))
      exact Std.TransCmp.isLE_trans next (rest (.head _))
    · exact rest hv

end Settle

section Sorted

variable {e : RolloutEntry} {es entries : List RolloutEntry}

theorem sorted_eq_nil_iff : sorted entries = [] ↔ entries = [] := by
  rw [sorted, ← List.length_eq_zero_iff, List.length_mergeSort, List.length_eq_zero_iff]

theorem mem_values_sorted {v : FlagValue} :
    v ∈ (sorted entries).map (·.value) ↔ v ∈ entries.map (·.value) := by
  simp only [sorted, List.mem_map, List.mem_mergeSort]

theorem select_eq_settle (entries : List RolloutEntry) (group : Double) (fallback : FlagValue) :
    select entries group fallback =
      match sorted entries with
      | [] => fallback
      | e :: es => settle group .zero e es := by
  rw [select_eq_getD, ← sorted]
  cases sorted entries with
  | nil => rfl
  | cons e es => rw [settle_eq_getD, Option.getD_some]

theorem select_of_sorted (same : sorted entries = e :: es) (group : Double) (fallback : FlagValue) :
    select entries group fallback = settle group .zero e es := by rw [select_eq_settle, same]

theorem exists_sorted_eq_cons (nonempty : entries ≠ []) :
    ∃ e es, sorted entries = e :: es ∧
      ((e :: es).Pairwise fun a b => (a.value.totalCompare b.value).isLE) ∧
      ∀ v, v ∈ (e :: es).map (·.value) ↔ v ∈ entries.map (·.value) := by
  obtain ⟨e, es, same⟩ := List.exists_cons_of_ne_nil (mt sorted_eq_nil_iff.1 nonempty)
  exact ⟨e, es, same, same ▸ pairwise_sorted entries, fun v => same ▸ mem_values_sorted⟩

end Sorted

structure Gradual (entries : List RolloutEntry) (fallback : FlagValue) : Prop where
  empty : entries = [] → ∀ group, select entries group fallback = fallback
  member : entries ≠ [] → ∀ group, ∃ e ∈ entries, e.value = select entries group fallback
  monotone : ∀ g h, g.le h →
    ((select entries g fallback).totalCompare (select entries h fallback)).isLE
  least : ∀ group, (∀ t ∈ totals entries, group.le t) →
    ∀ e ∈ entries, ((select entries group fallback).totalCompare e.value).isLE
  greatest : ∀ group, (group.isNaN ∨ ∀ t ∈ totals entries, t.lt group) →
    ∀ e ∈ entries, (e.value.totalCompare (select entries group fallback)).isLE
  /-- Greater totals of the same values keep each group at an earlier value. -/
  growth : ∀ others, (sorted entries).map (·.value) = (sorted others).map (·.value) →
    List.Forall₂ (fun t u => u.le t) (totals entries) (totals others) →
    ∀ group, ((select entries group fallback).totalCompare (select others group fallback)).isLE

section Select

variable {es fs : List RolloutEntry} {g h : Double}

theorem select_isLE (values : (sorted es).map (·.value) = (sorted fs).map (·.value))
    (reached : List.Forall₂ (fun t u => h.le u → g.le t) (totals es) (totals fs))
    (fallback : FlagValue) :
    ((select es g fallback).totalCompare (select fs h fallback)).isLE := by
  have order := pairwise_sorted es
  rw [← sorted] at order
  unfold totals at reached
  rw [select_eq_settle, select_eq_settle]
  cases first : sorted es with
  | nil =>
    rw [first] at values
    rw [List.map_eq_nil_iff.1 values.symm]
    exact FlagValue.isLE_totalCompare_self _
  | cons e es' =>
    rw [first] at values order reached
    cases second : sorted fs with
    | nil =>
      rw [second] at values
      cases values
    | cons f fs' =>
      rw [second] at values reached
      exact settle_isLE values order reached

/-- A rollout is gradual, whatever its percentages. -/
theorem gradual (entries : List RolloutEntry) (fallback : FlagValue) : Gradual entries fallback := by
  constructor
  · rintro rfl group
    rw [select_eq_settle, sorted_eq_nil_iff.2 rfl]
  · intro nonempty group
    obtain ⟨e, es, same, -, values⟩ := exists_sorted_eq_cons nonempty
    rw [select_of_sorted same]
    exact List.mem_map.1 ((values _).1 (settle_mem ..))
  · intro g h le
    apply select_isLE rfl
    exact List.forall₂_same.2 fun t _ reached => Double.le_trans le reached
  · intro group below e he
    obtain ⟨f, fs, same, order, values⟩ := exists_sorted_eq_cons (List.ne_nil_of_mem he)
    rw [totals, same] at below
    rw [select_of_sorted same, settle_of_le (below _ (.head _))]
    exact isLE_of_mem order ((values _).2 (List.mem_map_of_mem he))
  · intro group beyond e he
    obtain ⟨f, fs, same, order, values⟩ := exists_sorted_eq_cons (List.ne_nil_of_mem he)
    rw [totals, same] at beyond
    rw [select_of_sorted same]
    refine isLE_settle order ?_ ((values _).2 (List.mem_map_of_mem he))
    intro t ht
    rcases beyond with nan | beyond
    · exact Double.not_le_of_isNaN nan t
    · exact Double.not_le_of_lt (beyond t ht)
  · intro others values greater group
    apply select_isLE values
    exact greater.imp fun t u le reached => Double.le_trans reached le

end Select

def wavering : List RolloutEntry :=
  [⟨.boolean false, .ofInt 30⟩, ⟨.number .zero, .ofInt (-10)⟩, ⟨.string "all", .ofInt 50⟩]

def waveringGrown : List RolloutEntry :=
  [⟨.boolean false, .ofInt 40⟩, ⟨.number .zero, .ofInt (-10)⟩, ⟨.string "all", .ofInt 50⟩]

theorem gradual_wavering : let group : Double := .ofInt 35
    List.Forall₂ (fun t u => u.le t) (totals waveringGrown) (totals wavering) ∧
    ((select waveringGrown group (.string "none")).totalCompare
      (select wavering group (.string "none"))).isLE ∧
    select waveringGrown group (.string "none") = .boolean false ∧
    select wavering group (.string "none") = .string "all" := by
  have inOrder : sorted wavering = wavering := List.mergeSort_of_pairwise (by decide +kernel)
  have inOrderGrown : sorted waveringGrown = waveringGrown :=
    List.mergeSort_of_pairwise (by decide +kernel)
  have values : (sorted waveringGrown).map (·.value) = (sorted wavering).map (·.value) := by
    simp only [inOrder, inOrderGrown]
    decide +kernel
  have greater : List.Forall₂ (fun t u => u.le t) (totals waveringGrown) (totals wavering) := by
    simp only [totals, inOrder, inOrderGrown]
    decide +kernel
  refine ⟨greater, (gradual waveringGrown _).growth wavering values greater _, ?_, ?_⟩
  · rw [select_of_sorted inOrderGrown]
    decide +kernel
  · rw [select_of_sorted inOrder]
    decide +kernel

end Rollout

end FeatureFlags
