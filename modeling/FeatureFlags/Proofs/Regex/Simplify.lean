import FeatureFlags.Proofs.Regex.Matching
import Mathlib.Data.Option.Basic

namespace FeatureFlags

namespace Unicode.CharSet

theorem contains_unions (sets : List CharSet) (c : Char) :
    (unions sets).contains c = sets.any (·.contains c) := by
  have go (s : CharSet) : (sets.foldl union s).contains c = (s.contains c || sets.any (·.contains c)) := by
    induction sets generalizing s with
    | nil => simp
    | cons t sets ih =>
      rw [List.foldl_cons, ih]
      change ((s ∪ t).contains c || _) = _
      simp [Bool.or_assoc]
  exact (go empty).trans (by simp)

theorem contains_single (a c : Char) : (single a).contains c = (c == a) := by
  rw [single, contains_range, Bool.eq_iff_iff]
  simp only [Bool.and_eq_true, decide_eq_true_eq, beq_iff_eq]
  exact ⟨fun ⟨least, greatest⟩ => Char.toNat_inj.1 (by omega), fun same => by simp [same]⟩

theorem contains_ofString (s : String) (c : Char) : (ofString s).contains c ↔ c ∈ s.toList := by
  simp [ofString, contains_unions, contains_single]

end Unicode.CharSet

namespace Regex

open Unicode

namespace Pattern

variable {text : List Char} {p q : Pattern} {i j k : Nat}

theorem spans_followedBy :
    (p.followedBy q).Spans text i k ↔ ∃ j, p.Spans text i j ∧ q.Spans text j k := by
  unfold followedBy
  split <;> simp [Spans]

theorem spans_sequence_cons {ps : List Pattern} : (sequence (p :: ps)).Spans text i k ↔
    ∃ j, p.Spans text i j ∧ (sequence ps).Spans text j k :=
  spans_followedBy

theorem not_spans_nothing : ¬ (Pattern.set .empty).Spans text i j := by
  simp [Spans]

theorem spans_alternatives {ps : List Pattern} :
    (alternatives ps).Spans text i j ↔ ∃ p ∈ ps, p.Spans text i j := by
  fun_induction alternatives ps with
  | case1 => simp [not_spans_nothing]
  | case2 => simp
  | case3 p ps _ ih => simp [Spans, ih]

theorem eq_set_of_singleton? {s : CharSet} (h : p.singleton? = some s) : p = .set s := by
  unfold singleton? at h
  split at h
  · split at h <;> simp_all
  · cases h

theorem eq_set_of_compound? {s : CharSet} (h : p.compound? = some s) : p = .set s := by
  unfold compound? at h
  split at h
  · split at h <;> simp_all
  · cases h

theorem eq_map_set {f : Pattern → Option CharSet} (one : ∀ {p s}, f p = some s → p = .set s)
    {ps : List Pattern} {sets : List CharSet} (h : ps.mapM f = some sets) : ps = sets.map .set := by
  induction ps generalizing sets with
  | nil => simp_all
  | cons p ps ih =>
    simp only [List.mapM_cons, Option.bind_eq_bind, Option.bind_eq_some_iff, Option.pure_def,
      Option.some.injEq] at h
    obtain ⟨s, found, sets, rest, rfl⟩ := h
    rw [one found, ih rest, List.map_cons]

/-- Joining alternatives that are sets changes no match. -/
theorem spans_anyOf {ps : List Pattern} :
    (anyOf ps).Spans text i j ↔ ∃ p ∈ ps, p.Spans text i j := by
  unfold anyOf
  split
  · next sets joined =>
    obtain rfl : ps = sets.map .set := by
      rcases (Option.orElse_eq_some _ _ _).1 joined with single | ⟨-, compound⟩
      · exact eq_map_set eq_set_of_singleton? single
      · exact eq_map_set eq_set_of_compound? compound
    simp only [Spans, CharSet.contains_unions, List.any_eq_true, List.mem_map]
    grind [Spans]
  · exact spans_alternatives

theorem times_of_still {R : Nat → Nat → Prop} (still : ∀ {i j}, R i j → i = j) {n : Nat} :
    Times R n i j ↔ i = j ∧ (n = 0 ∨ R i i) := by
  induction n with
  | zero => simp [times_zero_iff]
  | succ n ih =>
    rw [times_succ_iff]
    constructor
    · rintro ⟨k, first, rest⟩
      obtain rfl := still first
      exact ⟨(ih.1 rest).1, .inr first⟩
    · rintro ⟨rfl, none | once⟩
      · cases none
      · exact ⟨i, once, ih.2 ⟨rfl, .inr once⟩⟩

theorem eq_of_spans (blank : p.isBlank) (h : p.Spans text i j) : i = j := by
  induction p generalizing i j with
  | empty => exact h
  | set s => cases blank
  | look l => exact h.1
  | capture p ih => exact ih blank h
  | seq p q ihp ihq =>
    obtain ⟨blankp, blankq⟩ := Bool.and_eq_true_iff.1 blank
    obtain ⟨k, first, rest⟩ := h
    exact (ihp blankp first).trans (ihq blankq rest)
  | alt p q ihp ihq =>
    obtain ⟨blankp, blankq⟩ := Bool.and_eq_true_iff.1 blank
    exact h.elim (ihp blankp) (ihq blankq)
  | repeated p least most ih =>
    obtain ⟨blankp, -⟩ := Bool.and_eq_true_iff.1 blank
    obtain ⟨n, -, -, steps⟩ := h
    exact ((times_of_still (ih blankp)).1 steps).1

theorem spans_never : Pattern.empty.Spans text i j ↔
    (Pattern.repeated p 0 (some 0)).Spans text i j := by
  simp [Spans, times_zero_iff]

theorem spans_once : p.Spans text i j ↔ (Pattern.repeated p 1 (some 1)).Spans text i j := by
  have one : Times (p.Spans text) 1 i j ↔ p.Spans text i j := by
    simp [times_succ_iff, times_zero_iff]
  simp only [Spans, Option.mem_some_iff, forall_eq']
  constructor
  · exact fun spans => ⟨1, by omega, by omega, one.2 spans⟩
  · rintro ⟨n, least, most, steps⟩
    obtain rfl : n = 1 := by omega
    exact one.1 steps

theorem spans_blank (blank : p.isBlank) {least : Nat} {most : Option Nat} :
    (Pattern.repeated p (min least 1) (some (min (most.getD 1) 1))).Spans text i j ↔
      (Pattern.repeated p least most).Spans text i j := by
  simp only [Spans, times_of_still (eq_of_spans blank), Option.mem_some_iff, forall_eq']
  constructor
  · rintro ⟨n, lower, upper, rfl, none | once⟩
    · exact ⟨0, by omega, by omega, rfl, .inl rfl⟩
    · cases most with
      | none => exact ⟨max least n, by omega, by simp, rfl, .inr once⟩
      | some most =>
        simp only [Option.getD_some] at upper
        refine ⟨max least n, by omega, fun m same => ?_, rfl, .inr once⟩
        cases same
        omega
  · rintro ⟨n, lower, upper, rfl, none | once⟩
    · exact ⟨0, by omega, by omega, rfl, .inl rfl⟩
    · cases most with
      | none => exact ⟨min n 1, by omega, by simp only [Option.getD_none]; omega, rfl, .inr once⟩
      | some most =>
        have n_le := upper most rfl
        exact ⟨min n 1, by omega, by simp only [Option.getD_some]; omega, rfl, .inr once⟩

/-- To repeat once or never is no repetition, and what is empty need not be repeated twice. -/
theorem spans_times {least : Nat} {most : Option Nat} (bounds : ∀ m ∈ most, least ≤ m) :
    (p.times least most).Spans text i j ↔ (Pattern.repeated p least most).Spans text i j := by
  unfold times
  split
  next least' most' pair =>
    have kept : (∀ m ∈ most', least' ≤ m) ∧
        ((Pattern.repeated p least' most').Spans text i j ↔
          (Pattern.repeated p least most).Spans text i j) := by
      split at pair
      · next blank =>
        cases pair
        refine ⟨?_, spans_blank blank⟩
        rintro m ⟨⟩
        cases most with
        | none => exact Nat.min_le_right ..
        | some most =>
          have := bounds most rfl
          simp only [Option.getD_some]
          omega
      · cases pair
        exact ⟨bounds, .rfl⟩
    obtain ⟨bounds', same⟩ := kept
    rw [← same]
    split
    · obtain rfl : least' = 0 := Nat.le_zero.1 (bounds' 0 rfl)
      exact spans_never
    · split
      · next one =>
        rw [one]
        exact spans_once
      · rfl
    · rfl

end Pattern

section Mode

variable {m : Mode} {text : List Char} {i j : Nat}

theorem Mode.contains_of_negate? {s t : CharSet} (h : m.negate? s = some t) (c : Char) :
    t.contains c = !s.contains c := by
  unfold negate? at h
  split at h
  · cases h
    simp
  · cases h

theorem spans_literal (case : m.ignoreCase = false) (c : Char) :
    (m.literal c).Spans text i j ↔ j = i + 1 ∧ text[i]? = some c := by
  simp [Mode.literal, Mode.fold, case, Pattern.Spans, CharSet.contains_single]

/-- A dot is any character, but no end of a line where lines are told apart. -/
theorem spans_dot {p : Pattern} (h : m.dot? = some p) : p.Spans text i j ↔
    j = i + 1 ∧ ∃ c, text[i]? = some c ∧
      (m.dotAll ∨ c ≠ '\n' ∧ (m.lineEnds = .carriageReturn → c ≠ '\r')) := by
  obtain ⟨s, negated, rfl⟩ := Option.map_eq_some_iff.1 h
  have told (c : Char) : s.contains c ↔
      (m.dotAll ∨ c ≠ '\n' ∧ (m.lineEnds = .carriageReturn → c ≠ '\r')) := by
    rw [Mode.contains_of_negate? negated, Bool.not_eq_true', ← Bool.not_eq_true,
      CharSet.contains_ofString]
    cases m.dotAll <;> cases m.lineEnds <;> simp [and_comm]
  simp only [Pattern.Spans, told]

end Mode

namespace Bracket

def SetOperation.keeps : SetOperation → Bool → Bool → Bool
  | .inter, a, b => a && b
  | .diff, a, b => a && !b
  | .symmDiff, a, b => a ^^ b

theorem SetOperation.contains_apply (op : SetOperation) (s t : CharSet) (c : Char) :
    (op.apply s t).contains c = op.keeps (s.contains c) (t.contains c) := by
  cases op <;> simp [apply, keeps]

namespace Level

variable {m : Mode} {l : Level}

def accepts (l : Level) (c : Char) : Bool :=
  match l.left with
  | none => l.items.set.contains c
  | some (op, left) => op.keeps (left.set.contains c) (l.items.set.contains c)

/-- A class that goes by case has what its brackets and operations say. -/
theorem contains_close? (case : m.ignoreCase = false) {o : Operand} (h : l.close? m = some o)
    (c : Char) : o.set.contains c = (l.negated ^^ l.accepts c) := by
  have fold (s : CharSet) : m.fold s = s := by simp [Mode.fold, case]
  have operand : (l.operand m).set.contains c = l.accepts c := by
    unfold Level.operand accepts
    cases l.left with
    | none => rfl
    | some left =>
      simp only [fold, SetOperation.contains_apply]
      rfl
  simp only [close?, fold, Option.bind_eq_bind, Option.pure_def] at h
  split at h
  · next negated =>
    obtain ⟨s, closed, same⟩ := Option.bind_eq_some_iff.1 h
    cases same
    simp [Mode.contains_of_negate? closed, operand, negated]
  · next plain =>
    cases h
    simp [operand, plain]

end Level

end Bracket

end Regex

end FeatureFlags
