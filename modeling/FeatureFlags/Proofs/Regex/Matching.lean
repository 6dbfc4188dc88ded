import FeatureFlags.Regex.Match
import Mathlib.Data.List.Basic

namespace FeatureFlags.Regex

open Unicode

/-- So many steps of a relation lead from one place to another. -/
inductive Times (R : Nat → Nat → Prop) : Nat → Nat → Nat → Prop
  | none : Times R 0 i i
  | more : R i j → Times R n j k → Times R (n + 1) i k

namespace Pattern

/-- A match of the pattern starts at the first place of the text and ends at the second one. -/
def Spans (text : List Char) : Pattern → Nat → Nat → Prop
  | .empty, i, j => i = j
  | .set s, i, j => j = i + 1 ∧ ∃ c, text[i]? = some c ∧ s.contains c
  | .look l, i, j => i = j ∧ ∃ place, (places Option.none text)[i]? = some place ∧ l.holdsAt place
  | .capture p, i, j => p.Spans text i j
  | .seq p q, i, k => ∃ j, p.Spans text i j ∧ q.Spans text j k
  | .alt p q, i, j => p.Spans text i j ∨ q.Spans text i j
  | .repeated p least most, i, j =>
    ∃ n, least ≤ n ∧ (∀ m ∈ most, n ≤ max least m) ∧ Times (p.Spans text) n i j

end Pattern

section Times

variable {R : Nat → Nat → Prop} {m n i j k : Nat}

theorem times_zero_iff : Times R 0 i j ↔ i = j :=
  ⟨fun | .none => rfl, fun | rfl => .none⟩

theorem times_succ_iff : Times R (n + 1) i k ↔ ∃ j, R i j ∧ Times R n j k :=
  ⟨fun | .more first rest => ⟨_, first, rest⟩, fun ⟨_, first, rest⟩ => .more first rest⟩

theorem Times.append (h : Times R m i j) (g : Times R n j k) : Times R (m + n) i k := by
  induction h with
  | none => rwa [Nat.zero_add]
  | more first _ ih =>
    rw [Nat.succ_add]
    exact .more first (ih g)

theorem Times.split (h : Times R (m + n) i k) : ∃ j, Times R m i j ∧ Times R n j k := by
  induction m generalizing i with
  | zero => exact ⟨i, .none, by rwa [Nat.zero_add] at h⟩
  | succ m ih =>
    rw [Nat.succ_add] at h
    obtain ⟨_, first, rest⟩ := times_succ_iff.1 h
    obtain ⟨j, before, after⟩ := ih rest
    exact ⟨j, .more first before, after⟩

/-- Steps that may stay in place are that many steps at most. -/
theorem times_staying_iff : Times (fun i k => i = k ∨ R i k) n i k ↔ ∃ m ≤ n, Times R m i k := by
  induction n generalizing i with
  | zero => simp [times_zero_iff]
  | succ n ih =>
    rw [times_succ_iff]
    constructor
    · rintro ⟨j, rfl | first, rest⟩
      · obtain ⟨m, le, steps⟩ := ih.1 rest
        exact ⟨m, Nat.le_succ_of_le le, steps⟩
      · obtain ⟨m, le, steps⟩ := ih.1 rest
        exact ⟨m + 1, Nat.succ_le_succ le, .more first steps⟩
    · rintro ⟨_ | m, le, steps⟩
      · exact ⟨i, .inl rfl, ih.2 ⟨0, n.zero_le, steps⟩⟩
      · obtain ⟨j, first, rest⟩ := times_succ_iff.1 steps
        exact ⟨j, .inr first, ih.2 ⟨m, Nat.le_of_succ_le_succ le, rest⟩⟩

end Times

namespace Marks

def Has (m : Marks) (i : Nat) : Prop := m[i]? = some true

/-- What a step marks are the places to which the relation leads from marked ones. -/
def Traces (size : Nat) (R : Nat → Nat → Prop) (step : Marks → Marks) : Prop :=
  ∀ m : Marks, m.length = size →
    (step m).length = size ∧ ∀ k, (step m).Has k ↔ ∃ i, m.Has i ∧ R i k

theorem has_both {m m' : Marks} (same : m.length = m'.length) {i : Nat} :
    (both m m').Has i ↔ m.Has i ∨ m'.Has i := by
  unfold Has both
  rw [List.getElem?_zipWith]
  by_cases inside : i < m.length
  · rw [List.getElem?_eq_getElem inside, List.getElem?_eq_getElem (same ▸ inside)]
    simp
  · rw [List.getElem?_eq_none (by omega), List.getElem?_eq_none (by omega)]
    simp

section Traces

variable {size : Nat} {R S : Nat → Nat → Prop} {step step' : Marks → Marks}

theorem Traces.congr (h : Traces size R step) (same : ∀ i k, R i k ↔ S i k) :
    Traces size S step := by
  intro m length
  obtain ⟨length', has⟩ := h m length
  exact ⟨length', fun k => (has k).trans (by simp only [same])⟩

theorem Traces.comp (h : Traces size R step) (g : Traces size S step') :
    Traces size (fun i k => ∃ j, R i j ∧ S j k) fun m => step' (step m) := by
  intro m length
  obtain ⟨length', has⟩ := h m length
  obtain ⟨length'', has'⟩ := g (step m) length'
  refine ⟨length'', fun k => ?_⟩
  simp only [has', has]
  grind

theorem Traces.or (h : Traces size R step) (g : Traces size S step') :
    Traces size (fun i k => R i k ∨ S i k) fun m => (step m).both (step' m) := by
  intro m length
  obtain ⟨length', has⟩ := h m length
  obtain ⟨length'', has'⟩ := g m length
  refine ⟨by simp [Marks.both, length', length''], fun k => ?_⟩
  rw [has_both (length'.trans length''.symm), has, has']
  grind

theorem traces_id : Traces size (· = ·) id := by
  intro m length
  exact ⟨length, fun k => by simp⟩

theorem Traces.times (h : Traces size R step) (n : Nat) :
    Traces size (Times R n) (iterate step n) := by
  induction n with
  | zero => exact traces_id.congr fun i k => times_zero_iff.symm
  | succ n ih =>
    intro m length
    simp only [iterate_succ, times_succ_iff]
    exact h.comp ih m length

end Traces

section Fixed

variable {size : Nat} {R : Nat → Nat → Prop} {step : Marks → Marks} {m : Marks}

theorem count_both_le (m m' : Marks) : (both m m').count false ≤ m.count false := by
  induction m generalizing m' with
  | nil => simp [both]
  | cons b m ih =>
    cases m' with
    | nil => simp [both]
    | cons b' m' =>
      have rest := ih m'
      unfold both at rest
      cases b <;> cases b' <;> simp [both] <;> omega

theorem both_eq_of_count {m m' : Marks} (same : m.length = m'.length)
    (count : m.count false ≤ (both m m').count false) : both m m' = m := by
  induction m generalizing m' with
  | nil => rfl
  | cons b m ih =>
    cases m' with
    | nil => simp at same
    | cons b' m' =>
      have rest := count_both_le m m'
      unfold both at *
      cases b <;> cases b' <;> simp at same count ⊢ <;> first | exact ih same count | omega

/-- Each step marks another place or is the last that changes anything. -/
theorem iterate_fixed (length : ∀ m : Marks, m.length = size → (step m).length = size)
    (inside : m.length = size) {n : Nat} (enough : m.count false ≤ n) :
    let next : Marks → Marks := fun m => both m (step m)
    next (iterate next n m) = iterate next n m := by
  intro next
  have unchanged {m : Marks} (inside : m.length = size)
      (count : m.count false ≤ (next m).count false) : next m = m :=
    both_eq_of_count (inside.trans (length m inside).symm) count
  induction n generalizing m with
  | zero =>
    rw [iterate_zero]
    exact unchanged inside (by omega)
  | succ n ih =>
    -- with nothing new marked the marks stay as they are, however many steps are left
    by_cases fewer : (next m).count false < m.count false
    · rw [iterate_succ]
      exact ih (by simp [next, both, inside, length m inside]) (by omega)
    · have fixed := unchanged inside (Nat.not_lt.1 fewer)
      rw [iterate_of_fixed fixed, fixed]

theorem Traces.closure (h : Traces size R step) (m : Marks) (inside : m.length = size) (k : Nat) :
    (iterate (fun m => both m (step m)) size m).Has k ↔ ∃ i, m.Has i ∧ ∃ n, Times R n i k := by
  have stays := traces_id.or h
  obtain ⟨length, has⟩ := stays.times size m inside
  have fixed := iterate_fixed (fun m length => (h m length).1) inside
    (show m.count false ≤ size from inside ▸ List.count_le_length)
  constructor
  · intro marked
    obtain ⟨i, marked, steps⟩ := (has k).1 marked
    obtain ⟨n, -, steps⟩ := times_staying_iff.1 steps
    exact ⟨i, marked, n, steps⟩
  · rintro ⟨i, marked, n, steps⟩
    have start : (iterate (fun m => both m (step m)) size m).Has i :=
      (has i).2 ⟨i, marked, times_staying_iff.2 ⟨0, Nat.zero_le _, .none⟩⟩
    clear marked
    -- the marks at the end are closed under the step, so they hold every place on the way
    induction steps with
    | none => exact start
    | @more i j n k first _ ih =>
      apply ih
      rw [← fixed]
      exact ((stays _ length).2 j).2 ⟨i, start, .inr first⟩

end Fixed

end Marks

theorem length_places (before : Option Char) (cs : List Char) :
    (places before cs).length = cs.length + 1 := by
  induction cs generalizing before with
  | nil => rfl
  | cons c cs ih => simp [places, ih]

namespace Pattern

open Marks

variable {text : List Char}

theorem has_zipWith {p : α → Bool} {m : Marks} {xs : List α} {k : Nat} :
    Has (List.zipWith (fun marked x => marked && p x) m xs) k ↔
      m.Has k ∧ ∃ x, xs[k]? = some x ∧ p x := by
  unfold Has
  rw [List.getElem?_zipWith]
  cases m[k]? <;> cases xs[k]? <;> simp

theorem traces_set (s : CharSet) : Traces (text.length + 1) ((Pattern.set s).Spans text)
    ((Pattern.set s).reach text) := by
  intro m length
  refine ⟨by simp [reach, length], fun k => ?_⟩
  cases k with
  | zero => simp [reach, Spans, Has]
  | succ k =>
    have later : ((Pattern.set s).reach text m).Has (k + 1) ↔
        Has (List.zipWith (fun marked c => marked && s.contains c) m text) k := .rfl
    simp [later, has_zipWith, Spans]

theorem traces_look (l : Look) : Traces (text.length + 1) ((Pattern.look l).Spans text)
    ((Pattern.look l).reach text) := by
  intro m length
  refine ⟨by simp [reach, length, length_places], fun k => ?_⟩
  simp [reach, has_zipWith, Spans]

theorem traces_repeated {p : Pattern} (h : Traces (text.length + 1) (p.Spans text) (p.reach text))
    (least : Nat) (most : Option Nat) :
    Traces (text.length + 1) ((Pattern.repeated p least most).Spans text)
      ((Pattern.repeated p least most).reach text) := by
  intro m inside
  obtain ⟨length, has⟩ := h.times least m inside
  have stays := traces_id.or h
  cases most with
  | none =>
    refine ⟨(stays.times _ _ length).1, fun k => ?_⟩
    refine (h.closure _ length k).trans ?_
    simp only [has, Spans]
    constructor
    · rintro ⟨j, ⟨i, marked, before⟩, n, after⟩
      exact ⟨i, marked, least + n, Nat.le_add_right .., by simp, before.append after⟩
    · rintro ⟨i, marked, n, le, -, steps⟩
      obtain ⟨n, rfl⟩ := Nat.exists_eq_add_of_le le
      obtain ⟨j, before, after⟩ := steps.split
      exact ⟨j, ⟨i, marked, before⟩, n, after⟩
  | some most =>
    obtain ⟨length', has'⟩ := stays.times (most - least) _ length
    refine ⟨length', fun k => (has' k).trans ?_⟩
    simp only [has, times_staying_iff, Spans, Option.mem_some_iff, forall_eq']
    constructor
    · rintro ⟨j, ⟨i, marked, before⟩, n, le, after⟩
      exact ⟨i, marked, least + n, Nat.le_add_right .., by omega, before.append after⟩
    · rintro ⟨i, marked, n, le, ge, steps⟩
      obtain ⟨n, rfl⟩ := Nat.exists_eq_add_of_le le
      obtain ⟨j, before, after⟩ := steps.split
      exact ⟨j, ⟨i, marked, before⟩, n, by omega, after⟩

/-- From marked places a pattern reaches those at which its matches from there end. -/
theorem traces_reach (p : Pattern) :
    Traces (text.length + 1) (p.Spans text) (p.reach text) := by
  induction p with
  | empty => exact traces_id
  | set s => exact traces_set s
  | look l => exact traces_look l
  | capture p ih => exact ih
  | seq p q ihp ihq => exact ihp.comp ihq
  | alt p q ihp ihq => exact ihp.or ihq
  | repeated p least most ih => exact traces_repeated ih least most

/-- A pattern occurs in a text exactly if one of its matches lies inside. -/
theorem occursIn_iff {p : Pattern} {s : String} :
    p.occursIn s ↔ ∃ i ≤ s.toList.length, ∃ j, p.Spans s.toList i j := by
  have all {i : Nat} : Has (List.replicate (s.toList.length + 1) true) i ↔ i ≤ s.toList.length := by
    rw [← Nat.lt_succ_iff]
    simp [Has, List.getElem?_replicate]
  have traces : Traces _ (p.Spans s.toList) (p.reach s.toList) := p.traces_reach
  obtain ⟨-, has⟩ := traces (.replicate _ true) List.length_replicate
  have some {m : Marks} : m.any id ↔ ∃ k, m.Has k := by
    simp [Has, List.mem_iff_getElem?]
  rw [occursIn, some]
  simp only [has, all]
  exact ⟨fun ⟨j, i, le, spans⟩ => ⟨i, le, j, spans⟩, fun ⟨i, le, j, spans⟩ => ⟨j, i, le, spans⟩⟩

end Pattern

theorem matchesPattern_iff {expression value : String} : matchesPattern expression value ↔
    ∃ p, Pattern.ofExpression? expression = some p ∧
      ∃ i ≤ value.toList.length, ∃ j, p.Spans value.toList i j := by
  unfold matchesPattern
  split
  · next p found => simp [found, Pattern.occursIn_iff]
  · next none => simp [none]

end FeatureFlags.Regex
