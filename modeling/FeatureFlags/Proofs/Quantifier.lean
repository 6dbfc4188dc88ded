import FeatureFlags.Condition.Basic
import Mathlib.Data.List.Basic

namespace FeatureFlags

namespace Quantifier

/-- What a quantifier says of a predicate. Nothing is said of no items. -/
def Holds (q : Quantifier) (p : α → Prop) (items : List α) : Prop :=
  items ≠ [] ∧
    match q with
    | .some => ∃ a ∈ items, p a
    | .every => ∀ a ∈ items, p a
    | .notAny => ¬ ∃ a ∈ items, p a
    | .notEvery => ¬ ∀ a ∈ items, p a

def opposite : Quantifier → Quantifier
  | .some => .notAny
  | .every => .notEvery
  | .notAny => .some
  | .notEvery => .every

/-- Items are tested in order up to the first decisive one, and these are enough for the answer. -/
structure Frugal (q : Quantifier) (test : α → Bool) (items : List α) : Prop where
  order : (∀ a ∈ items, test a ≠ q.decisive) ∧ q.tested test items = items ∨
    ∃ before a after, items = before ++ a :: after ∧ q.tested test items = before ++ [a] ∧
      (∀ b ∈ before, test b ≠ q.decisive) ∧ test a = q.decisive
  enough : q.apply test (q.tested test items) = q.apply test items

variable {q : Quantifier} {test : α → Bool} {items : List α}

theorem apply_iff : q.apply test items ↔ q.Holds (fun a => test a) items := by
  unfold Holds
  rw [apply, Bool.and_eq_true]
  apply and_congr
  · simp
  · cases q <;> simp [conclude, decisive]

@[simp] theorem apply_nil (q : Quantifier) (test : α → Bool) : q.apply test [] = false := rfl

theorem Holds.congr {p p' : α → Prop} (h : ∀ a, p a ↔ p' a) :
    q.Holds p items ↔ q.Holds p' items := by
  obtain rfl : p = p' := funext fun a => propext (h a)
  rfl

theorem apply_opposite (nonempty : items ≠ []) :
    q.opposite.apply test items = !q.apply test items := by
  have occupied : items.isEmpty = false := by simpa using nonempty
  cases q <;> simp [apply, occupied, opposite, conclude, decisive]

theorem apply_opposite_iff : q.opposite.apply test items = !q.apply test items ↔ items ≠ [] := by
  constructor
  · rintro negated rfl
    cases negated
  · exact apply_opposite

theorem apply_const_false (nonempty : items ≠ []) :
    q.apply (fun _ => false) items ↔ q = .notAny ∨ q = .notEvery := by
  obtain ⟨a, as, rfl⟩ := List.exists_cons_of_ne_nil nonempty
  cases q <;> simp [apply, conclude, decisive]

theorem tested_cons (q : Quantifier) (test : α → Bool) (a : α) (items : List α) :
    q.tested test (a :: items) = if test a = q.decisive then [a] else a :: q.tested test items := by
  unfold tested
  split
  · next decisive => simp [decisive]
  · next undecided => simp [undecided]

theorem frugal (q : Quantifier) (test : α → Bool) (items : List α) : q.Frugal test items := by
  have order : (∀ a ∈ items, test a ≠ q.decisive) ∧ q.tested test items = items ∨
      ∃ before a after, items = before ++ a :: after ∧ q.tested test items = before ++ [a] ∧
        (∀ b ∈ before, test b ≠ q.decisive) ∧ test a = q.decisive := by
    induction items with
    | nil => exact .inl ⟨by simp, rfl⟩
    | cons a items ih =>
      rw [tested_cons]
      split
      · next decisive => exact .inr ⟨[], a, items, rfl, rfl, by simp, decisive⟩
      · next undecided =>
        rcases ih with ⟨all, tested⟩ | ⟨before, b, after, rfl, tested, none, found⟩
        · exact .inl ⟨List.forall_mem_cons.2 ⟨undecided, all⟩, by rw [tested]⟩
        · exact .inr ⟨a :: before, b, after, rfl, by rw [tested]; rfl,
            List.forall_mem_cons.2 ⟨undecided, none⟩, found⟩
  refine ⟨order, ?_⟩
  rcases order with ⟨-, tested⟩ | ⟨before, a, after, rfl, tested, -, found⟩
  · rw [tested]
  · rw [tested]
    cases before <;> simp [apply, found]

end Quantifier

open ScalarOperator

variable [ScalarOperator ω α]

def ScalarTest.opposite (t : ScalarTest ω α) : ScalarTest ω α :=
  { t with operandsQuantifier := t.operandsQuantifier.opposite }

def ArrayTest.opposite (t : ArrayTest ω α) : ArrayTest ω α :=
  { t with arrayQuantifier := t.arrayQuantifier.opposite }

structure ScalarTest.Quantified (t : ScalarTest ω α) : Prop where
  alone : takesOperand t.operator = false → ∀ v, t.accepts v = test t.operator v none
  operands : takesOperand t.operator →
    ∀ v, t.accepts v ↔ t.operandsQuantifier.Holds (fun o => test t.operator v (some o)) t.operands
  opposed : ∀ v, t.opposite.accepts v = (!t.accepts v) ↔
    t.operands ≠ [] ∧ takesOperand t.operator

structure ArrayTest.Quantified (t : ArrayTest ω α) : Prop where
  hasElements : t.operator = .hasElements → ∀ vs, t.accepts vs ↔ vs ≠ []
  hasNoElements : t.operator = .hasNoElements → ∀ vs, t.accepts vs ↔ vs = []
  empty : ∀ op, t.operator = .element op → t.accepts [] = false
  alone : ∀ op, t.operator = .element op → takesOperand op = false →
    ∀ vs, t.accepts vs ↔ t.arrayQuantifier.Holds (fun v => test op v none) vs
  nested : ∀ op, t.operator = .element op → takesOperand op →
    ∀ vs, t.accepts vs ↔
      t.arrayQuantifier.Holds
        (fun v => t.operandsQuantifier.Holds (fun o => test op v (some o)) t.operands) vs
  noOperands : ∀ op, t.operator = .element op → takesOperand op → t.operands = [] →
    ∀ vs, vs ≠ [] →
      (t.accepts vs ↔ t.arrayQuantifier = .notAny ∨ t.arrayQuantifier = .notEvery)
  opposed : ∀ vs, t.opposite.accepts vs = (!t.accepts vs) ↔
    vs ≠ [] ∧ ∃ op, t.operator = .element op

section ScalarMatches

variable {op : ω} {os : List α} {q : Quantifier} {v : α}

theorem scalarMatches_of_alone (alone : takesOperand op = false) :
    scalarMatches op os q v = test op v none := by
  simp [scalarMatches, alone]

theorem scalarMatches_iff (takes : takesOperand op) :
    scalarMatches op os q v ↔ q.Holds (fun o => test op v (some o)) os := by
  rw [scalarMatches, if_pos takes, Quantifier.apply_iff]

end ScalarMatches

theorem ScalarTest.quantified (t : ScalarTest ω α) : t.Quantified := by
  constructor
  · intro alone v
    exact scalarMatches_of_alone alone
  · intro takes v
    exact scalarMatches_iff takes
  · intro v
    cases takes : takesOperand t.operator with
    | true =>
      simp only [accepts, opposite, scalarMatches, takes, if_true, and_true]
      exact Quantifier.apply_opposite_iff
    | false => simp [accepts, opposite, scalarMatches, takes]

section ArrayTest

variable {t : ArrayTest ω α} {op : ω}

theorem ArrayTest.accepts_element (element : t.operator = .element op) (vs : List α) :
    t.accepts vs = t.arrayQuantifier.apply (scalarMatches op t.operands t.operandsQuantifier) vs := by
  rw [accepts, element]

theorem ArrayTest.accepts_opposite_iff (t : ArrayTest ω α) (vs : List α) :
    t.opposite.accepts vs = (!t.accepts vs) ↔ vs ≠ [] ∧ ∃ op, t.operator = .element op := by
  cases kind : t.operator with
  | hasElements => simp [accepts, opposite, kind]
  | hasNoElements => simp [accepts, opposite, kind]
  | element op =>
    rw [and_iff_left ⟨op, rfl⟩, accepts_element kind, accepts_element (t := t.opposite) kind]
    exact Quantifier.apply_opposite_iff

theorem ArrayTest.quantified (t : ArrayTest ω α) : t.Quantified := by
  constructor
  · intro kind vs
    simp [accepts, kind]
  · intro kind vs
    simp [accepts, kind]
  · intro op kind
    rw [accepts_element kind, Quantifier.apply_nil]
  · intro op kind alone vs
    rw [accepts_element kind, Quantifier.apply_iff]
    exact Quantifier.Holds.congr fun v => by rw [scalarMatches_of_alone alone]
  · intro op kind takes vs
    rw [accepts_element kind, Quantifier.apply_iff]
    exact Quantifier.Holds.congr fun v => scalarMatches_iff takes
  · intro op kind takes none vs nonempty
    have nothing : scalarMatches op t.operands t.operandsQuantifier = fun _ => false := by
      funext v
      rw [none, scalarMatches, if_pos takes, Quantifier.apply_nil]
    rw [accepts_element kind, nothing]
    exact Quantifier.apply_const_false nonempty
  · exact t.accepts_opposite_iff

end ArrayTest

/-- What tests with quantifiers say, of operators on values of any type, and how little of their
items a quantifier tests for it. -/
theorem tests_quantified (ω : Type) [ScalarOperator ω α] :
    (∀ t : ArrayTest ω α, t.Quantified) ∧ (∀ t : ScalarTest ω α, t.Quantified) ∧
      ∀ (q : Quantifier) (test : α → Bool) (items : List α), q.Frugal test items :=
  ⟨ArrayTest.quantified, ScalarTest.quantified, Quantifier.frugal⟩

example : (⟨"tags", .element .startsWith, .notAny, [], .some⟩ :
    ArrayTest StringOperator String).accepts ["stable"] = true := rfl

end FeatureFlags
