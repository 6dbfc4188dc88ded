import FeatureFlags.Text.Blank
import Mathlib.Data.List.TakeWhile

namespace FeatureFlags.Text

variable {before cs after : List Char}

@[simp]
theorem trimStart_eq_nil_iff : trimStart cs = [] ↔ ∀ c ∈ cs, isBlank c :=
  List.dropWhile_eq_nil_iff

@[simp]
theorem trimEnd_eq_nil_iff : trimEnd cs = [] ↔ ∀ c ∈ cs, isBlank c := by
  simp [trimEnd]

theorem trimStart_append (blank : ∀ c ∈ before, isBlank c) :
    trimStart (before ++ cs) = trimStart cs :=
  List.dropWhile_append_of_pos blank

theorem trimEnd_append (blank : ∀ c ∈ after, isBlank c) : trimEnd (cs ++ after) = trimEnd cs := by
  have blank : ∀ c ∈ after.reverse, isBlank c := by simpa using blank
  rw [trimEnd, List.reverse_append, trimStart_append blank, trimEnd]

theorem trimStart_append_of_ne_nil (h : trimStart cs ≠ []) :
    trimStart (cs ++ after) = trimStart cs ++ after := by
  rw [trimStart, List.dropWhile_append, if_neg]
  · rfl
  · exact fun empty => h (List.isEmpty_iff.1 empty)

theorem trim_surround (s : String) (blankBefore : ∀ c ∈ before, isBlank c)
    (blankAfter : ∀ c ∈ after, isBlank c) :
    trim (String.ofList before ++ s ++ String.ofList after) = trim s := by
  simp only [trim, String.toList_append, String.toList_ofList, List.append_assoc]
  rw [trimStart_append blankBefore]
  by_cases blank : ∀ c ∈ s.toList, isBlank c
  · rw [trimStart_append blank, trimStart_eq_nil_iff.2 blankAfter, trimStart_eq_nil_iff.2 blank]
  · rw [trimStart_append_of_ne_nil (trimStart_eq_nil_iff.not.2 blank), trimEnd_append blankAfter]

theorem trim_eq_empty_iff {s : String} : trim s = "" ↔ ∀ c ∈ s.toList, isBlank c := by
  rw [trim, ← String.toList_inj, String.toList_ofList]
  change trimEnd _ = [] ↔ _
  rw [trimEnd_eq_nil_iff]
  constructor
  · intro blank
    -- what is left starts with a character that is not blank
    rw [← trimStart_eq_nil_iff]
    by_contra nonempty
    have first := List.head_dropWhile_not isBlank nonempty
    exact Bool.false_ne_true (first.symm.trans (blank _ (List.head_mem nonempty)))
  · intro blank c hc
    exact blank c ((List.dropWhile_suffix _).subset hc)

end FeatureFlags.Text
