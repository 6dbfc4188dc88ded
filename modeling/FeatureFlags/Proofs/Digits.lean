import FeatureFlags.Calendar.Time
import FeatureFlags.Json.Read
import Mathlib.Algebra.Group.Nat.Defs

namespace FeatureFlags

open Json (Read.natOf)

namespace Decimal

@[simp]
theorem toList_text (n : Nat) : (text n).toList = Nat.toDigits 10 n := String.toList_ofList

@[simp]
theorem toList_zeros (n : Nat) : (zeros n).toList = List.replicate n '0' := String.toList_ofList

end Decimal

theorem toNat_of_isDigit {c : Char} (h : c.isDigit) : 48 ≤ c.toNat ∧ c.toNat ≤ 57 := by
  simp only [Char.isDigit, Bool.and_eq_true, decide_eq_true_eq, UInt32.le_iff_toNat_le] at h
  exact h

theorem isDigit_of_mem_toDigits {n : Nat} : ∀ c ∈ Nat.toDigits 10 n, c.isDigit :=
  fun _ => Nat.isDigit_of_mem_toDigits (by decide) (by decide)

theorem isDigit_of_mem_zeros {n : Nat} : ∀ c ∈ List.replicate n '0', c.isDigit := by
  intro c hc
  rw [(List.mem_replicate.1 hc).2]
  decide

theorem head?_toDigits_ne {n : Nat} (nonzero : n ≠ 0) : (Nat.toDigits 10 n).head? ≠ some '0' := by
  induction n using Nat.strongRecOn with
  | ind n ih =>
    rw [Nat.toDigits_eq_if (by decide)]
    split
    · simpa using nonzero
    · have rest := ih (n / 10) (by omega) (by omega)
      rw [List.head?_append]
      cases same : (Nat.toDigits 10 (n / 10)).head? with
      | none => exact absurd (List.head?_eq_none_iff.1 same) Nat.toDigits_ne_nil
      | some c => simpa [same] using rest

section Number

variable {cs ds : List Char}

theorem natOf_eq_ofDigitChars (cs : List Char) : Read.natOf cs = Nat.ofDigitChars 10 cs 0 := by
  simp only [Read.natOf, Nat.ofDigitChars, Nat.mul_comm]
  rfl

theorem natOf_append : Read.natOf (cs ++ ds) = 10 ^ ds.length * Read.natOf cs + Read.natOf ds := by
  simp only [natOf_eq_ofDigitChars]
  rw [Nat.ofDigitChars_append, Nat.ofDigitChars_eq_ofDigitChars_zero]

@[simp]
theorem natOf_toDigits (n : Nat) : Read.natOf (Nat.toDigits 10 n) = n := by
  rw [natOf_eq_ofDigitChars, Nat.ofDigitChars_ten_toDigits]

@[simp]
theorem natOf_zeros (n : Nat) : Read.natOf (List.replicate n '0') = 0 := by
  rw [natOf_eq_ofDigitChars, Nat.ofDigitChars_replicate_zero, Nat.mul_zero]

end Number

section Span

variable {p : Char → Bool} {ds rest : List Char}

def Stops (p : Char → Bool) (rest : List Char) : Prop := ∀ c ∈ rest.head?, ¬ p c

theorem stops_nil : Stops p [] := by
  intro c hc
  cases hc

theorem stops_cons {c : Char} (h : p c = false) : Stops p (c :: rest) := by
  intro d hd
  cases hd
  simp [h]

theorem takeWhile_append_of_stops (all : ∀ c ∈ ds, p c) (stops : Stops p rest) :
    (ds ++ rest).takeWhile p = ds := by
  rw [List.takeWhile_append_of_pos all]
  cases rest with
  | nil => simp
  | cons c rest => rw [List.takeWhile_cons_of_neg (stops c rfl), List.append_nil]

theorem dropWhile_append_of_stops (all : ∀ c ∈ ds, p c) (stops : Stops p rest) :
    (ds ++ rest).dropWhile p = rest := by
  rw [List.dropWhile_append_of_pos all]
  cases rest with
  | nil => rfl
  | cons c rest => rw [List.dropWhile_cons_of_neg (stops c rfl)]

end Span

namespace Date

variable {width n : Nat}

theorem toList_padded : (padded width n).toList =
    List.replicate (width - (Nat.toDigits 10 n).length) '0' ++ Nat.toDigits 10 n := by
  simp [padded, Decimal.text]

theorem isDigit_of_mem_padded : ∀ c ∈ (padded width n).toList, c.isDigit := by
  rw [toList_padded]
  intro c hc
  rcases List.mem_append.1 hc with hc | hc
  · exact isDigit_of_mem_zeros c hc
  · exact isDigit_of_mem_toDigits c hc

theorem length_padded (pos : 0 < width) (fits : n < 10 ^ width) :
    (padded width n).toList.length = width := by
  have := (Nat.length_toDigits_le_iff (by decide) pos).2 fits
  rw [toList_padded, List.length_append, List.length_replicate]
  omega

@[simp]
theorem natOf_padded : Read.natOf (padded width n).toList = n := by
  rw [toList_padded, natOf_append, natOf_zeros, natOf_toDigits, Nat.mul_zero, Nat.zero_add]

theorem padded_ne_nil : (padded width n).toList ≠ [] := by
  rw [toList_padded]
  exact List.append_ne_nil_of_right_ne_nil _ Nat.toDigits_ne_nil

end Date

end FeatureFlags
