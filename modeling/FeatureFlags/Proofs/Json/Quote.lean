import FeatureFlags.Json.Print
import FeatureFlags.Json.Read
import Mathlib.Tactic.SplitIfs

namespace FeatureFlags.Json

namespace Read

def piece (c : Char) : Piece :=
  if 0x20 ≤ c.toNat || c.toNat ∈ [8, 9, 10, 12, 13] then .char c else .unit c.toNat

theorem eq_ofNat {c : Char} {n : Nat} (h : c.toNat = n) : c = Char.ofNat n := by
  rw [← h, Char.ofNat_toNat]

theorem hexNumber?_control : ∀ n < 0x20,
    Text.hexNumber? ['0', '0', hexDigit (n / 16), hexDigit n] = some n := by decide

section Pieces

variable {c : Char} {cs rest : List Char} {ps : List Piece}

theorem pieces?_char (quote : c ≠ '"') (backslash : c ≠ '\\') (plain : 0x20 ≤ c.toNat)
    (h : pieces? cs = some (ps, rest)) : pieces? (c :: cs) = some (.char c :: ps, rest) := by
  simp [pieces?, backslash, h, Nat.not_lt.2 plain]

theorem pieces?_named {e : Char} (other : e ≠ 'u') (named : unescape? e = some c)
    (h : pieces? cs = some (ps, rest)) :
    pieces? ('\\' :: e :: cs) = some (.char c :: ps, rest) := by
  simp [pieces?, other, named, h]

theorem pieces?_unit {a b : Char} {n : Nat} (hex : Text.hexNumber? ['0', '0', a, b] = some n)
    (h : pieces? cs = some (ps, rest)) :
    pieces? ('\\' :: 'u' :: '0' :: '0' :: a :: b :: cs) = some (.unit n :: ps, rest) := by
  simp [pieces?, hex, h]

theorem pieces?_escape (h : pieces? cs = some (ps, rest)) :
    pieces? (escape c ++ cs) = some (piece c :: ps, rest) := by
  unfold escape
  split_ifs with quote backslash plain backspace tab newline feed carriage
  · rw [quote]
    exact pieces?_named (by decide) rfl h
  · rw [backslash]
    exact pieces?_named (by decide) rfl h
  · have same : piece c = .char c := by simp [piece, plain]
    rw [same]
    exact pieces?_char quote backslash plain h
  · rw [eq_ofNat backspace]
    exact pieces?_named (by decide) rfl h
  · rw [eq_ofNat tab]
    exact pieces?_named (by decide) rfl h
  · rw [eq_ofNat newline]
    exact pieces?_named (by decide) rfl h
  · rw [eq_ofNat feed]
    exact pieces?_named (by decide) rfl h
  · rw [eq_ofNat carriage]
    exact pieces?_named (by decide) rfl h
  · have same : piece c = .unit c.toNat := by simp [piece, *]
    rw [same]
    exact pieces?_unit (hexNumber?_control _ (Nat.not_le.1 plain)) h

theorem pieces?_flatMap_escape (cs : List Char) :
    pieces? (cs.flatMap escape ++ '"' :: rest) = some (cs.map piece, rest) := by
  induction cs with
  | nil => rfl
  | cons c cs ih =>
    rw [List.flatMap_cons, List.append_assoc]
    exact pieces?_escape ih

end Pieces

theorem join?_map_piece (cs : List Char) : join? (cs.map piece) = some cs := by
  induction cs with
  | nil => rfl
  | cons c cs ih =>
    rw [List.map_cons]
    generalize cs.map piece = ps at ih
    unfold piece
    split
    · simp [join?, ih]
    · next control =>
      have low : c.toNat < 0x20 := by simp at control; omega
      have high : isHighSurrogate c.toNat = false := by simp [isHighSurrogate]; omega
      have less : isLowSurrogate c.toNat = false := by simp [isLowSurrogate]; omega
      cases ps with
      | nil => simp_all [join?]
      | cons p ps => cases p <;> simp_all [join?]

theorem stringBody_quote (s : String) (rest : List Char) :
    stringBody (s.toList.flatMap escape ++ '"' :: rest) = some (some s, rest) := by
  simp [stringBody, pieces?_flatMap_escape, join?_map_piece]

end Read

end FeatureFlags.Json
