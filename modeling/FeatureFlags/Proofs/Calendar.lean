import FeatureFlags.Calendar.Offset
import FeatureFlags.Proofs.Digits
import Mathlib.Data.List.Basic

namespace FeatureFlags

open Json (Read.natOf)
open Date (padded)

namespace Calendar

variable {ds rest : List Char} {mark : Char} {n width : Nat}

theorem isBlank_of_isDigit {c : Char} (h : c.isDigit) : Text.isBlank c = false := by
  have bounds := toNat_of_isDigit h
  simp [Text.isBlank]
  omega

theorem trimStart_cons {c : Char} (h : Text.isBlank c = false) :
    Text.trimStart (c :: rest) = c :: rest :=
  List.dropWhile_cons_of_neg (by simp [h])

theorem trimStart_digits (nonempty : ds ≠ []) (digits : ∀ c ∈ ds, c.isDigit) :
    Text.trimStart (ds ++ rest) = ds ++ rest := by
  cases ds with
  | nil => cases nonempty rfl
  | cons d ds => exact trimStart_cons (isBlank_of_isDigit (digits d (.head _)))

theorem readMark_cons (h : Text.isBlank mark = false) :
    readMark mark (mark :: rest) = some rest := by
  rw [readMark, trimStart_cons h]
  exact if_pos rfl

theorem readNumber_padded (pos : 0 < width) (fits : n < 10 ^ width) :
    readNumber width ((padded width n).toList ++ rest) = some (n, rest) := by
  have digits : ∀ c ∈ (padded width n).toList, c.isDigit := Date.isDigit_of_mem_padded
  have length := Date.length_padded pos fits
  have taken : (((padded width n).toList ++ rest).take width).takeWhile Char.isDigit =
      (padded width n).toList := by
    rw [List.take_left' length]
    simpa using takeWhile_append_of_stops digits stops_nil
  have read : number (padded width n).toList = n := Date.natOf_padded
  rw [readNumber, trimStart_digits Date.padded_ne_nil digits]
  simp only [taken]
  split
  · next empty => cases Date.padded_ne_nil empty
  · rw [read, List.drop_left' rfl]

theorem isDigit_of_append_eq_cons {c : Char} {cs : List Char} (nonempty : ds ≠ [])
    (digits : ∀ c ∈ ds, c.isDigit) (h : ds ++ rest = c :: cs) : c.isDigit := by
  cases ds with
  | nil => cases nonempty rfl
  | cons d ds =>
    cases h
    exact digits _ (.head _)

theorem readYear_padded (fits : n < 10 ^ 4) :
    readYear ((padded 4 n).toList ++ rest) = some ((n : Int), rest) := by
  have digits : ∀ c ∈ (padded 4 n).toList, c.isDigit := Date.isDigit_of_mem_padded
  rw [readYear, trimStart_digits Date.padded_ne_nil digits]
  dsimp only
  split
  · next sign => cases isDigit_of_append_eq_cons Date.padded_ne_nil digits sign
  · next sign => cases isDigit_of_append_eq_cons Date.padded_ne_nil digits sign
  · rw [readNumber_padded (by decide) fits]
    rfl

theorem readYear_signed (stops : Stops Char.isDigit rest) (negative : Bool) :
    readYear ((if negative then '-' else '+') :: ((padded 4 n).toList ++ rest)) =
      some (if negative then -(n : Int) else n, rest) := by
  have digits : ∀ c ∈ (padded 4 n).toList, c.isDigit := Date.isDigit_of_mem_padded
  have taken := takeWhile_append_of_stops digits stops
  have left := dropWhile_append_of_stops digits stops
  have read : number (padded 4 n).toList = n := Date.natOf_padded
  obtain ⟨d, ds, same⟩ :=
    List.exists_cons_of_ne_nil (show (padded 4 n).toList ≠ [] from Date.padded_ne_nil)
  rw [same] at taken left read ⊢
  cases negative with
  | false =>
    rw [if_neg Bool.false_ne_true, readYear, trimStart_cons rfl]
    simp only [taken, left, read]
  | true =>
    rw [if_pos rfl, readYear, trimStart_cons rfl]
    simp only [taken, left, read]

end Calendar

namespace Date

open Calendar

theorem readYear_yearText {rest : List Char} (stops : Stops Char.isDigit rest) (year : Int) :
    readYear ((yearText year).toList ++ rest) = some (year, rest) := by
  unfold yearText
  split
  · next short =>
    rw [Bool.and_eq_true, decide_eq_true_eq, decide_eq_true_eq] at short
    rw [readYear_padded (by omega)]
    simp [Int.toNat_of_nonneg short.1]
  · have sign : (if year < 0 then "-" else "+").toList = [if year < 0 then '-' else '+'] := by
      split <;> rfl
    have signed := readYear_signed (n := year.natAbs) stops (decide (year < 0))
    simp only [decide_eq_true_eq] at signed
    rw [String.toList_append, sign, List.append_assoc, List.singleton_append, signed]
    congr 2
    split <;> omega

theorem monthLength_le (year : Int) (month : Nat) : monthLength year month ≤ 31 := by
  unfold monthLength
  repeat' split
  all_goals decide

theorem parse?_text (d : Date) : Date.parse? d.text = some d := by
  obtain ⟨year, month, day, exist⟩ := d
  have parts := exist
  have dash (rest : List Char) : readMark '-' ('-' :: rest) = some rest := readMark_cons rfl
  have month_lt : month < 10 ^ 2 := by unfold Exists at parts; omega
  have day_lt : day < 10 ^ 2 := by
    have := monthLength_le year month
    unfold Exists at parts
    omega
  have chars : (text ⟨year, month, day, exist⟩).toList =
      (yearText year).toList ++
        '-' :: ((padded 2 month).toList ++ '-' :: (padded 2 day).toList) := by
    simp [text]
  have year_read (rest : List Char) :
      readYear ((yearText year).toList ++ '-' :: rest) = some (year, '-' :: rest) :=
    readYear_yearText (stops_cons rfl) year
  have day_read : readNumber 2 ((padded 2 day).toList ++ []) = _ :=
    readNumber_padded (by decide) day_lt
  rw [List.append_nil] at day_read
  simp only [parse?, chars, year_read, Option.bind_eq_bind, Option.bind_some, dash,
    readNumber_padded (by decide) month_lt, day_read]
  simp [Text.trimStart, ofParts?, exist]

end Date

namespace Time

open Calendar

theorem readFraction_padded {width n : Nat} (pos : 0 < width) (le : width ≤ 9)
    (fits : n < 10 ^ width) :
    readFraction (padded width n).toList = some (n * 10 ^ (9 - width), []) := by
  have length := Date.length_padded pos fits
  have taken : ((padded width n).toList.take 9).takeWhile Char.isDigit =
      (padded width n).toList := by
    rw [List.take_of_length_le (by omega)]
    simpa using takeWhile_append_of_stops Date.isDigit_of_mem_padded stops_nil
  have read : number (padded width n).toList = n := Date.natOf_padded
  rw [readFraction, taken]
  split
  · next empty => cases Date.padded_ne_nil empty
  · rw [read, length, List.drop_of_length_le (by omega)]
    rfl

theorem fractionText_cases {nano : Nat} (nano_lt : nano < 10 ^ 9) :
    nano = 0 ∧ (fractionText nano).toList = [] ∨
    ∃ width n, 0 < width ∧ width ≤ 9 ∧ n < 10 ^ width ∧ n * 10 ^ (9 - width) = nano ∧
      (fractionText nano).toList = '.' :: (padded width n).toList := by
  unfold fractionText
  split
  · next zero => exact .inl ⟨zero, rfl⟩
  · refine .inr ?_
    split
    · exact ⟨3, nano / 1000000, by decide, by decide, by omega, by omega, by simp⟩
    · split
      · exact ⟨6, nano / 1000, by decide, by decide, by omega, by omega, by simp⟩
      · exact ⟨9, nano, by decide, by decide, nano_lt, by omega, by simp⟩

theorem readSeconds_fractionText {second nano : Nat} (second_lt : second < 10 ^ 2)
    (nano_lt : nano < 10 ^ 9) :
    readSeconds (':' :: ((padded 2 second).toList ++ (fractionText nano).toList)) =
      some ((second, nano), []) := by
  have colon (rest : List Char) : readMark ':' (':' :: rest) = some rest := readMark_cons rfl
  simp only [readSeconds, colon, Option.bind_eq_bind, Option.bind_some,
    readNumber_padded (by decide) second_lt]
  rcases fractionText_cases nano_lt with ⟨rfl, text⟩ | ⟨width, n, pos, le, fits, rfl, text⟩
  · simp [text]
  · simp [text, readFraction_padded pos le fits]

theorem ofParts?_of_shown (second nano : Nat) (second_lt : second < 86400)
    (nano_lt : nano < 1000000000 ∨ second % 60 = 59 ∧ nano < 2000000000) :
    ofParts? (second / 3600) (second / 60 % 60) (second % 60 + if 1000000000 ≤ nano then 1 else 0)
      (nano % 1000000000) = some ⟨second, nano, second_lt, nano_lt⟩ := by
  have total : second / 3600 * 3600 + second / 60 % 60 * 60 + second % 60 = second := by omega
  have hour : second / 3600 ≤ 23 := by omega
  by_cases leap : 1000000000 ≤ nano
  · have last : second % 60 = 59 := by omega
    have rest : nano % 1000000000 + 1000000000 = nano := by omega
    rw [last] at total
    simp only [ofParts?, leap, last, if_true, rest, total]
    simp
    omega
  · have rest : nano % 1000000000 = nano := by omega
    have shown : second % 60 ≠ 60 := by omega
    simp only [ofParts?, leap, if_false, Nat.add_zero, rest, shown, total]
    simp
    omega

theorem parse?_text (t : Time) : Time.parse? t.text = some t := by
  obtain ⟨second, nano, second_lt, nano_lt⟩ := t
  have colon (rest : List Char) : readMark ':' (':' :: rest) = some rest := readMark_cons rfl
  have chars : (text ⟨second, nano, second_lt, nano_lt⟩).toList =
      (padded 2 (second / 3600)).toList ++ ':' :: ((padded 2 (second / 60 % 60)).toList ++
        ':' :: ((padded 2 (second % 60 + if 1000000000 ≤ nano then 1 else 0)).toList ++
          (fractionText (nano % 1000000000)).toList)) := by
    simp [text]
  have shown_lt : second % 60 + (if 1000000000 ≤ nano then 1 else 0) < 10 ^ 2 := by
    split <;> omega
  simp only [parse?, chars, Option.bind_eq_bind, Option.bind_some, colon,
    readNumber_padded (by decide) (show second / 3600 < 10 ^ 2 by omega),
    readNumber_padded (by decide) (show second / 60 % 60 < 10 ^ 2 by omega),
    readSeconds_fractionText shown_lt (show nano % 1000000000 < 10 ^ 9 by omega), Option.getD_some]
  rw [if_pos, ofParts?_of_shown]
  split <;> simp [Text.trimStart] <;> omega

end Time

namespace Offset

open Calendar

def IsWholeMinutes : Offset → Prop
  | .fixed seconds _ => 60 ∣ seconds
  | .local => True

instance : (o : Offset) → Decidable o.IsWholeMinutes
  | .fixed seconds _ => inferInstanceAs (Decidable (60 ∣ seconds))
  | .local => isTrue trivial

theorem isDecimalDigit_of_isDigit {c : Char} (h : c.isDigit) : Text.isDecimalDigit c := by
  have bounds := toNat_of_isDigit h
  simp only [Text.isDecimalDigit, Text.digitZeros, List.any_cons, Bool.or_eq_true, Bool.and_eq_true,
    decide_eq_true_eq]
  omega

theorem padded_two {n : Nat} (fits : n < 10 ^ 2) :
    ∃ a b, (padded 2 n).toList = [a, b] ∧ a.isDigit ∧ b.isDigit ∧ number [a, b] = n := by
  obtain ⟨a, b, pair⟩ := List.length_eq_two.1 (Date.length_padded (by decide) fits)
  have digits : ∀ c ∈ (padded 2 n).toList, c.isDigit := Date.isDigit_of_mem_padded
  have read : number (padded 2 n).toList = n := Date.natOf_padded
  rw [pair] at digits read
  exact ⟨a, b, pair, digits a (.head _), digits b (.tail _ (.head _)), read⟩

theorem twoDigits?_eq {a b : Char} (ha : a.isDigit) (hb : b.isDigit) :
    twoDigits? a b = some (number [a, b]) := by
  simp [twoDigits?, ha, hb]

theorem parse_text {o : Offset} (whole : o.IsWholeMinutes) : parse o.text = .ok o := by
  cases o with
  | «local» => rfl
  | fixed seconds lt_day =>
    obtain ⟨a, b, hourText, ha, hb, hour⟩ :=
      padded_two (show seconds.natAbs / 60 / 60 < 10 ^ 2 by omega)
    obtain ⟨c, d, minuteText, hc, hd, minute⟩ :=
      padded_two (show seconds.natAbs / 60 % 60 < 10 ^ 2 by omega)
    have sign : (if seconds < 0 then "-" else "+").toList = [if seconds < 0 then '-' else '+'] := by
      split <;> rfl
    have chars : (text (.fixed seconds lt_day)).toList =
        [if seconds < 0 then '-' else '+', a, b, ':', c, d] := by
      simp only [text, String.toList_append, sign, hourText, minuteText]
      rfl
    have notLocal : text (.fixed seconds lt_day) ≠ "local" := by
      intro same
      rw [same] at chars
      cases congrArg List.length chars
    have minutes : 60 ∣ seconds := whole
    have value : (((seconds.natAbs / 60 / 60 : Nat) : Int) * 60 +
        (seconds.natAbs / 60 % 60 : Nat)) * 60 = if seconds < 0 then -seconds else seconds := by
      omega
    rw [parse, if_neg notLocal, chars]
    simp only [List.all_cons, List.all_nil, isDecimalDigit_of_isDigit ha,
      isDecimalDigit_of_isDigit hb, isDecimalDigit_of_isDigit hc, isDecimalDigit_of_isDigit hd,
      twoDigits?_eq ha hb, twoDigits?_eq hc hd, hour, minute, value]
    by_cases negative : seconds < 0
    · simp [negative, lt_day]
    · simp [negative, lt_day]

end Offset

end FeatureFlags
