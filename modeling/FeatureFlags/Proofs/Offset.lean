import FeatureFlags.Proofs.Calendar

namespace FeatureFlags

namespace Offset

def spelling (negative : Bool) (hours minutes : Nat) : String :=
  String.ofList [if negative then '-' else '+', Nat.digitChar (hours / 10),
    Nat.digitChar (hours % 10), ':', Nat.digitChar (minutes / 10), Nat.digitChar (minutes % 10)]

def span (negative : Bool) (hours minutes : Nat) : Int :=
  if negative then -((hours * 60 + minutes) * 60) else (hours * 60 + minutes) * 60

variable {negative : Bool} {hours minutes : Nat} {s : String} {o : Offset}

theorem natAbs_span (negative : Bool) (hours minutes : Nat) :
    (span negative hours minutes).natAbs = (hours * 60 + minutes) * 60 := by
  unfold span
  split <;> omega

theorem span_lt_day (inDay : hours * 60 + minutes < 1440) :
    (span negative hours minutes).natAbs < 86400 := by
  rw [natAbs_span]
  omega

/-- The offsets that texts denote. Hours have to be those of a day, minutes not those of an hour. -/
inductive Denotes : String → Offset → Prop
  | «local» : Denotes "local" .local
  | fixed (negative : Bool) {hours minutes : Nat} : hours < 100 → minutes < 100 →
    (inDay : hours * 60 + minutes < 1440) →
    Denotes (spelling negative hours minutes) (.fixed (span negative hours minutes) (span_lt_day inDay))

inductive Canonical : String → Prop
  | «local» : Canonical "local"
  | fixed (negative : Bool) {hours minutes : Nat} : hours < 24 → minutes < 60 →
    (negative → 0 < hours * 60 + minutes) → Canonical (spelling negative hours minutes)

section Digits

variable {a b c d : Char} {n : Nat}

theorem digitChar_toNat_sub (h : c.isDigit) : Nat.digitChar (c.toNat - 48) = c := by
  have bounds := toNat_of_isDigit h
  apply Char.toNat_inj.1
  rw [Nat.toNat_digitChar_of_lt_ten (by omega)]
  omega

theorem number_pair (a b : Char) :
    Calendar.number [a, b] = (a.toNat - 48) * 10 + (b.toNat - 48) := by
  simp [Calendar.number]

theorem twoDigits?_eq_some_iff : twoDigits? a b = some n ↔
    n < 100 ∧ a = Nat.digitChar (n / 10) ∧ b = Nat.digitChar (n % 10) := by
  constructor
  · intro read
    simp only [twoDigits?, Bool.and_eq_true, Option.ite_none_right_eq_some, Option.some.injEq,
      number_pair] at read
    obtain ⟨⟨ha, hb⟩, rfl⟩ := read
    have boundsA := toNat_of_isDigit ha
    have boundsB := toNat_of_isDigit hb
    refine ⟨by omega, ?_, ?_⟩
    · rw [show ((a.toNat - 48) * 10 + (b.toNat - 48)) / 10 = a.toNat - 48 by omega,
        digitChar_toNat_sub ha]
    · rw [show ((a.toNat - 48) * 10 + (b.toNat - 48)) % 10 = b.toNat - 48 by omega,
        digitChar_toNat_sub hb]
  · rintro ⟨fits, rfl, rfl⟩
    have tens : n / 10 < 10 := by omega
    have ones : n % 10 < 10 := by omega
    rw [twoDigits?_eq (by simpa [Nat.isDigit_digitChar]) (by simpa [Nat.isDigit_digitChar]),
      number_pair, Nat.toNat_digitChar_of_lt_ten tens, Nat.toNat_digitChar_of_lt_ten ones]
    congr 1
    omega

theorem twoDigits?_eq_none_iff : twoDigits? a b = none ↔ (a.isDigit && b.isDigit) = false := by
  simp [twoDigits?]

theorem toList_padded_two (fits : n < 100) :
    (Date.padded 2 n).toList = [Nat.digitChar (n / 10), Nat.digitChar (n % 10)] := by
  obtain ⟨a, b, pair, ha, hb, value⟩ := padded_two (n := n) fits
  obtain ⟨-, rfl, rfl⟩ := twoDigits?_eq_some_iff.1 (value ▸ twoDigits?_eq ha hb)
  exact pair

theorem isDecimalDigit_digitChar (h : n < 10) : Text.isDecimalDigit (Nat.digitChar n) :=
  isDecimalDigit_of_isDigit (by simpa [Nat.isDigit_digitChar])

end Digits

theorem toList_spelling (negative : Bool) (hours minutes : Nat) :
    (spelling negative hours minutes).toList = [if negative then '-' else '+',
      Nat.digitChar (hours / 10), Nat.digitChar (hours % 10), ':', Nat.digitChar (minutes / 10),
      Nat.digitChar (minutes % 10)] :=
  String.toList_ofList

structure Shape (s : String) (sign a b c d : Char) : Prop where
  chars : s.toList = [sign, a, b, ':', c, d]
  sign : sign = '+' ∨ sign = '-'
  digits : [a, b, c, d].all Text.isDecimalDigit

section Shape

variable {sign a b c d : Char}

theorem Shape.ne_local (h : Shape s sign a b c d) : s ≠ "local" := by
  rintro rfl
  cases congrArg List.length h.chars

theorem Shape.parse_eq (h : Shape s sign a b c d) : parse s =
    (twoDigits? a b).elim (.error (.hours s)) fun hours =>
      (twoDigits? c d).elim (.error (.minutes s)) fun minutes =>
        if inDay : (span (sign = '-') hours minutes).natAbs < 86400 then
          .ok (.fixed (span (sign = '-') hours minutes) inDay)
        else .error (.range s) := by
  have signed : (sign = '+' || sign = '-') = true := by simpa using h.sign
  rw [parse, if_neg h.ne_local, h.chars]
  simp only [signed, h.digits, Bool.and_self, if_true]
  cases twoDigits? a b with
  | none => rfl
  | some hours =>
    cases twoDigits? c d with
    | none => rfl
    | some minutes => simp only [span, decide_eq_true_eq, Option.elim]

theorem exists_shape (notLocal : s ≠ "local") (formed : parse s ≠ .error (.form s)) :
    ∃ sign a b c d, Shape s sign a b c d := by
  rw [parse, if_neg notLocal] at formed
  split at formed
  · next sign a b c d chars =>
    split at formed
    · next both =>
      obtain ⟨signed, digits⟩ := Bool.and_eq_true_iff.1 both
      exact ⟨sign, a, b, c, d, chars, by simpa using signed, digits⟩
    · exact absurd rfl formed
  · exact absurd rfl formed

theorem shape_spelling (negative : Bool) (hours_lt : hours < 100) (minutes_lt : minutes < 100) :
    Shape (spelling negative hours minutes) (if negative then '-' else '+')
      (Nat.digitChar (hours / 10)) (Nat.digitChar (hours % 10)) (Nat.digitChar (minutes / 10))
      (Nat.digitChar (minutes % 10)) where
  chars := toList_spelling ..
  sign := by cases negative <;> simp
  digits := by
    simp only [List.all_cons, List.all_nil, Bool.and_true, Bool.and_eq_true]
    refine ⟨?_, ?_, ?_, ?_⟩ <;> exact isDecimalDigit_digitChar (by omega)

end Shape

theorem denotes_of_parse (h : parse s = .ok o) : Denotes s o := by
  by_cases isLocal : s = "local"
  · rw [parse, if_pos isLocal] at h
    cases h
    exact isLocal ▸ .local
  · obtain ⟨sign, a, b, c, d, shape⟩ := exists_shape isLocal (by simp [h])
    rw [shape.parse_eq] at h
    cases hoursRead : twoDigits? a b with
    | none =>
      rw [hoursRead] at h
      cases h
    | some hours =>
      cases minutesRead : twoDigits? c d with
      | none =>
        rw [hoursRead, minutesRead] at h
        cases h
      | some minutes =>
        rw [hoursRead, minutesRead, Option.elim_some, Option.elim_some] at h
        obtain ⟨hours_lt, rfl, rfl⟩ := twoDigits?_eq_some_iff.1 hoursRead
        obtain ⟨minutes_lt, rfl, rfl⟩ := twoDigits?_eq_some_iff.1 minutesRead
        split at h
        · next lt_day =>
          cases h
          have inDay : hours * 60 + minutes < 1440 := by
            rw [natAbs_span] at lt_day
            omega
          have text : s = spelling (sign = '-') hours minutes := by
            rw [← String.toList_inj, toList_spelling, shape.chars]
            rcases shape.sign with rfl | rfl <;> rfl
          rw [text]
          exact .fixed _ hours_lt minutes_lt inDay
        · cases h

theorem parse_of_denotes (h : Denotes s o) : parse s = .ok o := by
  cases h with
  | «local» => rfl
  | @fixed negative hours minutes hours_lt minutes_lt inDay =>
    have hoursRead := twoDigits?_eq_some_iff.2 ⟨hours_lt, rfl, rfl⟩
    have minutesRead := twoDigits?_eq_some_iff.2 ⟨minutes_lt, rfl, rfl⟩
    have sign : decide ((if negative then '-' else '+') = '-') = negative := by
      cases negative <;> rfl
    rw [(shape_spelling negative hours_lt minutes_lt).parse_eq]
    simp only [hoursRead, minutesRead, Option.elim_some, sign, span_lt_day inDay, dif_pos]

theorem parse_eq_ok_iff : parse s = .ok o ↔ Denotes s o := ⟨denotes_of_parse, parse_of_denotes⟩

theorem Denotes.isWholeMinutes (h : Denotes s o) : o.IsWholeMinutes := by
  cases h with
  | «local» => exact trivial
  | @fixed negative hours minutes =>
    change (60 : Int) ∣ span negative hours minutes
    unfold span
    split <;> omega

theorem text_fixed (seconds : Int) (lt_day : seconds.natAbs < 86400) :
    text (.fixed seconds lt_day) =
      spelling (seconds < 0) (seconds.natAbs / 60 / 60) (seconds.natAbs / 60 % 60) := by
  have hours := toList_padded_two (show seconds.natAbs / 60 / 60 < 100 by omega)
  have minutes := toList_padded_two (show seconds.natAbs / 60 % 60 < 100 by omega)
  rw [← String.toList_inj, toList_spelling, text]
  simp only [String.toList_append, hours, minutes, decide_eq_true_eq]
  split <;> rfl

theorem canonical_text (o : Offset) (whole : o.IsWholeMinutes) : Canonical o.text := by
  cases o with
  | «local» => exact .local
  | fixed seconds lt_day =>
    have whole : (60 : Int) ∣ seconds := whole
    rw [text_fixed]
    refine .fixed _ (by omega) (by omega) fun negative => ?_
    have : seconds < 0 := by simpa using negative
    omega

theorem Canonical.denotes (h : Canonical s) : ∃ o, Denotes s o ∧ o.text = s := by
  cases h with
  | «local» => exact ⟨_, .local, rfl⟩
  | @fixed negative hours minutes hours_lt minutes_lt nonzero =>
    refine ⟨_, .fixed negative (by omega) (by omega) (by omega), ?_⟩
    have sign : decide (span negative hours minutes < 0) = negative := by
      unfold span
      cases negative <;> simp at nonzero ⊢ <;> omega
    rw [text_fixed, natAbs_span, sign]
    congr 1 <;> omega

theorem canonical_iff : Canonical s ↔ (parse s).map text = .ok s := by
  constructor
  · intro h
    obtain ⟨o, denotes, same⟩ := h.denotes
    rw [parse_of_denotes denotes, Except.map, same]
  · intro h
    cases read : parse s with
    | error e =>
      rw [read] at h
      cases h
    | ok o =>
      rw [read] at h
      have same : o.text = s := Except.ok.inj h
      exact same ▸ canonical_text o (denotes_of_parse read).isWholeMinutes

structure Readable (s : String) : Prop where
  accepted : ∀ o, parse s = .ok o ↔ Denotes s o
  /-- Digits of other scripts have the form of an offset but no value. -/
  otherScripts : ∀ sign a b c d, Shape s sign a b c d → ¬ [a, b, c, d].all Char.isDigit →
    parse s = .error (if a.isDigit && b.isDigit then .minutes s else .hours s)
  /-- Before its range is checked, the span that is read is within 32 bits. -/
  bounded : ∀ sign a b c d hours minutes, Shape s sign a b c d → twoDigits? a b = some hours →
    twoDigits? c d = some minutes → (hours * 60 + minutes) * 60 < 2 ^ 31
  canonical : ∀ o, parse s = .ok o → Canonical o.text ∧ parse o.text = .ok o
  fixedPoint : Canonical s ↔ (parse s).map text = .ok s

theorem Shape.parse_of_otherScripts {sign a b c d : Char} (h : Shape s sign a b c d)
    (other : ¬ [a, b, c, d].all Char.isDigit) :
    parse s = .error (if a.isDigit && b.isDigit then .minutes s else .hours s) := by
  rw [h.parse_eq]
  cases hours : a.isDigit && b.isDigit with
  | false =>
    rw [twoDigits?_eq_none_iff.2 hours]
    rfl
  | true =>
    obtain ⟨ha, hb⟩ := Bool.and_eq_true_iff.1 hours
    have minutes : (c.isDigit && d.isDigit) = false := by simpa [ha, hb] using other
    rw [twoDigits?_eq ha hb, twoDigits?_eq_none_iff.2 minutes]
    rfl

theorem readable_and_writable :
    (∀ s, Readable s) ∧ ∀ o, IsWholeMinutes o → Canonical o.text ∧ parse o.text = .ok o := by
  refine ⟨fun s => ?_, fun o whole => ⟨canonical_text o whole, parse_text whole⟩⟩
  constructor
  · exact fun o => parse_eq_ok_iff
  · exact fun sign a b c d shape other => shape.parse_of_otherScripts other
  · intro sign a b c d hours minutes _ hoursRead minutesRead
    have := (twoDigits?_eq_some_iff.1 hoursRead).1
    have := (twoDigits?_eq_some_iff.1 minutesRead).1
    omega
  · intro o read
    have whole := (denotes_of_parse read).isWholeMinutes
    exact ⟨canonical_text o whole, parse_text whole⟩
  · exact canonical_iff

theorem writable_half_hour : let o : Offset := .fixed (-12600) (by decide)
    o.IsWholeMinutes ∧ Canonical o.text ∧ parse o.text = .ok o ∧ o.text = "-03:30" := by
  have whole : IsWholeMinutes (.fixed (-12600) (by decide)) := ⟨-210, rfl⟩
  obtain ⟨canonical, read⟩ := readable_and_writable.2 _ whole
  exact ⟨whole, canonical, read, by decide +kernel⟩

example : (parse "-00:75").map text = .ok "-01:15" ∧ (parse "-00:00").map text = .ok "+00:00" := by
  decide +kernel

end Offset

end FeatureFlags
