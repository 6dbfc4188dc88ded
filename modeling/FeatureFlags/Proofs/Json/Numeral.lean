import FeatureFlags.Proofs.Json.Restore
import FeatureFlags.Proofs.Digits
import FeatureFlags.Proofs.Shortest
import FeatureFlags.Proofs.Value

/-!
Numbers that are read back as they were written: all whole numbers of 64 bits, and every double whose
shortest decimal is short. Of a longer one the digits or the power of ten are rounded on their own, and
what is read may be a neighbour.
-/

namespace FeatureFlags.Json

namespace Read

def isNumeral (c : Char) : Bool := c.isDigit || c = '.' || c = 'e' || c = 'E'

variable {negative : Bool} {cs ds fs rest : List Char}

theorem stops_isDigit (h : Stops isNumeral rest) : Stops Char.isDigit rest := by
  intro c hc digit
  exact h c hc (by simp [isNumeral, digit])

section Parts

theorem le_foldl_digits (n : Nat) (ds : List Char) :
    n ≤ ds.foldl (fun n c => n * 10 + (c.toNat - 48)) n := by
  induction ds generalizing n with
  | nil => exact Nat.le_refl n
  | cons c ds ih => exact Nat.le_trans (by omega) (ih (n * 10 + (c.toNat - 48)))

theorem absorb_eq {n : Nat}
    (fits : ds.foldl (fun n c => n * 10 + (c.toNat - 48)) n < UInt64.size) :
    absorb n ds = (ds.foldl (fun n c => n * 10 + (c.toNat - 48)) n, []) := by
  induction ds generalizing n with
  | nil => rfl
  | cons c ds ih =>
    have held : n * 10 + (c.toNat - 48) < UInt64.size :=
      Nat.lt_of_le_of_lt (le_foldl_digits ..) fits
    simp only [absorb, if_pos held]
    exact ih fits

theorem decimal_eq (fits : natOf (ds ++ fs) < UInt64.size) (e : Int) :
    decimal ds fs e = ⟨natOf (ds ++ fs), e - fs.length⟩ := by
  unfold natOf at *
  rw [List.foldl_append] at *
  simp only [decimal, absorb_eq (Nat.lt_of_le_of_lt (le_foldl_digits ..) fits), absorb_eq fits]
  simp

theorem digits?_append (all : ∀ c ∈ ds, c.isDigit) (nonempty : ds ≠ [])
    (stops : Stops Char.isDigit rest) :
    digits? (ds ++ rest) = some (ds, rest) := by
  unfold digits?
  rw [takeWhile_append_of_stops all stops, dropWhile_append_of_stops all stops]
  cases ds with
  | nil => exact absurd rfl nonempty
  | cons => rfl

theorem whole?_append (all : ∀ c ∈ ds, c.isDigit) (nonempty : ds ≠ [])
    (lead : ds.head? = some '0' → ds.length = 1) (stops : Stops Char.isDigit rest) :
    whole? (ds ++ rest) = some (ds, rest) := by
  unfold whole?
  rw [digits?_append all nonempty stops]
  simpa using lead

theorem fraction?_point (all : ∀ c ∈ fs, c.isDigit) (nonempty : fs ≠ [])
    (stops : Stops Char.isDigit rest) :
    fraction? ('.' :: (fs ++ rest)) = some (some fs, rest) := by
  simp [fraction?, digits?_append all nonempty stops]

theorem fraction?_of_ne (h : rest.head? ≠ some '.') : fraction? rest = some (none, rest) := by
  unfold fraction?
  split
  · simp at h
  · rfl

theorem exponent?_of_stops (stops : Stops isNumeral rest) : exponent? rest = some (none, rest) := by
  cases rest with
  | nil => rfl
  | cons c rest =>
    have other := stops c rfl
    simp only [isNumeral, Bool.or_eq_true, decide_eq_true_eq, not_or] at other
    simp [exponent?, other]

theorem exponent?_signed (e : Int) (stops : Stops Char.isDigit rest) :
    exponent? ('e' :: (if e < 0 then '-' else '+') :: (Nat.toDigits 10 e.natAbs ++ rest)) =
      some (some e, rest) := by
  have digits := digits?_append (isDigit_of_mem_toDigits (n := e.natAbs)) Nat.toDigits_ne_nil stops
  split
  · next neg => simp [exponent?, digits, abs_of_neg neg]
  · next nonneg => simp [exponent?, digits, abs_of_nonneg (Int.not_lt.1 nonneg)]

theorem number?_whole (whole : whole? cs = some (ds, rest)) (fits : natOf ds < UInt64.size)
    (stops : Stops isNumeral rest) :
    number? negative cs = some (.number (wholeNumber negative (natOf ds)), rest) := by
  have fraction := fraction?_of_ne fun point => stops '.' point (by decide)
  simp [number?, whole, fraction, exponent?_of_stops stops, fits]

theorem number?_parts {cs' cs'' : List Char} {fs : Option (List Char)} {e : Option Int} {d : Double}
    (whole : whole? cs = some (ds, cs')) (fraction : fraction? cs' = some (fs, cs''))
    (exponent : exponent? cs'' = some (e, rest)) (more : fs ≠ none ∨ e ≠ none)
    (fits : natOf (ds ++ fs.getD []) < UInt64.size)
    (reads : Decimal.toDouble? negative
      ⟨natOf (ds ++ fs.getD []), e.getD 0 - (fs.getD []).length⟩ = some d) :
    number? negative cs = some (.number (.double d), rest) := by
  have fractional : (fs.isNone && e.isNone && decide (natOf ds < UInt64.size)) = false := by
    rcases more with more | more <;> simp [Option.isNone_eq_false_iff.2, Option.isSome_iff_ne_none, more]
  unfold number?
  simp only [whole, fraction, exponent, Option.bind_eq_bind, Option.bind_some, fractional]
  rw [if_neg Bool.false_ne_true, decimal_eq fits, reads]
  rfl

end Parts

section Double

open Double (infinityMagnitude)

variable {d : Decimal} {m : Nat}

theorem head?_append_toDigits {n : Nat} (nonzero : n ≠ 0) (more : List Char) :
    (Nat.toDigits 10 n ++ more).head? ≠ some '0' := by
  have lead := head?_toDigits_ne nonzero
  cases same : Nat.toDigits 10 n with
  | nil => exact absurd same Nat.toDigits_ne_nil
  | cons c cs => simpa [same] using lead

structure Split (d : Decimal) (ds fs : List Char) : Prop where
  all : ∀ c ∈ ds ++ fs, c.isDigit
  whole : ds ≠ []
  fraction : fs ≠ []
  lead : d.digits ≠ 0 → ds.head? = some '0' → ds.length = 1
  value : (⟨natOf (ds ++ fs), -fs.length⟩ : Decimal).value = d.value
  few : natOf (ds ++ fs) ≤ d.digits * 10 ^ (d.exponent.toNat + 1)
  near : (fs.length : Int) ≤ max 1 (-d.exponent)

theorem natOf_toDigits_zeros (k n : Nat) :
    natOf (Nat.toDigits 10 k ++ List.replicate n '0' ++ ['0']) = 10 * (10 ^ n * k) := by
  have zero : natOf ['0'] = 0 := rfl
  rw [natOf_append, natOf_append, natOf_zeros, natOf_toDigits, zero, List.length_replicate]
  rfl

theorem split_zeros (whole : 0 ≤ d.exponent) :
    Split d (Nat.toDigits 10 d.digits ++ List.replicate d.exponent.toNat '0') ['0'] where
  all := by
    simp only [List.mem_append]
    rintro c ((hc | hc) | hc)
    · exact isDigit_of_mem_toDigits c hc
    · exact isDigit_of_mem_zeros c hc
    · exact isDigit_of_mem_zeros (n := 1) c hc
  whole := by simp [Nat.toDigits_ne_nil]
  fraction := by simp
  lead nonzero zero := absurd zero (head?_append_toDigits nonzero _)
  value := by
    obtain ⟨n, same⟩ := Int.eq_ofNat_of_zero_le whole
    rw [same, Int.toNat_natCast, natOf_toDigits_zeros]
    simp [Decimal.value, same]
    ring
  few := by
    rw [natOf_toDigits_zeros, Nat.pow_succ]
    exact Nat.le_of_eq (by ring)
  near := by simp

theorem split_inner {k : Nat} (positive : 0 < k)
    (within : k < (Nat.toDigits 10 d.digits).length)
    (place : d.exponent + (Nat.toDigits 10 d.digits).length = k) :
    Split d ((Nat.toDigits 10 d.digits).take k) ((Nat.toDigits 10 d.digits).drop k) where
  all := by
    rw [List.take_append_drop]
    exact isDigit_of_mem_toDigits
  whole := by simp [Nat.toDigits_ne_nil, positive.ne']
  fraction := by simpa using within
  lead nonzero zero := by
    rw [List.head?_take, if_neg positive.ne'] at zero
    exact absurd zero (head?_toDigits_ne nonzero)
  value := by
    have places : -(((Nat.toDigits 10 d.digits).drop k).length : Int) = d.exponent := by
      rw [List.length_drop]
      omega
    rw [List.take_append_drop, natOf_toDigits, places]
  few := by
    rw [List.take_append_drop, natOf_toDigits]
    exact Nat.le_mul_of_pos_right _ (Nat.pow_pos (by decide))
  near := by
    rw [List.length_drop]
    omega

theorem split_outer {k : Nat} (place : d.exponent + (Nat.toDigits 10 d.digits).length = -k) :
    Split d ['0'] (List.replicate k '0' ++ Nat.toDigits 10 d.digits) where
  all := by
    simp only [List.mem_append]
    rintro c (hc | hc | hc)
    · exact isDigit_of_mem_zeros (n := 1) c hc
    · exact isDigit_of_mem_zeros c hc
    · exact isDigit_of_mem_toDigits c hc
  whole := by simp
  fraction := by simp [Nat.toDigits_ne_nil]
  lead _ _ := rfl
  value := by
    have places : -((List.replicate k '0' ++ Nat.toDigits 10 d.digits).length : Int) =
        d.exponent := by
      rw [List.length_append, List.length_replicate]
      omega
    have zero : natOf ['0'] = 0 := rfl
    simp only [natOf_append, natOf_zeros, natOf_toDigits, zero, places]
    simp
  few := by
    have zero : natOf ['0'] = 0 := rfl
    simp only [natOf_append, natOf_zeros, natOf_toDigits, zero, Nat.mul_zero, Nat.zero_add]
    exact Nat.le_mul_of_pos_right _ (Nat.pow_pos (by decide))
  near := by
    rw [List.length_append, List.length_replicate]
    omega

theorem exists_split (d : Decimal) :
    ∃ ds fs, Split d ds fs ∧ (d.positional ".0").toList = ds ++ '.' :: fs := by
  unfold Decimal.positional
  dsimp only
  split
  · next whole => exact ⟨_, _, split_zeros whole, by simp⟩
  · next less =>
    split
    · next inner =>
      obtain ⟨k, place⟩ := Int.eq_ofNat_of_zero_le inner.le
      refine ⟨_, _, split_inner (k := k) (by omega) (by omega) place, ?_⟩
      simp [place]
    · next outer =>
      obtain ⟨k, place⟩ := Int.exists_eq_neg_ofNat (Int.not_lt.1 outer)
      refine ⟨_, _, split_outer place, ?_⟩
      simp [place]

def pointed : List Char → List Char
  | c :: c' :: cs => c :: '.' :: c' :: cs
  | cs => cs

theorem toList_exponential (d : Decimal) : d.exponential.toList =
    pointed (Nat.toDigits 10 d.digits) ++ 'e' ::
      (if d.exponent + (Nat.toDigits 10 d.digits).length - 1 < 0 then '-' else '+') ::
      Nat.toDigits 10 (d.exponent + (Nat.toDigits 10 d.digits).length - 1).natAbs := by
  have sign {e : Int} : (if e < 0 then "-" else "+").toList = [if e < 0 then '-' else '+'] := by
    split <;> rfl
  unfold Decimal.exponential
  dsimp only
  generalize Nat.toDigits 10 d.digits = ds
  generalize d.exponent + ds.length - 1 = e
  cases ds with
  | nil => simp [sign, pointed]
  | cons c cs => cases cs <;> simp [sign, pointed]

theorem number?_pointed (all : ∀ c ∈ ds, c.isDigit) (nonempty : ds ≠ []) {e : Int}
    {tail : List Char} (exponent : exponent? tail = some (some e, rest)) (stops : Stops Char.isDigit tail)
    (other : tail.head? ≠ some '.') (fits : natOf ds < UInt64.size) {n : Double}
    (reads : Decimal.toDouble? negative ⟨natOf ds, e + 1 - ds.length⟩ = some n) :
    number? negative (pointed ds ++ tail) = some (.number (.double n), rest) := by
  cases ds with
  | nil => exact absurd rfl nonempty
  | cons c ds =>
    have first : ∀ d ∈ [c], d.isDigit := by simpa using all c List.mem_cons_self
    have more : ∀ d ∈ ds, d.isDigit := fun d hd => all d (List.mem_cons_of_mem _ hd)
    cases ds with
    | nil =>
      apply number?_parts (whole?_append first (by simp) (fun _ => rfl) stops)
        (fraction?_of_ne other) exponent (.inr (by simp)) (by simpa using fits)
      simpa using reads
    | cons c' cs =>
      have whole : whole? ([c] ++ '.' :: (c' :: cs ++ tail)) = _ :=
        whole?_append first (by simp) (fun _ => rfl) (stops_cons (by decide))
      apply number?_parts whole (fraction?_point more (by simp) stops) exponent (.inr (by simp))
        (by simpa using fits)
      have places : e - ((c' :: cs).length : Int) = e + 1 - (c :: c' :: cs).length := by
        simp only [List.length_cons]
        omega
      simpa [places] using reads

section Rounds

variable (rounds : d.RoundsTo m) (finite : m < infinityMagnitude) (short : d.isShort)
  (stops : Stops isNumeral rest)

include short

theorem le_of_isShort : d.digits * 10 ^ (d.exponent.toNat + 1) ≤ 2 * Double.fractions ∧
    -22 ≤ d.exponent := by
  simpa [Decimal.isShort] using short

include rounds finite stops

theorem Split.number? (h : Split d ds fs) (nonzero : d.digits ≠ 0) :
    number? negative (ds ++ '.' :: (fs ++ rest)) =
      some (.number (.double (.ofMagnitude negative m)), rest) := by
  obtain ⟨few, near⟩ := le_of_isShort short
  have few := h.few.trans few
  have near : fs.length ≤ 22 := by
    have := h.near
    omega
  apply number?_parts
    (whole?_append (fun c hc => h.all c (List.mem_append_left _ hc)) h.whole (h.lead nonzero)
      (stops_cons (by decide)))
    (fraction?_point (fun c hc => h.all c (List.mem_append_right _ hc)) h.fraction
      (stops_isDigit stops))
    (exponent?_of_stops stops) (.inl (by simp)) (Nat.lt_of_le_of_lt few (by decide))
  simpa using (rounds.of_value_eq h.value).toDouble? finite few (by simpa using near) negative

theorem number?_positional (nonzero : d.digits ≠ 0) :
    number? negative ((d.positional ".0").toList ++ rest) =
      some (.number (.double (.ofMagnitude negative m)), rest) := by
  obtain ⟨ds, fs, split, same⟩ := exists_split d
  rw [same, List.append_assoc]
  exact split.number? rounds finite short stops nonzero

theorem number?_exponential (nonzero : d.digits ≠ 0) :
    number? negative (d.exponential.toList ++ rest) =
      some (.number (.double (.ofMagnitude negative m)), rest) := by
  obtain ⟨few, least⟩ := le_of_isShort short
  have digits : d.digits ≤ 2 * Double.fractions :=
    (Nat.le_mul_of_pos_right _ (Nat.pow_pos (by decide))).trans few
  have greatest : d.exponent.toNat ≤ 22 := by
    by_contra more
    have power : 10 ^ 23 ≤ d.digits * 10 ^ (d.exponent.toNat + 1) :=
      (Nat.pow_le_pow_right (by decide) (by omega)).trans
        (Nat.le_mul_of_pos_left _ (Nat.pos_of_ne_zero nonzero))
    exact absurd (power.trans few) (by decide)
  rw [toList_exponential, List.append_assoc]
  apply number?_pointed isDigit_of_mem_toDigits Nat.toDigits_ne_nil
    (exponent?_signed _ (stops_isDigit stops)) (stops_cons (by decide)) (by simp)
    (by rw [natOf_toDigits]; exact Nat.lt_of_le_of_lt digits (by decide))
  rw [natOf_toDigits]
  simpa using rounds.toDouble? finite digits (by omega) negative

end Rounds

end Double

end Read

open Read

section Scalar

variable {cs rest : List Char} {f : Fragment}

theorem scalar_of_number? (number : number? false cs = some (f, rest)) :
    scalar cs = (f, some rest) := by
  unfold scalar
  split
  case h_6 => simp [number]
  all_goals simp [number?, whole?, digits?] at number

theorem scalar_minus (number : number? true cs = some (f, rest)) :
    scalar ('-' :: cs) = (f, some rest) := by
  simp [scalar, number]

end Scalar

/-- A number whose text is read back: a whole number of 64 bits, or a finite double whose shortest
decimal is short. -/
def Number.isLegible : Number → Bool
  | .integer i => -(UInt64.size / 2 : Nat) ≤ i && i < UInt64.size
  | .double d => d.isFinite && (Decimal.shortest .even d.magnitude).isShort

section Legible

variable {rest : List Char} (stops : Stops isNumeral rest)
include stops

theorem number?_digits (negative : Bool) {n : Nat} (fits : n < UInt64.size) :
    number? negative (Nat.toDigits 10 n ++ rest) =
      some (.number (wholeNumber negative n), rest) := by
  have lead : (Nat.toDigits 10 n).head? = some '0' → (Nat.toDigits 10 n).length = 1 := by
    intro zero
    by_cases nonzero : n = 0
    · rw [nonzero]
      rfl
    · exact absurd zero (head?_toDigits_ne nonzero)
  have whole := whole?_append isDigit_of_mem_toDigits Nat.toDigits_ne_nil lead (stops_isDigit stops)
  rw [number?_whole whole (by rwa [natOf_toDigits]) stops, natOf_toDigits]

theorem scalar_integer {i : Int} (h : (Number.integer i).isLegible) :
    scalar ((Number.integer i).text.toList ++ rest) = (.number (.integer i), some rest) := by
  obtain ⟨least, greatest⟩ : -(UInt64.size / 2 : Nat) ≤ i ∧ i < UInt64.size := by
    simpa [Number.isLegible] using h
  have size : UInt64.size = 2 * 0x8000000000000000 := rfl
  rw [Number.text]
  split
  · next neg =>
    have digits := number?_digits stops true (n := i.natAbs) (by omega)
    have whole : wholeNumber true i.natAbs = .integer i := by
      have same : -(i.natAbs : Int) = i := by omega
      unfold wholeNumber
      rw [if_neg (by simp), if_pos (by simp only [Bool.and_eq_true, bne_iff_ne, decide_eq_true_eq]; omega),
        same]
    rw [whole] at digits
    simpa using scalar_minus digits
  · next nonneg =>
    have digits := number?_digits stops false (n := i.natAbs) (by omega)
    have whole : wholeNumber false i.natAbs = .integer i := by
      have same : (i.natAbs : Int) = i := by omega
      rw [wholeNumber, if_pos (by simp), same]
    rw [whole] at digits
    simpa using scalar_of_number? digits

theorem number?_zero (negative : Bool) : number? negative ("0.0".toList ++ rest) =
    some (.number (.double (.ofMagnitude negative 0)), rest) := by
  have zero : ∀ c ∈ ['0'], c.isDigit := isDigit_of_mem_zeros (n := 1)
  have whole : whole? (['0'] ++ '.' :: (['0'] ++ rest)) = some (['0'], '.' :: (['0'] ++ rest)) :=
    whole?_append zero (by simp) (fun _ => rfl) (stops_cons (by decide))
  have nothing : (⟨0, -1⟩ : Decimal).RoundsTo 0 := Decimal.roundsTo_zero (-1)
  exact number?_parts whole (fraction?_point zero (by simp) (stops_isDigit stops))
    (exponent?_of_stops stops) (.inl (by simp)) (by decide)
    (nothing.toDouble? (by decide) (Nat.zero_le _) (by decide) negative)

end Legible

theorem exists_jsonText {d : Double} (legible : (Number.double d).isLegible) :
    ∃ t : String, d.jsonText = d.sign ++ t ∧ ∀ negative {rest}, Stops isNumeral rest →
      number? negative (t.toList ++ rest) =
        some (.number (.double (.ofMagnitude negative d.magnitude)), rest) := by
  obtain ⟨finite, short⟩ := Bool.and_eq_true_iff.1 legible
  have finite : d.magnitude < Double.infinityMagnitude := by simpa [Double.isFinite] using finite
  refine ⟨_, rfl, fun negative {rest} stops => ?_⟩
  rcases Nat.eq_zero_or_pos d.magnitude with zero | positive
  · rw [zero]
    exact number?_zero stops negative
  · have rounds := Decimal.roundsTo_shortest .even positive
    have nonzero := rounds.digits_ne_zero positive
    split
    · exact number?_exponential rounds finite short stops nonzero
    · exact number?_positional rounds finite short stops nonzero

theorem Number.scalar_of_isLegible {n : Number} (h : n.isLegible) {rest : List Char}
    (stops : Stops isNumeral rest) :
    scalar (n.text.toList ++ rest) = (.number n, some rest) := by
  cases n with
  | integer i => exact scalar_integer stops h
  | double d =>
    obtain ⟨t, text, number⟩ := exists_jsonText h
    have self := d.ofMagnitude_self
    rw [Number.text, text, Double.sign]
    split
    · next negative =>
      rw [negative] at self
      have number := number true stops
      rw [self] at number
      simpa using scalar_minus number
    · next nonnegative =>
      rw [Bool.eq_false_iff.2 nonnegative] at self
      have number := number false stops
      rw [self] at number
      simpa using scalar_of_number? number

end FeatureFlags.Json
