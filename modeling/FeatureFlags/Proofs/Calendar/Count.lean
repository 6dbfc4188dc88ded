import FeatureFlags.Calendar.Date
import Mathlib

namespace FeatureFlags

namespace Date

def next? (d : Date) : Option Date :=
  if d.day < monthLength d.year d.month then ofParts? d.year d.month (d.day + 1)
  else if d.month < 12 then ofParts? d.year (d.month + 1) 1
  else ofParts? (d.year + 1) 1 1

def yearLength (year : Int) : Nat := if isLeap year then 366 else 365

theorem daysBeforeYear_succ (year : Int) :
    daysBeforeYear (year + 1) = daysBeforeYear year + yearLength year := by
  simp only [daysBeforeYear, yearLength, isLeap, Bool.and_eq_true, Bool.or_eq_true,
    decide_eq_true_eq, bne_iff_ne]
  split <;> omega

theorem daysBeforeMonth_succ {month : Nat} (pos : 1 ≤ month) (year : Int) :
    daysBeforeMonth year (month + 1) = daysBeforeMonth year month + monthLength year month := by
  obtain ⟨m, rfl⟩ := Nat.exists_eq_add_of_le' pos
  rfl

theorem daysBeforeMonth_thirteen (year : Int) : daysBeforeMonth year 13 = yearLength year := by
  cases leap : isLeap year <;> simp [daysBeforeMonth, monthLength, yearLength, leap]

theorem daysBeforeMonth_mono (year : Int) : Monotone (daysBeforeMonth year) := by
  apply monotone_nat_of_le_succ
  intro month
  cases month with
  | zero => exact Nat.le_refl _
  | succ m =>
    rw [daysBeforeMonth_succ (Nat.succ_pos m)]
    exact Nat.le_add_right ..

theorem daysBeforeYear_mono : Monotone daysBeforeYear := by
  apply monotone_int_of_le_succ
  intro year
  rw [daysBeforeYear_succ]
  omega

theorem place (d : Date) :
    (1 ≤ d.day ∧ d.day ≤ monthLength d.year d.month) ∧
    daysBeforeMonth d.year d.month + monthLength d.year d.month =
      daysBeforeMonth d.year (d.month + 1) ∧
    daysBeforeMonth d.year (d.month + 1) ≤ yearLength d.year ∧
    daysBeforeYear (d.year + 1) = daysBeforeYear d.year + yearLength d.year := by
  obtain ⟨-, -, month_pos, month_le, day_pos, day_le⟩ := d.exist
  refine ⟨⟨day_pos, day_le⟩, (daysBeforeMonth_succ month_pos _).symm, ?_, daysBeforeYear_succ _⟩
  rw [← daysBeforeMonth_thirteen]
  exact daysBeforeMonth_mono _ (by omega)

theorem ofParts?_eq_some_iff {year : Int} {month day : Nat} {d : Date} :
    ofParts? year month day = some d ↔ d.year = year ∧ d.month = month ∧ d.day = day := by
  obtain ⟨year', month', day', exist⟩ := d
  unfold ofParts?
  constructor
  · intro h
    split at h
    · cases h
      exact ⟨rfl, rfl, rfl⟩
    · cases h
  · rintro ⟨rfl, rfl, rfl⟩
    exact dif_pos exist

theorem dayNumber_of_last {d : Date} (lastDay : ¬ d.day < monthLength d.year d.month)
    (lastMonth : ¬ d.month < 12) : d.dayNumber = daysBeforeYear (d.year + 1) - 1 - 719162 := by
  obtain ⟨day, month, -, year⟩ := d.place
  have december : d.month = 12 := by have := d.exist.2.2.2.1; omega
  have whole : daysBeforeMonth d.year (12 + 1) = yearLength d.year :=
    daysBeforeMonth_thirteen d.year
  rw [december] at month day lastDay
  rw [dayNumber, december]
  omega

theorem dayNumber_next? {d e : Date} (h : d.next? = some e) : e.dayNumber = d.dayNumber + 1 := by
  unfold next? at h
  split at h
  · obtain ⟨sameYear, sameMonth, nextDay⟩ := ofParts?_eq_some_iff.1 h
    rw [dayNumber, dayNumber, sameYear, sameMonth, nextDay]
    omega
  · next lastDay =>
    split at h
    · obtain ⟨sameYear, nextMonth, first⟩ := ofParts?_eq_some_iff.1 h
      obtain ⟨day, month, -⟩ := d.place
      rw [dayNumber, dayNumber, sameYear, nextMonth, first]
      omega
    · next lastMonth =>
      obtain ⟨nextYear, january, first⟩ := ofParts?_eq_some_iff.1 h
      rw [dayNumber_of_last lastDay lastMonth, dayNumber, nextYear, january, first,
        show daysBeforeMonth (d.year + 1) 1 = 0 from rfl]
      omega

theorem monthLength_pos (year : Int) (month : Nat) : 1 ≤ monthLength year month := by
  unfold monthLength
  repeat' split
  all_goals decide

theorem exists_next? {d : Date} (h : d.dayNumber < greatestDayNumber) : ∃ e, d.next? = some e := by
  obtain ⟨year_ge, year_le, month_pos, month_le, -, -⟩ := d.exist
  unfold next?
  split
  · next inMonth =>
    exact ⟨⟨d.year, d.month, d.day + 1, year_ge, year_le, month_pos, month_le, by omega, inMonth⟩,
      ofParts?_eq_some_iff.2 ⟨rfl, rfl, rfl⟩⟩
  · next lastDay =>
    split
    · next inYear =>
      exact ⟨⟨d.year, d.month + 1, 1, year_ge, year_le, by omega, inYear, Nat.le_refl 1,
        monthLength_pos ..⟩, ofParts?_eq_some_iff.2 ⟨rfl, rfl, rfl⟩⟩
    · next lastMonth =>
      have notLast : d.year + 1 ≤ greatestYear := by
        by_contra last
        have same : d.year = greatestYear := by omega
        rw [dayNumber_of_last lastDay lastMonth, same, greatestDayNumber] at h
        omega
      exact ⟨⟨d.year + 1, 1, 1, by omega, notLast, Nat.le_refl 1, by decide, Nat.le_refl 1,
        monthLength_pos ..⟩, ofParts?_eq_some_iff.2 ⟨rfl, rfl, rfl⟩⟩

theorem dayNumber_mem_year (d : Date) :
    daysBeforeYear d.year ≤ d.dayNumber + 719162 ∧
      d.dayNumber + 719162 < daysBeforeYear (d.year + 1) := by
  obtain ⟨day, month, inYear, year⟩ := d.place
  unfold dayNumber
  omega

theorem dayNumber_mem_kept (d : Date) :
    leastDayNumber ≤ d.dayNumber ∧ d.dayNumber ≤ greatestDayNumber := by
  have inYear := d.dayNumber_mem_year
  have first := daysBeforeYear_mono d.exist.1
  have last := daysBeforeYear_mono (show d.year + 1 ≤ greatestYear + 1 by
    have := d.exist.2.1
    omega)
  unfold leastDayNumber greatestDayNumber
  omega

theorem eq_of_mem_spans {ι : Type} [LinearOrder ι] (f g : ι → Int)
    (follow : ∀ i j, i < j → g i ≤ f j) {i j : ι} {n : Int} (hi : f i ≤ n ∧ n < g i)
    (hj : f j ≤ n ∧ n < g j) : i = j := by
  rcases lt_trichotomy i j with before | same | after
  · have := follow i j before
    omega
  · exact same
  · have := follow j i after
    omega

theorem dayNumber_injective : Function.Injective dayNumber := by
  intro d e same
  have years : d.year = e.year := by
    apply eq_of_mem_spans daysBeforeYear (fun y => daysBeforeYear (y + 1))
    · exact fun y z before => daysBeforeYear_mono before
    · exact d.dayNumber_mem_year
    · exact same ▸ e.dayNumber_mem_year
  obtain ⟨dayD, monthD, -⟩ := d.place
  obtain ⟨dayE, monthE, -⟩ := e.place
  unfold dayNumber at same
  rw [years] at same dayD monthD
  have months : d.month = e.month := by
    apply eq_of_mem_spans (fun m => daysBeforeMonth e.year m + 1)
      (fun m => daysBeforeMonth e.year (m + 1) + 1)
    · intro m n before
      have : daysBeforeMonth e.year (m + 1) ≤ daysBeforeMonth e.year n :=
        daysBeforeMonth_mono e.year before
      omega
    · exact (show _ ≤ (daysBeforeMonth e.year d.month + d.day : Int) ∧ _ < _ by omega)
    · omega
  rw [months] at same
  obtain ⟨year, month, day, _⟩ := d
  obtain ⟨year', month', day', _⟩ := e
  obtain rfl : year = year' := years
  obtain rfl : month = month' := months
  obtain rfl : day = day' := by dsimp only at same; omega
  rfl

theorem exists_dayNumber_eq {n : Int} (kept : leastDayNumber ≤ n ∧ n ≤ greatestDayNumber) :
    ∃ d : Date, d.dayNumber = n := by
  obtain ⟨k, rfl⟩ := Int.le.dest kept.1
  induction k with
  | zero => exact ⟨⟨leastYear, 1, 1, by decide⟩, by decide⟩
  | succ k ih =>
    obtain ⟨d, number⟩ := ih (by omega)
    obtain ⟨e, next⟩ := exists_next? (d := d) (by omega)
    exact ⟨e, by rw [dayNumber_next? next]; omega⟩

end Date

end FeatureFlags
