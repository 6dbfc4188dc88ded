import FeatureFlags.Calendar.Time
import FeatureFlags.Proofs.Calendar.Count

/-!
Wall clocks that are moved by minutes, over the ends of days, months and years. A clock goes through
every second of the kept years once, whatever its calendar makes of them.
-/

namespace FeatureFlags

/-- The time a minute later, on the same day or the next. A leap second stays one. -/
def Time.minuteOn (t : Time) : Time where
  second := (t.second + 60) % 86400
  nano := t.nano
  second_lt := Nat.mod_lt _ (by decide)
  nano_lt := by
    have := t.nano_lt
    omega

structure WallClock where
  date : Date
  time : Time
  deriving DecidableEq

namespace WallClock

def nextMinute? (w : WallClock) : Option WallClock :=
  if w.time.second + 60 < 86400 then some ⟨w.date, w.time.minuteOn⟩
  else w.date.next?.map (⟨·, w.time.minuteOn⟩)

def later? : Nat → WallClock → Option WallClock
  | 0, w => some w
  | n + 1, w => w.nextMinute?.bind (later? n)

/-- One clock shows what another one does when it is moved by so many minutes. Moved back, it has the
other one before it. -/
def Moved (w : WallClock) : Int → WallClock → Prop
  | .ofNat n, v => w.later? n = some v
  | .negSucc n, v => v.later? (n + 1) = some w

instance (w : WallClock) (k : Int) (v : WallClock) : Decidable (w.Moved k v) :=
  match k with
  | .ofNat n => inferInstanceAs (Decidable (w.later? n = some v))
  | .negSucc n => inferInstanceAs (Decidable (v.later? (n + 1) = some w))

def seconds (w : WallClock) : Int := w.date.dayNumber * 86400 + w.time.second

def IsKept (seconds : Int) : Prop :=
  Date.leastDayNumber * 86400 ≤ seconds ∧ seconds < (Date.greatestDayNumber + 1) * 86400

variable {v w : WallClock} {n : Nat} {k : Int}

theorem isKept_seconds (w : WallClock) : IsKept w.seconds := by
  have kept := w.date.dayNumber_mem_kept
  have := w.time.second_lt
  unfold IsKept seconds
  omega

theorem eq_of_seconds (seconds : v.seconds = w.seconds) (nano : v.time.nano = w.time.nano) :
    v = w := by
  obtain ⟨date, ⟨second, nano, second_lt, _⟩⟩ := v
  obtain ⟨date', ⟨second', nano', second_lt', _⟩⟩ := w
  unfold WallClock.seconds at seconds
  dsimp only at seconds nano
  obtain rfl : date = date' := Date.dayNumber_injective (by omega)
  obtain rfl : second = second' := by omega
  subst nano
  rfl

theorem exists_seconds_eq (w : WallClock) (kept : IsKept (w.seconds + 60 * k)) :
    ∃ v : WallClock, v.seconds = w.seconds + 60 * k ∧ v.time.nano = w.time.nano := by
  obtain ⟨first, last⟩ := kept
  obtain ⟨date, number⟩ := Date.exists_dayNumber_eq (n := (w.seconds + 60 * k) / 86400) (by omega)
  have nano_lt := w.time.nano_lt
  refine ⟨⟨date, ⟨((w.seconds + 60 * k) % 86400).toNat, w.time.nano, by omega, ?_⟩⟩, ?_, rfl⟩
  · unfold seconds
    omega
  · rw [seconds, number]
    dsimp only
    omega

theorem seconds_nextMinute? (h : w.nextMinute? = some v) :
    v.seconds = w.seconds + 60 ∧ v.time.nano = w.time.nano := by
  have inDay := w.time.second_lt
  unfold nextMinute? at h
  unfold seconds
  split at h
  · next sameDay =>
    cases h
    refine ⟨?_, rfl⟩
    dsimp only [Time.minuteOn]
    omega
  · obtain ⟨date, next, rfl⟩ := Option.map_eq_some_iff.1 h
    have number := Date.dayNumber_next? next
    refine ⟨?_, rfl⟩
    dsimp only [Time.minuteOn]
    omega

theorem exists_nextMinute? (kept : IsKept (w.seconds + 60)) : ∃ v, w.nextMinute? = some v := by
  have inDay := w.time.second_lt
  unfold nextMinute?
  split
  · exact ⟨_, rfl⟩
  · unfold IsKept seconds at kept
    obtain ⟨date, next⟩ := Date.exists_next? (d := w.date) (by omega)
    exact ⟨_, by rw [next]; rfl⟩

theorem seconds_later? (h : w.later? n = some v) :
    v.seconds = w.seconds + 60 * n ∧ v.time.nano = w.time.nano := by
  induction n generalizing w with
  | zero =>
    cases h
    exact ⟨by omega, rfl⟩
  | succ n ih =>
    obtain ⟨u, next, rest⟩ := Option.bind_eq_some_iff.1 h
    obtain ⟨seconds, nano⟩ := seconds_nextMinute? next
    obtain ⟨seconds', nano'⟩ := ih rest
    exact ⟨by omega, nano'.trans nano⟩

theorem exists_later? (kept : IsKept (w.seconds + 60 * n)) : ∃ v, w.later? n = some v := by
  induction n generalizing w with
  | zero => exact ⟨w, rfl⟩
  | succ n ih =>
    have now := w.isKept_seconds
    obtain ⟨u, next⟩ := exists_nextMinute? (w := w) (by unfold IsKept at *; omega)
    obtain ⟨v, rest⟩ := ih (w := u) (by
      rw [(seconds_nextMinute? next).1]
      unfold IsKept at *
      omega)
    exact ⟨v, Option.bind_eq_some_iff.2 ⟨u, next, rest⟩⟩

theorem later?_eq_some_iff :
    w.later? n = some v ↔ v.seconds = w.seconds + 60 * n ∧ v.time.nano = w.time.nano := by
  refine ⟨seconds_later?, fun ⟨seconds, nano⟩ => ?_⟩
  obtain ⟨u, later⟩ := exists_later? (w := w) (n := n) (seconds ▸ v.isKept_seconds)
  obtain ⟨seconds', nano'⟩ := seconds_later? later
  rw [later, eq_of_seconds (seconds'.trans seconds.symm) (nano'.trans nano.symm)]

theorem moved_iff :
    w.Moved k v ↔ v.seconds = w.seconds + 60 * k ∧ v.time.nano = w.time.nano := by
  cases k with
  | ofNat n => exact later?_eq_some_iff
  | negSucc n =>
    rw [Moved, later?_eq_some_iff]
    omega

theorem exists_moved_iff : (∃ v, w.Moved k v) ↔ IsKept (w.seconds + 60 * k) := by
  simp only [moved_iff]
  constructor
  · rintro ⟨v, seconds, -⟩
    exact seconds ▸ v.isKept_seconds
  · exact w.exists_seconds_eq

end WallClock

end FeatureFlags
