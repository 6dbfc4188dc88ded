import FeatureFlags.Condition.Basic
import FeatureFlags.Proofs.Calendar.WallClock

namespace FeatureFlags

namespace Instant

variable {a b : Instant}

theorem lt_iff :
    a.lt b ↔ a.seconds < b.seconds ∨ a.seconds = b.seconds ∧ a.nanos < b.nanos := by
  simp [lt]

theorem le_iff :
    a.le b ↔ a.seconds < b.seconds ∨ a.seconds = b.seconds ∧ a.nanos ≤ b.nanos := by
  rw [le, Bool.not_eq_true', ← Bool.not_eq_true, lt_iff]
  omega

end Instant

def DateTimeOperator.compares (op : DateTimeOperator) (now i : Instant) : Bool :=
  match op with
  | .before => now.lt i
  | .after => i.lt now
  | .equalsOrBefore => now.le i
  | .equalsOrAfter => i.le now

theorem DateTimeTest.accepts_eq (t : DateTimeTest) (now : Moment) :
    t.accepts now = (t.instant? now.zone).any (t.operator.compares now.instant) := by
  unfold accepts
  cases t.instant? now.zone <;> rfl

namespace WallClock

def test (w : WallClock) (o : Offset) (op : DateTimeOperator) : DateTimeTest :=
  ⟨op, w.date, w.time, o⟩

variable {v w : WallClock} {a a' : Int} {op : DateTimeOperator} {zone : Zone}

theorem instant?_eq_some_iff {lt_day : a.natAbs < 86400} {i : Instant} :
    (w.test (.fixed a lt_day) op).instant? zone = some i ↔
      IsKept (w.seconds - a) ∧ i = ⟨w.seconds - a, w.time.nano⟩ := by
  change Instant.ofWallClock? w.date w.time a = some i ↔ _
  unfold Instant.ofWallClock?
  simp only [Option.ite_none_right_eq_some, Bool.and_eq_true, Option.some.injEq]
  rw [decide_eq_true_eq, decide_eq_true_eq]
  exact and_congr_right fun _ => eq_comm

theorem instant?_congr {lt_day : a.natAbs < 86400} {lt_day' : a'.natAbs < 86400}
    (seconds : v.seconds - a' = w.seconds - a) (nano : v.time.nano = w.time.nano) :
    (v.test (.fixed a' lt_day') op).instant? zone =
      (w.test (.fixed a lt_day) op).instant? zone := by
  ext i
  rw [instant?_eq_some_iff, instant?_eq_some_iff, seconds, nano]

structure Relative (w : WallClock) (seconds : Int) (lt_day : seconds.natAbs < 86400) : Prop where
  moved : ∀ k v (lt_day' : (seconds + 60 * k).natAbs < 86400), w.Moved k v → ∀ op,
    (∀ zone, (v.test (.fixed (seconds + 60 * k) lt_day') op).instant? zone =
      (w.test (.fixed seconds lt_day) op).instant? zone) ∧
    ∀ now, (v.test (.fixed (seconds + 60 * k) lt_day') op).accepts now =
      (w.test (.fixed seconds lt_day) op).accepts now
  movable : ∀ k, (∃ v, w.Moved k v) ↔ IsKept (w.seconds + 60 * k)
  exist : ∀ m, seconds = 60 * m → ∀ op zone,
    (((w.test (.fixed seconds lt_day) op).instant? zone).isSome ↔ ∃ v, w.Moved (-m) v)

theorem relative (w : WallClock) (seconds : Int) (lt_day : seconds.natAbs < 86400) :
    w.Relative seconds lt_day := by
  refine ⟨?_, ?_, ?_⟩
  · intro k v lt_day' moved op
    obtain ⟨later, nano⟩ := moved_iff.1 moved
    have same (zone : Zone) : (v.test (.fixed (seconds + 60 * k) lt_day') op).instant? zone =
        (w.test (.fixed seconds lt_day) op).instant? zone :=
      instant?_congr (by omega) nano
    refine ⟨same, fun now => ?_⟩
    rw [DateTimeTest.accepts_eq, DateTimeTest.accepts_eq, same]
    rfl
  · exact fun k => exists_moved_iff
  · rintro m rfl op zone
    rw [exists_moved_iff, Option.isSome_iff_exists]
    simp only [instant?_eq_some_iff, exists_and_left, exists_eq, and_true]
    rw [show w.seconds + 60 * -m = w.seconds - 60 * m by omega]

end WallClock

namespace DateTimeTest

def as (t : DateTimeTest) (op : DateTimeOperator) : DateTimeTest := { t with operator := op }

structure Divides (t : DateTimeTest) (zone : Zone) : Prop where
  absent : t.instant? zone = none → ∀ op i, (t.as op).accepts ⟨i, zone⟩ = false
  before : (t.instant? zone).isSome → ∀ i,
    (t.as .before).accepts ⟨i, zone⟩ = !(t.as .equalsOrAfter).accepts ⟨i, zone⟩
  after : (t.instant? zone).isSome → ∀ i,
    (t.as .after).accepts ⟨i, zone⟩ = !(t.as .equalsOrBefore).accepts ⟨i, zone⟩
  strictly : ∀ i, (t.as .before).accepts ⟨i, zone⟩ ↔
    (t.as .equalsOrBefore).accepts ⟨i, zone⟩ ∧ ¬ (t.as .equalsOrAfter).accepts ⟨i, zone⟩
  earlier : ∀ i i', (t.as .before).accepts ⟨i, zone⟩ → i'.le i →
    (t.as .before).accepts ⟨i', zone⟩
  later : ∀ i i', (t.as .after).accepts ⟨i, zone⟩ → i.le i' → (t.as .after).accepts ⟨i', zone⟩

theorem accepts_as (t : DateTimeTest) (op : DateTimeOperator) (i : Instant) (zone : Zone) :
    (t.as op).accepts ⟨i, zone⟩ = (t.instant? zone).any (op.compares i) := by
  rw [accepts_eq]
  rfl

theorem divides (t : DateTimeTest) (zone : Zone) : t.Divides zone := by
  have answer (op : DateTimeOperator) (i : Instant) := accepts_as t op i zone
  cases found : t.instant? zone with
  | none =>
    rw [found] at answer
    constructor <;> simp [found, answer]
  | some i =>
    simp only [found, Option.any_some] at answer
    refine ⟨?_, ?_, ?_, ?_, ?_, ?_⟩
    · simp [found]
    · intro _ now
      simp [answer, DateTimeOperator.compares, Instant.le]
    · intro _ now
      simp [answer, DateTimeOperator.compares, Instant.le]
    · intro now
      simp only [answer, DateTimeOperator.compares, Instant.le_iff, Instant.lt_iff]
      omega
    · intro now now'
      simp only [answer, DateTimeOperator.compares, Instant.le_iff, Instant.lt_iff]
      omega
    · intro now now'
      simp only [answer, DateTimeOperator.compares, Instant.le_iff, Instant.lt_iff]
      omega

theorem instantaneous :
    (∀ (w : WallClock) (seconds : Int) (lt_day : seconds.natAbs < 86400),
      w.Relative seconds lt_day) ∧ ∀ (t : DateTimeTest) (zone : Zone), t.Divides zone :=
  ⟨WallClock.relative, divides⟩

def yearsEnd : WallClock :=
  ⟨⟨2016, 12, 31, by decide⟩, ⟨85500, 250000000, by decide, by decide⟩⟩

def newYear : WallClock :=
  ⟨⟨2017, 1, 1, by decide⟩, ⟨4500, 250000000, by decide, by decide⟩⟩

theorem instantaneous_yearsEnd : yearsEnd.Moved 90 newYear ∧
    (newYear.test (.fixed 5400 (by decide)) .before).instant? =
      (yearsEnd.test (.fixed 0 (by decide)) .before).instant? ∧
    (yearsEnd.test (.fixed 0 (by decide)) .before).instant? = some ⟨1483227900, 250000000⟩ := by
  have moved : yearsEnd.Moved 90 newYear := by decide +kernel
  have relative := instantaneous.1 yearsEnd 0 (by decide)
  have same := (relative.moved 90 newYear (by decide) moved .before).1 .utc
  exact ⟨moved, same, by decide +kernel⟩

end DateTimeTest

end FeatureFlags
