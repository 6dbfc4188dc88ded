import FeatureFlags.Regex.Pattern

namespace FeatureFlags.Regex

abbrev Marks := List Bool

namespace Marks

def both (m m' : Marks) : Marks := List.zipWith (· || ·) m m'

def iterate (step : Marks → Marks) : Nat → Marks → Marks
  | 0, m => m
  | n + 1, m =>
    let next := step m
    if next == m then m else iterate step n next

variable {step : Marks → Marks} {m : Marks}

theorem iterate_zero : iterate step 0 m = m := rfl

theorem iterate_of_fixed (fixed : step m = m) (n : Nat) : iterate step n m = m := by
  cases n <;> simp [iterate, fixed]

theorem iterate_succ (n : Nat) : iterate step (n + 1) m = iterate step n (step m) := by
  rw [iterate]
  split
  · next h =>
    have fixed : step m = m := by simpa using h
    rw [fixed, iterate_of_fixed fixed]
  · rfl

end Marks

namespace Pattern

/-- The places at which a match may end that starts at a marked place. Going round more often than there
are characters leads nowhere new. -/
def reach (text : List Char) : Pattern → Marks → Marks
  | .empty, m => m
  | .set s, m => false :: List.zipWith (fun marked c => marked && s.contains c) m text
  | .look l, m => List.zipWith (fun marked place => marked && l.holdsAt place) m (places none text)
  | .capture p, m => p.reach text m
  | .seq p q, m => q.reach text (p.reach text m)
  | .alt p q, m => .both (p.reach text m) (q.reach text m)
  | .repeated p least most, m =>
    let more := match most with
      | some most => most - least
      | none => text.length + 1
    Marks.iterate (fun m => .both m (p.reach text m)) more (Marks.iterate (p.reach text) least m)

def occursIn (p : Pattern) (s : String) : Bool :=
  (p.reach s.toList (List.replicate (s.toList.length + 1) true)).any id

end Pattern

end FeatureFlags.Regex
