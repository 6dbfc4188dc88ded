import FeatureFlags.Regex.Pattern
import FeatureFlags.Unicode.Utf8

/-! How much space the state machines of a pattern take, of which one reads text forwards and one
backwards. Patterns that take too much are rejected, so that none can use up the memory. -/

namespace FeatureFlags.Regex

open Unicode

inductive Direction
  | forwards
  | backwards
  deriving DecidableEq

namespace Weight

def state : Nat := 32

def transition : Nat := 8

def branch : Nat := 4

def frame : Direction → Nat
  | .forwards => 6 * state + 2 * transition
  | .backwards => 4 * state + 2 * transition

def limit : Nat := 10 * 1024 * 1024

def followers (sequences : List Utf8.Sequence) : List (List Utf8.Sequence) :=
  (sequences.splitBy fun s t => s.head? == t.head?).map (·.map List.tail)

def states : Nat → List Utf8.Sequence → List (List Utf8.Sequence)
  | 0, _ => []
  | n + 1, sequences =>
    if sequences.all List.isEmpty then []
    else sequences :: ((followers sequences).flatMap (states n)).eraseDups

def commonLength : Utf8.Sequence → Utf8.Sequence → Nat
  | r :: rs, s :: ss => if r = s then commonLength rs ss + 1 else 0
  | _, _ => 0

def beginnings (before : Utf8.Sequence) : List Utf8.Sequence → Nat
  | [] => 0
  | s :: ss => s.length - commonLength before s + beginnings s ss

def sequences (s : CharSet) : List Utf8.Sequence :=
  (s.inter .all).ranges.flatMap fun (lo, hi) => Utf8.sequences lo hi

def set (d : Direction) (s : CharSet) : Nat :=
  let encodings := sequences s
  if s.isSingle then state * beginnings [] encodings
  else if encodings.all (·.length == 1) then 2 * state + transition * encodings.length
  else
    match d with
    | .forwards =>
      (states 5 encodings).foldl (fun weight s => weight + state + transition * (followers s).length)
        state
    | .backwards => 2 * state + state * beginnings [] encodings + branch * encodings.length

end Weight

namespace Pattern

def isAlternation : Pattern → Bool
  | .alt _ _ => true
  | _ => false

/-- The space a pattern takes. Repeated patterns are laid out as often as they have to match at least,
and once more for every further match up to the most. -/
def weight (d : Direction) : Pattern → Nat
  | .empty => Weight.state
  | .set s => Weight.set d s
  | .look _ => Weight.state
  | .capture p =>
    match d with
    | .forwards => p.weight d + 2 * Weight.state
    | .backwards => p.weight d
  | .seq p q => p.weight d + q.weight d
  | .alt p q =>
    -- All alternatives share the two states at which they part and meet.
    let shared := if q.isAlternation then Weight.branch else 2 * Weight.state + 2 * Weight.branch
    p.weight d + q.weight d + shared
  | .repeated p 0 none =>
    if p.isSolid then p.weight d + Weight.state + 2 * Weight.branch
    else p.weight d + 3 * Weight.state + 4 * Weight.branch
  | .repeated p least none => least * p.weight d + Weight.state + 2 * Weight.branch
  | .repeated p least (some most) =>
    if least = most then least * p.weight d
    else if least = 0 && most = 1 then p.weight d + 2 * Weight.state + 2 * Weight.branch
    else
      (if least = 0 then Weight.state else least * p.weight d) + Weight.state
        + (most - least) * (p.weight d + Weight.state + 2 * Weight.branch)

def fits (p : Pattern) : Bool :=
  [Direction.forwards, .backwards].all fun d => p.weight d + Weight.frame d ≤ Weight.limit

end Pattern

end FeatureFlags.Regex
