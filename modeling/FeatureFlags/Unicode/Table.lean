import FeatureFlags.Text.Digit
import FeatureFlags.Unicode.CharSet

namespace FeatureFlags.Unicode

/-- A value of a property: its names, and the runs of characters that have it. A run is written in
hexadecimal as the gap before it, followed after a plus sign by how many characters it has after its
first. -/
structure Row where
  names : List String
  runs : List String

abbrev Table := List Row

namespace Row

def readRuns (gap more : Nat) (inMore : Bool) : List Char → List (Nat × Nat)
  | [] => [(gap, more)]
  | ' ' :: cs => (gap, more) :: readRuns 0 0 false cs
  | '+' :: cs => readRuns gap more true cs
  | c :: cs =>
    let digit := (Text.hexDigit? c).getD 0
    if inMore then readRuns gap (16 * more + digit) inMore cs
    else readRuns (16 * gap + digit) more inMore cs

def set (r : Row) : CharSet :=
  .ofRuns (r.runs.flatMap fun line => readRuns 0 0 false line.toList)

end Row

namespace Table

def find? (t : Table) (name : String) : Option CharSet :=
  (List.find? (·.names.contains name) t).map Row.set

def get (t : Table) (name : String) : CharSet := (t.find? name).getD .empty

end Table

end FeatureFlags.Unicode
