import FeatureFlags.Text.Blank
import FeatureFlags.Unicode.CaseFolding
import FeatureFlags.Regex.Pattern

namespace FeatureFlags.Regex

open Unicode

structure Mode where
  ignoreCase : Bool := false
  multiLine : Bool := false
  dotAll : Bool := false
  unicode : Bool := true
  lineEnds : LineEnds := .lineFeed
  verbose : Bool := false

namespace Mode

/-- Sets a flag. Whether repetitions are greedy decides which match is found, but not whether there is
one. -/
def set? (m : Mode) (on : Bool) : Char → Option Mode
  | 'i' => some { m with ignoreCase := on }
  | 'm' => some { m with multiLine := on }
  | 's' => some { m with dotAll := on }
  | 'u' => some { m with unicode := on }
  | 'R' => some { m with lineEnds := if on then .carriageReturn else .lineFeed }
  | 'x' => some { m with verbose := on }
  | 'U' => some m
  | _ => none

def setAll? (m : Mode) (on : Bool) : List Char → Option Mode
  | [] => some m
  | '-' :: flags => m.setAll? false flags
  | flag :: flags => do (← m.set? on flag).setAll? on flags

/-- Sets the flags before a hyphen and unsets those after it. No flag may stand there twice, and the hyphen
not at the end. -/
def change? (m : Mode) (flags : List Char) : Option Mode :=
  if flags.Nodup ∧ flags.getLast? ≠ some '-' then m.setAll? true flags else none

def skipFrom (verbose inComment : Bool) : List Char → List Char
  | [] => []
  | c :: cs =>
    if inComment then skipFrom verbose (c != '\n') cs
    else if verbose && Text.isBlank c then skipFrom verbose false cs
    else if verbose && c == '#' then skipFrom verbose true cs
    else c :: cs

def visibleFrom (verbose inComment : Bool) : List Char → List (Char × List Char)
  | [] => []
  | c :: cs =>
    if inComment then visibleFrom verbose (c != '\n') cs
    else if verbose && Text.isBlank c then visibleFrom verbose false cs
    else if verbose && c == '#' then visibleFrom verbose true cs
    else (c, cs) :: visibleFrom verbose false cs

def skip (m : Mode) (cs : List Char) : List Char := skipFrom m.verbose false cs

def visible (m : Mode) (cs : List Char) : List (Char × List Char) := visibleFrom m.verbose false cs

def fold (m : Mode) (s : CharSet) : CharSet :=
  if !m.ignoreCase then s else if m.unicode then s.caseClosure else s.asciiCaseClosure

/-- The complement, which is known of sets of all characters only. -/
def negate? (m : Mode) (s : CharSet) : Option CharSet := if m.unicode then some s.compl else none

def literal (m : Mode) (c : Char) : Pattern := .set (m.fold (.single c))

def dot? (m : Mode) : Option Pattern :=
  let excluded := match m.dotAll, m.lineEnds with
    | true, _ => ""
    | false, .lineFeed => "\n"
    | false, .carriageReturn => "\r\n"
  (m.negate? (.ofString excluded)).map .set

def lineStart (m : Mode) : Pattern := .look (if m.multiLine then .lineStart m.lineEnds else .start)

def lineFinish (m : Mode) : Pattern := .look (if m.multiLine then .lineFinish m.lineEnds else .finish)

end Mode

end FeatureFlags.Regex
