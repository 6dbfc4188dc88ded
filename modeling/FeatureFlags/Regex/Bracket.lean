import FeatureFlags.Regex.Escape

namespace FeatureFlags.Regex.Bracket

open Unicode

inductive SetOperation
  | inter
  | diff
  | symmDiff
  deriving DecidableEq

def SetOperation.apply : SetOperation → CharSet → CharSet → CharSet
  | .inter, s, t => s.inter t
  | .diff, s, t => s.diff t
  | .symmDiff, s, t => s.symmDiff t

structure Operand where
  set : CharSet
  depth : Nat

structure Gathered where
  set : CharSet := .empty
  count : Nat := 0
  depth : Nat := 0

def Gathered.add (g : Gathered) (o : Operand) : Gathered :=
  ⟨g.set ∪ o.set, g.count + 1, max g.depth o.depth⟩

def Gathered.operand (g : Gathered) : Operand := ⟨g.set, if g.count ≤ 1 then g.depth else g.depth + 1⟩

structure Level where
  negated : Bool
  left : Option (SetOperation × Operand) := none
  items : Gathered := {}

namespace Level

def operand (m : Mode) (l : Level) : Operand :=
  match l.left with
  | none => l.items.operand
  | some (op, left) =>
    let right := l.items.operand
    ⟨op.apply (m.fold left.set) (m.fold right.set), max left.depth right.depth + 1⟩

def operate (m : Mode) (l : Level) (op : SetOperation) : Level :=
  { l with left := some (op, l.operand m), items := {} }

def add (l : Level) (o : Operand) : Level := { l with items := l.items.add o }

/-- Case is folded before the set is negated. -/
def close? (m : Mode) (l : Level) : Option Operand := do
  let o := l.operand m
  let s := m.fold o.set
  return ⟨← if l.negated then m.negate? s else some s, o.depth + 1⟩

end Level

structure Scan where
  rest : List Char
  level : Level
  outer : List Level := []
  /-- Whether nothing but hyphens has been read since the bracket opened, which then are members. -/
  leading : Bool := true

def opened (m : Mode) (outer : List Level) (cs : List Char) : Scan :=
  match m.skip cs with
  | '^' :: cs => { rest := cs, level := { negated := true }, outer }
  | cs => { rest := cs, level := { negated := false }, outer }

def asciiClass? : String → Option CharSet
  | "alnum" => some (Ascii.digits ∪ Ascii.upper ∪ Ascii.lower)
  | "alpha" => some (Ascii.upper ∪ Ascii.lower)
  | "ascii" => some (.range 0 0x7F)
  | "blank" => some (.ofString "\t ")
  | "cntrl" => some (.range 0 0x1F ∪ .range 0x7F 0x7F)
  | "digit" => some Ascii.digits
  | "graph" => some (.range 0x21 0x7E)
  | "lower" => some Ascii.lower
  | "print" => some (.range 0x20 0x7E)
  | "punct" => some ((CharSet.range 0x21 0x7E).diff (Ascii.digits ∪ Ascii.upper ∪ Ascii.lower))
  | "space" => some Ascii.space
  | "upper" => some Ascii.upper
  | "word" => some Ascii.word
  | "xdigit" => some (Ascii.digits ∪ .range 0x41 0x46 ∪ .range 0x61 0x66)
  | _ => none

/-- A named class from after its opening bracket; if it is none, the bracket opens another class. -/
def namedClass? (cs : List Char) : Option (Bool × CharSet × List Char) := do
  let ':' :: cs := cs | none
  let (negated, cs) := match cs with
    | '^' :: cs => (true, cs)
    | cs => (false, cs)
  let name := cs.takeWhile (· != ':')
  let ':' :: ']' :: rest := cs.drop name.length | none
  return (negated, ← asciiClass? (String.ofList name), rest)

def atom? (m : Mode) : List Char → Option (Atom × List Char)
  | [] => none
  | '\\' :: cs => Escape.read? m cs
  | c :: cs => if m.unicode || c.toNat < 0x80 then some (.char c, cs) else none

/-- Whether a hyphen followed by `cs` stands for itself, as before the closing bracket, or is the first
half of an operator. -/
def isRangeSign (m : Mode) (cs : List Char) : Bool :=
  let cs := if m.verbose then cs.dropWhile Text.isBlank else cs
  let next := match m.verbose, cs with
    | true, '#' :: cs => (cs.dropWhile Text.isBlank).head?
    | _, cs => cs.head?
  next != some ']' && next != some '-'

def range? (m : Mode) (cs : List Char) : Option (CharSet × List Char) := do
  let (first, rest) ← atom? m cs
  let single := match first with
    | .char c => some (.single c, rest)
    | .set s => some (s, rest)
    | .look _ => none
  match m.skip rest with
  | '-' :: rest =>
    if isRangeSign m rest then
      let (last, rest) ← atom? m (m.skip rest)
      match first, last with
      | .char lo, .char hi => if lo ≤ hi then some (.range lo.toNat hi.toNat, rest) else none
      | _, _ => none
    else single
  | _ => single

def step? (m : Mode) (s : Scan) : Option (Scan ⊕ Operand × List Char) := do
  let c :: cs := m.skip s.rest | none
  if s.leading && (c == '-' || c == ']' && s.level.items.count == 0) then
    return .inl { s with rest := cs, level := s.level.add ⟨.single c, 0⟩, leading := c == '-' }
  let s := { s with leading := false }
  let operate (op : SetOperation) (rest : List Char) : Scan :=
    { s with rest, level := s.level.operate m op }
  match c, cs with
  | '[', cs =>
    match namedClass? cs with
    | some (negated, set, rest) =>
      let set := m.fold set
      let set ← if negated then m.negate? set else some set
      return .inl { s with rest, level := s.level.add ⟨set, 0⟩ }
    | none => return .inl (opened m (s.level :: s.outer) cs)
  | ']', rest =>
    let closed ← s.level.close? m
    match s.outer with
    | [] => return .inr (closed, rest)
    | level :: outer => return .inl { s with rest, level := level.add closed, outer }
  | '&', '&' :: cs => return .inl (operate .inter cs)
  | '-', '-' :: cs => return .inl (operate .diff cs)
  | '~', '~' :: cs => return .inl (operate .symmDiff cs)
  | c, cs =>
    let (set, rest) ← range? m (c :: cs)
    return .inl { s with rest, level := s.level.add ⟨set, 0⟩ }

def finish? (m : Mode) (s : Scan) : Option (Operand × List Char) :=
  match step? m s with
  | some (.inl next) => if next.rest.length < s.rest.length then finish? m next else none
  | some (.inr closed) => some closed
  | none => none
  termination_by s.rest.length

def read? (m : Mode) (cs : List Char) : Option (Operand × List Char) := finish? m (opened m [] cs)

end FeatureFlags.Regex.Bracket
