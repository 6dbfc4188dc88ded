import FeatureFlags.Regex.Bracket
import FeatureFlags.Regex.Group
import FeatureFlags.Regex.Weight

namespace FeatureFlags.Regex

structure Item where
  pattern : Pattern
  depth : Nat := 0
  isFlags : Bool := false

namespace Item

def depthOf (items : List Item) : Nat := items.foldl (fun depth i => max depth i.depth) 0

def ofSequence : List Item → Item
  | [i] => { i with isFlags := false }
  | [] => { pattern := .empty }
  | items => { pattern := .sequence (items.reverse.map pattern), depth := depthOf items + 1 }

def ofAlternatives : List Item → Item
  | [i] => i
  | items => { pattern := .anyOf (items.reverse.map pattern), depth := depthOf items + 1 }

end Item

structure Body where
  alternatives : List Item := []
  items : List Item := []

namespace Body

def push (b : Body) (i : Item) : Body := { b with items := i :: b.items }

def startAlternative (b : Body) : Body := { alternatives := .ofSequence b.items :: b.alternatives }

def toItem (b : Body) : Item := .ofAlternatives (.ofSequence b.items :: b.alternatives)

def repeat? (b : Body) (least : Nat) (most : Option Nat) : Option Body :=
  match b.items with
  | i :: items =>
    if i.isFlags then none
    else some { b with items := { pattern := i.pattern.times least most, depth := i.depth + 1 } :: items }
  | [] => none

end Body

structure OpenGroup where
  before : Body
  mode : Mode
  captures : Bool

structure Reading where
  rest : List Char
  mode : Mode := {}
  body : Body := {}
  groups : List OpenGroup := []
  names : List String := []

namespace Reading

def push (r : Reading) (p : Pattern) (rest : List Char) : Reading :=
  { r with rest, body := r.body.push { pattern := p } }

def openGroup? (r : Reading) (cs : List Char) : Option Reading := do
  let (head, rest) ← GroupHead.read? r.mode cs
  let opened (mode : Mode) (captures : Bool) : Reading :=
    { r with rest, mode, body := {}, groups := ⟨r.body, r.mode, captures⟩ :: r.groups }
  match head with
  | .flags mode =>
    return { r with rest, mode, body := r.body.push { pattern := .empty, isFlags := true } }
  | .group mode => return opened mode false
  | .capture none => return opened r.mode true
  | .capture (some name) =>
    if name ∈ r.names then none
    else return { opened r.mode true with names := name :: r.names }

def closeGroup? (r : Reading) (rest : List Char) : Option Reading := do
  let group :: groups := r.groups | none
  let inner := r.body.toItem
  let pattern := if group.captures then .capture inner.pattern else inner.pattern
  let body := group.before.push { pattern, depth := inner.depth + 1 }
  return { r with rest, mode := group.mode, body, groups }

def repeat? (r : Reading) (least : Nat) (most : Option Nat) (rest : List Char) : Option Reading := do
  return { r with rest := Repetition.dropLazy rest, body := ← r.body.repeat? least most }

def step? (r : Reading) (c : Char) (cs : List Char) : Option Reading :=
  match c with
  | '(' => r.openGroup? cs
  | ')' => r.closeGroup? cs
  | '|' => some { r with rest := cs, body := r.body.startAlternative }
  | '?' => r.repeat? 0 (some 1) cs
  | '*' => r.repeat? 0 none cs
  | '+' => r.repeat? 1 none cs
  | '\x7b' => do
    let (least, most, rest) ← Repetition.bounds? r.mode cs
    r.repeat? least most (r.mode.skip rest)
  | '[' => do
    let (o, rest) ← Bracket.read? r.mode cs
    return { r with rest, body := r.body.push { pattern := .set o.set, depth := o.depth } }
  | '\\' => do
    let (atom, rest) ← Escape.read? r.mode cs
    match atom with
    | .char c => return r.push (r.mode.literal c) rest
    | .set s => return r.push (.set s) rest
    | .look l => return r.push (.look l) rest
  | '.' => r.mode.dot?.map (r.push · cs)
  | '^' => some (r.push r.mode.lineStart cs)
  | '$' => some (r.push r.mode.lineFinish cs)
  | c => some (r.push (r.mode.literal c) cs)

def finish? (r : Reading) : Option Item :=
  match r.mode.skip r.rest with
  | [] => if r.groups.isEmpty then some r.body.toItem else none
  | c :: cs =>
    match r.step? c cs with
    | some next => if next.rest.length < r.rest.length then finish? next else none
    | none => none
  termination_by r.rest.length

end Reading

def nestLimit : Nat := 250

/-- The pattern of an expression that is well formed and whose machines fit into the space they have. -/
def Pattern.ofExpression? (s : String) : Option Pattern := do
  let item ← Reading.finish? { rest := s.toList }
  if item.depth ≤ nestLimit && item.pattern.fits then some item.pattern else none

end FeatureFlags.Regex
