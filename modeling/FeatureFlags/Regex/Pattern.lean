import FeatureFlags.Regex.Look

namespace FeatureFlags.Regex

open Unicode

inductive Pattern
  | empty
  | set (s : CharSet)
  | look (l : Look)
  | capture (p : Pattern)
  | seq (p q : Pattern)
  | alt (p q : Pattern)
  | repeated (p : Pattern) (least : Nat) (most : Option Nat)

namespace Pattern

def followedBy : Pattern → Pattern → Pattern
  | .empty, q => q
  | p, .empty => p
  | p, q => .seq p q

def sequence (ps : List Pattern) : Pattern := ps.foldr followedBy .empty

def singleton? : Pattern → Option CharSet
  | .set s => if s.isSingle then some s else none
  | _ => none

def compound? : Pattern → Option CharSet
  | .set s => if s.isSingle then none else some s
  | _ => none

def alternatives : List Pattern → Pattern
  | [] => .set .empty
  | [p] => p
  | p :: ps => .alt p (alternatives ps)

def anyOf (ps : List Pattern) : Pattern :=
  match ps.mapM singleton? <|> ps.mapM compound? with
  | some sets => .set (.unions sets)
  | none => alternatives ps

def isBlank : Pattern → Bool
  | .empty => true
  | .set _ => false
  | .look _ => true
  | .capture p => p.isBlank
  | .seq p q => p.isBlank && q.isBlank
  | .alt p q => p.isBlank && q.isBlank
  | .repeated p _ most => p.isBlank && most.isSome

def isSolid : Pattern → Bool
  | .empty => false
  | .set s => !s.isEmpty
  | .look _ => false
  | .capture p => p.isSolid
  | .seq p q => p.isSolid || q.isSolid
  | .alt p q => p.isSolid && q.isSolid
  | .repeated p least _ => p.isSolid && least != 0

/-- Repeats a pattern. To do so with what is empty changes nothing after the first time. -/
def times (p : Pattern) (least : Nat) (most : Option Nat) : Pattern :=
  let (least, most) := if p.isBlank then (min least 1, some (min (most.getD 1) 1)) else (least, most)
  match most with
  | some 0 => .empty
  | some 1 => if least = 1 then p else .repeated p least (some 1)
  | most => .repeated p least most

end Pattern

end FeatureFlags.Regex
