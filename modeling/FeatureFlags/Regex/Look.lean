import FeatureFlags.Unicode.Property

namespace FeatureFlags.Regex

open Unicode

structure Place where
  before : Option Char
  after : Option Char

inductive LineEnds
  | lineFeed
  /-- A carriage return ends a line too, but not before the line feed that belongs to it. -/
  | carriageReturn
  deriving DecidableEq

inductive WordEdge
  | boundary
  | notBoundary
  | start
  | finish
  | startHalf
  | finishHalf
  deriving DecidableEq

inductive Look
  | start
  | finish
  | lineStart (ends : LineEnds)
  | lineFinish (ends : LineEnds)
  | word (edge : WordEdge) (characters : CharSet)

namespace Place

def isIn (side : Option Char) (s : CharSet) : Bool := side.any s.contains

def isLineStart (p : Place) : LineEnds → Bool
  | .lineFeed => p.before.isNone || p.before == some '\n'
  | .carriageReturn =>
    p.before.isNone || p.before == some '\n' || (p.before == some '\r' && p.after != some '\n')

def isLineFinish (p : Place) : LineEnds → Bool
  | .lineFeed => p.after.isNone || p.after == some '\n'
  | .carriageReturn =>
    p.after.isNone || p.after == some '\r' || (p.after == some '\n' && p.before != some '\r')

def isEdge (p : Place) (s : CharSet) : WordEdge → Bool
  | .boundary => isIn p.before s != isIn p.after s
  | .notBoundary => isIn p.before s == isIn p.after s
  | .start => !isIn p.before s && isIn p.after s
  | .finish => isIn p.before s && !isIn p.after s
  | .startHalf => !isIn p.before s
  | .finishHalf => !isIn p.after s

end Place

def Look.holdsAt (p : Place) : Look → Bool
  | .start => p.before.isNone
  | .finish => p.after.isNone
  | .lineStart ends => p.isLineStart ends
  | .lineFinish ends => p.isLineFinish ends
  | .word edge characters => p.isEdge characters edge

def places (before : Option Char) : List Char → List Place
  | [] => [⟨before, none⟩]
  | c :: cs => ⟨before, some c⟩ :: places (some c) cs

end FeatureFlags.Regex
