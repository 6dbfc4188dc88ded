namespace FeatureFlags

inductive Quantifier
  | some
  | every
  | notAny
  | notEvery
  deriving DecidableEq

namespace Quantifier

def name : Quantifier → String
  | .some => "some"
  | .every => "every"
  | .notAny => "notAny"
  | .notEvery => "notEvery"

def decisive : Quantifier → Bool
  | .some => true
  | .every => false
  | .notAny => true
  | .notEvery => false

def conclude (q : Quantifier) (found : Bool) : Bool :=
  match q with
  | .some => found
  | .every => !found
  | .notAny => !found
  | .notEvery => found

/-- Tests items up to the first decisive one. Every quantifier is false of no items. -/
def apply (q : Quantifier) (test : α → Bool) (items : List α) : Bool :=
  !items.isEmpty && q.conclude (items.any fun a => test a == q.decisive)

def tested (q : Quantifier) (test : α → Bool) (items : List α) : List α :=
  let undecided := items.takeWhile fun a => test a != q.decisive
  items.take (undecided.length + 1)

end Quantifier

end FeatureFlags
