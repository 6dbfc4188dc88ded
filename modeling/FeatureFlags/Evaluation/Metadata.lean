import FeatureFlags.Property
import FeatureFlags.Calendar.Offset

namespace FeatureFlags

inductive Warning
  | notFound (propertyId : String) (path : List String)
  | incorrectDataType (propertyId : String) (path : List String) (expected : PropertyType)
  deriving DecidableEq

def Warning.ofLookup (p : Property) : LookupError → Warning
  | .notFound => .notFound p.id p.path
  | .incorrectDataType => .incorrectDataType p.id p.path p.type

/-- The state of an evaluation. `cache` holds the results of segments, if they are kept; `chain` names
the segments whose evaluation has begun and not ended. -/
structure Metadata where
  now : Moment
  rolloutGroup : Double
  cache : Option (List (String × Bool)) := some []
  chain : List String := []
  warnings : List Warning := []

namespace Metadata

def withoutCache (m : Metadata) : Metadata := { m with cache := none }

def cached? (m : Metadata) (segmentId : String) : Option Bool := do (← m.cache).lookup segmentId

def store (m : Metadata) (segmentId : String) (result : Bool) : Metadata :=
  { m with cache := m.cache.map ((segmentId, result) :: ·) }

def warn (m : Metadata) (w : Warning) : Metadata := { m with warnings := m.warnings ++ [w] }

def enter (m : Metadata) (segmentId : String) : Metadata :=
  { m with chain := segmentId :: m.chain }

def leave (m : Metadata) (segmentId : String) : Metadata :=
  { m with chain := m.chain.erase segmentId }

theorem cached?_store {m : Metadata} {id key : String} {result b : Bool}
    (h : (m.store key result).cached? id = some b) :
    m.cached? id = some b ∨ id = key ∧ b = result := by
  simp only [cached?, store] at h ⊢
  generalize m.cache = cache at h ⊢
  cases cache with
  | none => exact .inl h
  | some entries =>
    by_cases same : id = key
    · exact .inr ⟨same, by simpa [same] using h.symm⟩
    · exact .inl (by simpa [List.lookup_cons, beq_false_of_ne same] using h)

end Metadata

end FeatureFlags
