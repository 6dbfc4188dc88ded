import FeatureFlags.Condition.Basic

namespace FeatureFlags

structure RolloutEntry where
  value : FlagValue
  rolloutPercentage : Double
  deriving DecidableEq

structure Rule where
  enabled : Bool
  conditionSet : ConditionSet
  valuesOnMatch : List RolloutEntry
  deriving BEq

structure Targeting where
  enabled : Bool
  rules : List Rule
  deriving BEq

structure FeatureFlag where
  id : String
  name : String
  description : Option String
  type : FlagType
  defaultValue : FlagValue
  targeting : Targeting
  deriving BEq

def FeatureFlag.values (f : FeatureFlag) : List FlagValue :=
  f.defaultValue :: f.targeting.rules.flatMap fun r => r.valuesOnMatch.map (·.value)

structure Segment where
  id : String
  name : String
  description : Option String
  conditionSet : ConditionSet
  deriving BEq

namespace Segment

def references (s : Segment) : List String := s.conditionSet.nested.filterMap (·.segmentReference)

def idle (segments : List Segment) (chain : List String) : Nat :=
  segments.countP fun s => !chain.contains s.id

theorem idle_lt {segments : List Segment} {s : Segment} {chain : List String}
    (declared : s ∈ segments) (h : s.id ∉ chain) :
    idle segments (s.id :: chain) < idle segments chain := by
  have mono (ts : List Segment) : idle ts (s.id :: chain) ≤ idle ts chain := by
    apply List.countP_mono_left
    intro t _ ht
    simp_all
  unfold idle at mono ⊢
  induction segments with
  | nil => cases declared
  | cons t ts ih =>
    have parts : t :: ts = [t] ++ ts := rfl
    rw [parts, List.countP_append, List.countP_append]
    have least := mono [t]
    rcases List.mem_cons.1 declared with rfl | declared
    · have rest := mono ts
      have : [s].countP (fun t => !(s.id :: chain).contains t.id) = 0 := by simp
      have : [s].countP (fun t => !chain.contains t.id) = 1 := by simp [h]
      omega
    · have rest := ih declared
      omega

end Segment

end FeatureFlags
