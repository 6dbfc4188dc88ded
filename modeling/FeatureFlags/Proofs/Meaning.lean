import FeatureFlags.Evaluation.Condition
import FeatureFlags.Proofs.Validity

namespace FeatureFlags

namespace Specification

inductive PartOf (S : Specification) : Condition → Condition → Prop
  | element : d ∈ cs → PartOf S d (.set op cs)
  | segment {id : String} : S.segment? id = some s →
    PartOf S s.conditionSet.toCondition (.segment id op)

end Specification

def SetOperator.combine (op : SetOperator) (results : List Bool) : Bool :=
  !results.isEmpty &&
    match op with
    | .and => results.all id
    | .or => results.any id
    | .nand => !results.all id
    | .nor => !results.any id

def PropertyTest.meaning (S : Specification) (c : Context) (t : PropertyTest) : Bool :=
  match S.property? t.propertyId with
  | none => false
  | some p =>
    if p.type = t.expects then
      match p.resolve c with
      | .ok v => t.accepts v
      | .error _ => false
    else false

/-- Every condition counts, in its place and as often as it stands there. -/
def Condition.meaning (S : Specification) (grounded : WellFounded S.PartOf) (c : Context)
    (now : Moment) (cond : Condition) : Bool :=
  match cond with
  | .alwaysTrue => true
  | .property t => t.meaning S c
  | .segment id op =>
    match _found : S.segment? id with
    | none => false
    | some s => op.apply (s.conditionSet.toCondition.meaning S grounded c now)
  | .set op cs => op.combine (cs.map (meaning S grounded c now))
  | .dateTime t => t.accepts now
termination_by grounded.wrap cond
decreasing_by
  · exact .segment _found
  · exact .element (by assumption)

namespace Specification

variable {S : Specification}

theorem acc_of_nested (cond : Condition)
    (segments : ∀ id op, .segment id op ∈ cond.nested → Acc S.PartOf (.segment id op)) :
    Acc S.PartOf cond := by
  induction cond with
  | alwaysTrue => exact ⟨_, fun d part => by cases part⟩
  | property t => exact ⟨_, fun d part => by cases part⟩
  | dateTime t => exact ⟨_, fun d part => by cases part⟩
  | segment id op => exact segments id op (Condition.mem_nested_self _)
  | set op cs ih =>
    refine ⟨_, fun d part => ?_⟩
    cases part with
    | element hd =>
      apply ih d hd
      intro id op' nested
      have : .segment id op' ∈ Condition.nestedIn cs := Condition.mem_nestedIn.2 ⟨d, hd, nested⟩
      exact segments id op' (by simp [Condition.nested, this])

theorem acc_segment {id : String} (grounded : Segment.Grounded S.segments id)
    (op : SegmentOperator) : Acc S.PartOf (.segment id op) := by
  -- a segment unfolds into its set, and that no further than the segments it refers to
  induction grounded generalizing op with
  | intro id _ ih =>
    refine ⟨_, fun d part => ?_⟩
    cases part with
    | @segment s _ _ found =>
      apply acc_of_nested
      intro id' op' nested
      have contains : s.conditionSet.Contains (.segment id' op') := by
        apply ConditionSet.mem_nested_iff.1
        simpa [ConditionSet.toCondition, ConditionSet.nested, Condition.nested] using nested
      rw [segment?_eq_find?] at found
      exact ih id' ⟨s, found, Segment.mem_references_iff.2 ⟨op', contains⟩⟩ op'

theorem wellFounded_partOf (acyclic : Segment.onCycle? S.segments = none) :
    WellFounded S.PartOf := by
  constructor
  intro cond
  apply acc_of_nested
  intro id op _
  exact acc_segment (Segment.grounded_of_onCycle?_eq_none acyclic id) op

theorem Valid.wellFounded_partOf (valid : S.Valid) : WellFounded S.PartOf := by
  apply Specification.wellFounded_partOf
  rw [Segment.onCycle?_eq_none_iff, Segment.follows_eq_refers valid.segmentIds]
  exact valid.acyclic

end Specification

namespace Condition

variable {S : Specification} {grounded : WellFounded S.PartOf} {c : Context} {now : Moment}

@[simp]
theorem meaning_alwaysTrue : meaning S grounded c now .alwaysTrue = true := by
  rw [meaning.eq_def]

@[simp]
theorem meaning_property (t : PropertyTest) :
    meaning S grounded c now (.property t) = t.meaning S c := by
  rw [meaning.eq_def]

@[simp]
theorem meaning_dateTime (t : DateTimeTest) :
    meaning S grounded c now (.dateTime t) = t.accepts now := by
  rw [meaning.eq_def]

@[simp]
theorem meaning_set (op : SetOperator) (cs : List Condition) :
    meaning S grounded c now (.set op cs) = op.combine (cs.map (meaning S grounded c now)) := by
  rw [meaning.eq_def]

theorem meaning_segment (id : String) (op : SegmentOperator) :
    meaning S grounded c now (.segment id op) =
      match S.segment? id with
      | none => false
      | some s => op.apply (meaning S grounded c now s.conditionSet.toCondition) := by
  rw [meaning.eq_def]
  dsimp only
  split <;> simp [*]

end Condition

end FeatureFlags
