import FeatureFlags.Proofs.Reading
import FeatureFlags.Proofs.Validity
import FeatureFlags.Proofs.Rollout.Group

namespace FeatureFlags

open List (Perm)

theorem find?_eq_of_perm [DecidableEq κ] {as bs : List α} {keyOf : α → κ} (h : as.Perm bs)
    (distinct : (as.map keyOf).Nodup) (key : κ) :
    bs.find? (keyOf · = key) = as.find? (keyOf · = key) := by
  have distinct' : (bs.map keyOf).Nodup := (h.map keyOf).nodup_iff.1 distinct
  cases found : as.find? (keyOf · = key) with
  | none => simpa [h.mem_iff] using found
  | some a =>
    obtain rfl : keyOf a = key := by simpa using List.find?_some found
    exact find?_eq_some_of_nodup distinct' (h.mem_iff.1 (List.mem_of_find?_eq_some found))

namespace Specification

/-- The same declarations in another order. Rules, conditions and rollout entries stay in order. -/
structure Rearranged (S T : Specification) : Prop where
  schemaVersion : S.schemaVersion = T.schemaVersion
  featureFlags : Perm S.featureFlags T.featureFlags
  segments : Perm S.segments T.segments
  properties : Perm S.properties T.properties

structure Interchangeable (S T : Specification) : Prop where
  named : ∀ name, T.flagNamed? name = S.flagNamed? name
  identified : ∀ id, T.flag? id = S.flag? id
  group : ∀ c, Rollout.group T.properties c = Rollout.group S.properties c
  evaluate : ∀ (f : FeatureFlag) (c : Context) (now : Moment),
    f.evaluate T c (.fresh T c now) = f.evaluate S c (.fresh S c now)

variable {S T : Specification}

namespace Rearranged

theorem contains_iff (h : S.Rearranged T) {cond : Condition} :
    T.Contains cond ↔ S.Contains cond := by
  constructor
  · rintro (⟨hf, hr, inside⟩ | ⟨hs, inside⟩)
    · exact .rule (h.featureFlags.mem_iff.2 hf) hr inside
    · exact .segment (h.segments.mem_iff.2 hs) inside
  · rintro (⟨hf, hr, inside⟩ | ⟨hs, inside⟩)
    · exact .rule (h.featureFlags.mem_iff.1 hf) hr inside
    · exact .segment (h.segments.mem_iff.1 hs) inside

theorem refers_eq (h : S.Rearranged T) : Segment.Refers T.segments = Segment.Refers S.segments := by
  funext a b
  simp only [Segment.Refers, h.segments.mem_iff]

theorem valid (h : S.Rearranged T) (valid : S.Valid) : T.Valid where
  schemaVersion := h.schemaVersion ▸ valid.schemaVersion
  propertyIds := (h.properties.map _).nodup_iff.1 valid.propertyIds
  segmentIds := (h.segments.map _).nodup_iff.1 valid.segmentIds
  flagIds := (h.featureFlags.map _).nodup_iff.1 valid.flagIds
  flagNames := (h.featureFlags.map _).nodup_iff.1 valid.flagNames
  defaultTypes f hf := valid.defaultTypes f (h.featureFlags.mem_iff.2 hf)
  ruleTypes f hf := valid.ruleTypes f (h.featureFlags.mem_iff.2 hf)
  percentages f hf := valid.percentages f (h.featureFlags.mem_iff.2 hf)
  totals f hf := valid.totals f (h.featureFlags.mem_iff.2 hf)
  propertyReferences t standing := by
    obtain ⟨p, declared, found⟩ := valid.propertyReferences t (h.contains_iff.1 standing)
    exact ⟨p, h.properties.mem_iff.1 declared, found⟩
  segmentReferences id op standing := by
    obtain ⟨s, declared, found⟩ := valid.segmentReferences id op (h.contains_iff.1 standing)
    exact ⟨s, h.segments.mem_iff.1 declared, found⟩
  acyclic := h.refers_eq ▸ valid.acyclic

theorem group_eq (h : S.Rearranged T) (distinct : (S.properties.map (·.id)).Nodup) (c : Context) :
    Rollout.group T.properties c = Rollout.group S.properties c := by
  have discriminators : Perm (Rollout.discriminators S) (Rollout.discriminators T) :=
    h.properties.filter _
  have distinctS : ((Rollout.discriminators S).map (·.id)).Nodup :=
    distinct.sublist (List.filter_sublist.map _)
  have distinctT := (discriminators.map (·.id)).nodup_iff.1 distinctS
  refine (Rollout.group_of_pairs distinctS distinctT fun pair => ?_).symm
  constructor
  · exact fun ⟨hp, tells⟩ => .of (discriminators.mem_iff.1 hp) tells
  · exact fun ⟨hp, tells⟩ => .of (discriminators.mem_iff.2 hp) tells

theorem interchangeable (h : S.Rearranged T) (valid : S.Valid) : S.Interchangeable T := by
  have segments (id : String) : T.segment? id = S.segment? id := by
    rw [segment?_eq_find?, segment?_eq_find?, find?_eq_of_perm h.segments valid.segmentIds]
  have properties (id : String) : T.property? id = S.property? id := by
    rw [property?_eq_find?, property?_eq_find?, find?_eq_of_perm h.properties valid.propertyIds]
  have group := h.group_eq valid.propertyIds
  constructor
  · intro name
    rw [flagNamed?_eq_find?, flagNamed?_eq_find?, find?_eq_of_perm h.featureFlags valid.flagNames]
  · intro id
    rw [flag?_eq_find?, flag?_eq_find?, find?_eq_of_perm h.featureFlags valid.flagIds]
  · exact group
  · intro f c now
    have alike (t : PropertyTest) (m : Metadata) : t.run T c m = t.run S c m :=
      PropertyTest.run_congr (properties t.propertyId) (fun _ _ => rfl) m
    rw [FeatureFlag.evaluate_congr fun r _ _ => Condition.run_congr segments fun t _ => alike t,
      Metadata.fresh, Metadata.fresh, group c]

end Rearranged

/-- Declarations may be put in any order: the specification stays valid, and every flag is found and
evaluated as before, from the same rollout group and with the same warnings. -/
theorem interchangeable_of_rearranged (valid : S.validate = .ok ()) (h : S.Rearranged T) :
    T.validate = .ok () ∧ S.Interchangeable T := by
  have holds : S.Valid := violation?_eq_none_iff.1 (validate_eq_ok_iff.1 valid)
  exact ⟨validate_eq_ok_iff.2 (violation?_eq_none_iff.2 (h.valid holds)), h.interchangeable holds⟩

def library : Specification where
  schemaVersion := 1
  featureFlags := [
    ⟨"loans", "Longer loans", none, .boolean, .boolean false, true,
      [⟨true, ⟨.and, [.segment "regulars" .isTrue]⟩, [⟨.boolean true, RolloutEntry.hundred⟩]⟩]⟩,
    ⟨"fines", "No fines", none, .boolean, .boolean true, false, []⟩]
  segments := [⟨"regulars", "Regulars", none, .and, [.segment "adults" .isTrue]⟩,
    ⟨"adults", "Adults", none, .or, [.property (.boolean ⟨"adult", .isTrue, [], .some⟩)]⟩]
  properties := [⟨"town", "Town", ["town"], .string, true⟩,
    ⟨"card", "Card", ["card"], .string, true⟩, ⟨"adult", "Adult", ["adult"], .boolean, false⟩]

def libraryRearranged : Specification where
  schemaVersion := 1
  featureFlags := library.featureFlags.reverse
  segments := library.segments.reverse
  properties := library.properties.reverse

theorem validate_library : library.validate = .ok () := by
  have rollout :
      RolloutEntry.violation? "loans" 0 [⟨.boolean true, RolloutEntry.hundred⟩] = none := by
    decide +kernel
  have targeted : library.referencesViolation? ⟨.and, [.segment "regulars" .isTrue]⟩ = none := by
    simp [referencesViolation?_eq_none_iff, ← ConditionSet.mem_nested_iff, Resolves,
      segment?_eq_find?, library, ConditionSet.nested, Condition.nestedIn, Condition.nested]
  have rule : library.ruleViolation? "loans"
      ⟨true, ⟨.and, [.segment "regulars" .isTrue]⟩, [⟨.boolean true, RolloutEntry.hundred⟩]⟩ 0 =
        none := by
    rw [ruleViolation?, rollout, targeted]
    rfl
  have flags : ∀ f ∈ library.featureFlags, library.flagViolation? f = none := by
    intro f hf
    simp only [library, List.mem_cons, List.not_mem_nil, or_false] at hf
    rcases hf with rfl | rfl
    · simp [flagViolation?, FeatureFlag.values, FlagValue.hasType, FlagValue.flagType, rule]
    · simp [flagViolation?, FeatureFlag.values, FlagValue.hasType, FlagValue.flagType]
  have segments : ∀ s ∈ library.segments, library.referencesViolation? s.conditionSet = none := by
    simp [referencesViolation?_eq_none_iff, ← ConditionSet.mem_nested_iff, Resolves,
      property?_eq_find?, segment?_eq_find?, library, ConditionSet.nested, Condition.nestedIn,
      Condition.nested, PropertyTest.propertyId, PropertyTest.expects]
  have cycle : Segment.onCycle? library.segments = none :=
    Segment.onCycle?_eq_none_of_rank String.length (by decide)
  rw [validate_eq_ok_iff, violation?, List.findSome?_eq_none_iff.2 flags,
    List.findSome?_eq_none_iff.2 segments, cycle]
  rfl

theorem interchangeable_library : library.Rearranged libraryRearranged ∧
    libraryRearranged.validate = .ok () ∧ library.Interchangeable libraryRearranged := by
  have h : library.Rearranged libraryRearranged :=
    ⟨rfl, (List.reverse_perm _).symm, (List.reverse_perm _).symm, (List.reverse_perm _).symm⟩
  exact ⟨h, interchangeable_of_rearranged validate_library h⟩

end Specification

end FeatureFlags
