import FeatureFlags.Payload
import FeatureFlags.Proofs.Cycle
import FeatureFlags.Proofs.Percentage
import Mathlib.Data.List.Duplicate

namespace FeatureFlags

namespace Specification

inductive Contains (S : Specification) (cond : Condition) : Prop
  | rule : f ∈ S.featureFlags → r ∈ f.targeting.rules → r.conditionSet.Contains cond →
    Contains S cond
  | segment : s ∈ S.segments → s.conditionSet.Contains cond → Contains S cond

/-- What evaluation relies on. Rules count whether or not they are enabled. -/
structure Valid (S : Specification) : Prop where
  schemaVersion : S.schemaVersion = 1
  propertyIds : (S.properties.map (·.id)).Nodup
  segmentIds : (S.segments.map (·.id)).Nodup
  flagIds : (S.featureFlags.map (·.id)).Nodup
  flagNames : (S.featureFlags.map (·.name)).Nodup
  defaultTypes : ∀ f ∈ S.featureFlags, f.defaultValue.flagType = f.type
  ruleTypes : ∀ f ∈ S.featureFlags, ∀ r ∈ f.targeting.rules, ∀ e ∈ r.valuesOnMatch,
    e.value.flagType = f.type
  percentages : ∀ f ∈ S.featureFlags, ∀ r ∈ f.targeting.rules, ∀ e ∈ r.valuesOnMatch,
    RolloutEntry.IsPercentage e.rolloutPercentage
  totals : ∀ f ∈ S.featureFlags, ∀ r ∈ f.targeting.rules, r.valuesOnMatch ≠ [] →
    RolloutEntry.IsWhole (RolloutEntry.total r.valuesOnMatch)
  propertyReferences : ∀ t, S.Contains (.property t) →
    ∃ p ∈ S.properties, p.id = t.propertyId ∧ p.type = t.expects
  segmentReferences : ∀ id op, S.Contains (.segment id op) → ∃ s ∈ S.segments, s.id = id
  acyclic : ∀ id, ¬ Relation.TransGen (Segment.Refers S.segments) id id

end Specification

def Declared.ids (S : Specification) : Declared → List String
  | .property => S.properties.map (·.id)
  | .segment => S.segments.map (·.id)
  | .featureFlag => S.featureFlags.map (·.id)

def Violation.PresentIn (S : Specification) : Violation → Prop
  | .schemaVersion v => S.schemaVersion = v ∧ v ≠ 1
  | .duplicateId d id => List.Duplicate id (d.ids S)
  | .duplicateFlagName name => List.Duplicate name (S.featureFlags.map (·.name))
  | .valueType id expected => ∃ f ∈ S.featureFlags, f.id = id ∧ f.type = expected ∧
      (f.defaultValue.flagType ≠ expected ∨
        ∃ r ∈ f.targeting.rules, ∃ e ∈ r.valuesOnMatch, e.value.flagType ≠ expected)
  | .rolloutPercentage id i p => ∃ f ∈ S.featureFlags, f.id = id ∧
      ∃ r, f.targeting.rules[i]? = some r ∧ ∃ e ∈ r.valuesOnMatch, e.rolloutPercentage = p ∧
        ¬ RolloutEntry.IsPercentage p
  | .rolloutSum id i sum => ∃ f ∈ S.featureFlags, f.id = id ∧
      ∃ r, f.targeting.rules[i]? = some r ∧ r.valuesOnMatch ≠ [] ∧
        RolloutEntry.total r.valuesOnMatch = sum ∧ ¬ RolloutEntry.IsWhole sum
  | .unknownProperty id => (∃ t, S.Contains (.property t) ∧ t.propertyId = id) ∧
      ∀ p ∈ S.properties, p.id ≠ id
  | .propertyType id expected actual =>
      (∃ t, S.Contains (.property t) ∧ t.propertyId = id ∧ t.expects = expected) ∧
      (∃ p ∈ S.properties, p.id = id ∧ p.type = actual) ∧ actual ≠ expected
  | .unknownSegment id => (∃ op, S.Contains (.segment id op)) ∧ ∀ s ∈ S.segments, s.id ≠ id
  | .segmentCycle id => Relation.TransGen (Segment.Refers S.segments) id id

theorem duplicate_of_firstRepeated {ids seen : List String} {id : String}
    (h : firstRepeated seen ids = some id) : id ∈ seen ∧ id ∈ ids ∨ List.Duplicate id ids := by
  induction ids generalizing seen with
  | nil => cases h
  | cons s ids ih =>
    unfold firstRepeated at h
    split at h
    · next again =>
      obtain rfl := Option.some.inj h
      exact .inl ⟨again, .head _⟩
    · rcases ih h with ⟨here, later⟩ | twice
      · rcases List.mem_cons.1 here with rfl | here
        · exact .inr later.duplicate_cons_self
        · exact .inl ⟨here, .tail _ later⟩
      · exact .inr (twice.duplicate_cons s)

theorem nodup_of_firstRepeated {ids seen : List String} (h : firstRepeated seen ids = none) :
    ids.Nodup ∧ ∀ id ∈ ids, id ∉ seen := by
  induction ids generalizing seen with
  | nil => exact ⟨.nil, by simp⟩
  | cons s ids ih =>
    unfold firstRepeated at h
    split at h
    · cases h
    · next new =>
      obtain ⟨distinct, others⟩ := ih h
      refine ⟨List.nodup_cons.2 ⟨fun hs => others s hs (.head _), distinct⟩, ?_⟩
      intro id hid
      rcases List.mem_cons.1 hid with rfl | hid
      · exact new
      · exact fun earlier => others id hid (.tail _ earlier)

theorem FeatureFlag.forall_mem_values {f : FeatureFlag} {P : FlagValue → Prop} :
    (∀ v ∈ f.values, P v) ↔
      P f.defaultValue ∧ ∀ r ∈ f.targeting.rules, ∀ e ∈ r.valuesOnMatch, P e.value := by
  simp only [values, List.forall_mem_cons, List.forall_mem_flatMap, List.forall_mem_map]

namespace Specification

def Resolves (S : Specification) : Condition → Prop
  | .property t => ∃ p, S.property? t.propertyId = some p ∧ p.type = t.expects
  | .segment id _ => ∃ s, S.segment? id = some s
  | _ => True

variable {S : Specification}

theorem referenceViolation?_eq_none_iff {cond : Condition} :
    S.referenceViolation? cond = none ↔ S.Resolves cond := by
  cases cond with
  | property t =>
    simp only [referenceViolation?, Condition.propertyReference, Resolves]
    cases S.property? t.propertyId with
    | none => simp
    | some p => simp
  | segment id op =>
    simp [referenceViolation?, Condition.propertyReference, Condition.segmentReference, Resolves,
      Option.ne_none_iff_exists']
  | alwaysTrue => exact ⟨fun _ => trivial, fun _ => rfl⟩
  | set op cs => exact ⟨fun _ => trivial, fun _ => rfl⟩
  | dateTime t => exact ⟨fun _ => trivial, fun _ => rfl⟩

theorem property?_eq_none_iff {id : String} :
    S.property? id = none ↔ ∀ p ∈ S.properties, p.id ≠ id := by
  simp [property?_eq_find?]

theorem segment?_eq_none_iff {id : String} :
    S.segment? id = none ↔ ∀ s ∈ S.segments, s.id ≠ id := by
  simp [segment?_eq_find?]

theorem property?_mem {id : String} {p : Property} (h : S.property? id = some p) :
    p ∈ S.properties := by
  rw [property?_eq_find?] at h
  exact List.mem_of_find?_eq_some h

theorem presentIn_of_referenceViolation? {cond : Condition} {v : Violation}
    (standing : S.Contains cond) (h : S.referenceViolation? cond = some v) : v.PresentIn S := by
  cases cond with
  | property t =>
    simp only [referenceViolation?, Condition.propertyReference] at h
    cases found : S.property? t.propertyId with
    | none =>
      obtain rfl : Violation.unknownProperty t.propertyId = v := by simpa [found] using h
      exact ⟨⟨t, standing, rfl⟩, property?_eq_none_iff.1 found⟩
    | some p =>
      obtain ⟨differs, rfl⟩ : p.type ≠ t.expects ∧
          Violation.propertyType t.propertyId t.expects p.type = v := by simpa [found] using h
      exact ⟨⟨t, standing, rfl, rfl⟩, ⟨p, property?_mem found, property?_id found, rfl⟩, differs⟩
  | segment id op =>
    obtain ⟨missing, rfl⟩ : S.segment? id = none ∧ Violation.unknownSegment id = v := by
      simpa [referenceViolation?, Condition.propertyReference, Condition.segmentReference] using h
    exact ⟨⟨op, standing⟩, segment?_eq_none_iff.1 missing⟩
  | alwaysTrue => cases h
  | set op cs => cases h
  | dateTime t => cases h

theorem referencesViolation?_eq_none_iff {s : ConditionSet} :
    S.referencesViolation? s = none ↔ ∀ cond, s.Contains cond → S.Resolves cond := by
  simp [referencesViolation?, ConditionSet.mem_nested_iff, referenceViolation?_eq_none_iff]

theorem presentIn_of_referencesViolation? {s : ConditionSet} {v : Violation}
    (standing : ∀ cond, s.Contains cond → S.Contains cond) (h : S.referencesViolation? s = some v) :
    v.PresentIn S := by
  obtain ⟨cond, hcond, h⟩ := List.exists_of_findSome?_eq_some h
  exact presentIn_of_referenceViolation? (standing cond (ConditionSet.mem_nested_iff.1 hcond)) h

theorem presentIn_of_flagViolation? {f : FeatureFlag} {v : Violation}
    (declared : f ∈ S.featureFlags) (h : S.flagViolation? f = some v) : v.PresentIn S := by
  unfold flagViolation? at h
  split at h
  · next mistyped =>
    cases h
    refine ⟨f, declared, rfl, rfl, ?_⟩
    simpa [FeatureFlag.values, FlagValue.hasType] using mistyped
  · obtain ⟨⟨r, i⟩, hr, h⟩ := List.exists_of_findSome?_eq_some h
    have hr : f.targeting.rules[i]? = some r := List.mem_zipIdx_iff_getElem?.1 hr
    rcases (Option.orElse_eq_some _ _ _).1 h with h | ⟨-, h⟩
    · rcases RolloutEntry.of_violation?_eq_some h with ⟨e, he, rfl, wrong⟩ | ⟨rfl, wrong⟩
      · exact ⟨f, declared, rfl, r, hr, e, he, rfl, wrong⟩
      · exact ⟨f, declared, rfl, r, hr, wrong.1, rfl, wrong.2⟩
    · exact presentIn_of_referencesViolation?
        (fun _ => .rule declared (List.mem_of_getElem? hr)) h

theorem presentIn_of_violation? {v : Violation} (h : S.violation? = some v) : v.PresentIn S := by
  have repeated {ids : List String} {id : String} (h : firstRepeated [] ids = some id) :
      List.Duplicate id ids := by
    simpa using duplicate_of_firstRepeated h
  unfold violation? at h
  split at h
  · next version =>
    cases h
    exact ⟨rfl, by simpa [supportedSchemaVersion] using version⟩
  · simp only [Option.orElse_eq_some, Option.map_eq_some_iff, Option.map_eq_none_iff] at h
    rcases h with ⟨id, h, rfl⟩ | ⟨-, ⟨id, h, rfl⟩ | ⟨segmentIds, h⟩⟩
    · exact repeated h
    · exact repeated h
    rcases h with ⟨id, h, rfl⟩ | ⟨-, ⟨name, h, rfl⟩ | ⟨-, h | ⟨-, h | ⟨-, id, h, rfl⟩⟩⟩⟩
    · exact repeated h
    · exact repeated h
    · obtain ⟨f, declared, h⟩ := List.exists_of_findSome?_eq_some h
      exact presentIn_of_flagViolation? declared h
    · obtain ⟨s, declared, h⟩ := List.exists_of_findSome?_eq_some h
      exact presentIn_of_referencesViolation? (fun _ => .segment declared) h
    · -- segment ids were found distinct, so the walk follows every reference
      have cycle := Segment.transGen_of_onCycle? h
      rwa [Segment.follows_eq_refers (nodup_of_firstRepeated segmentIds).1] at cycle

theorem ruleViolation?_eq_none_iff {flagId : String} {r : Rule} {i : Nat} :
    S.ruleViolation? flagId r i = none ↔
      ((∀ e ∈ r.valuesOnMatch, RolloutEntry.IsPercentage e.rolloutPercentage) ∧
        (r.valuesOnMatch ≠ [] → RolloutEntry.IsWhole (RolloutEntry.total r.valuesOnMatch))) ∧
      ∀ cond, r.conditionSet.Contains cond → S.Resolves cond := by
  rw [ruleViolation?, Option.orElse_eq_none, RolloutEntry.violation?_eq_none_iff,
    referencesViolation?_eq_none_iff]

theorem flagViolation?_eq_none_iff {f : FeatureFlag} : S.flagViolation? f = none ↔
    (∀ v ∈ f.values, v.flagType = f.type) ∧ ∀ r ∈ f.targeting.rules,
      ((∀ e ∈ r.valuesOnMatch, RolloutEntry.IsPercentage e.rolloutPercentage) ∧
        (r.valuesOnMatch ≠ [] → RolloutEntry.IsWhole (RolloutEntry.total r.valuesOnMatch))) ∧
      ∀ cond, r.conditionSet.Contains cond → S.Resolves cond := by
  have types : f.values.any (!·.hasType f.type) = false ↔ ∀ v ∈ f.values, v.flagType = f.type := by
    simp [FlagValue.hasType]
  unfold flagViolation?
  conv => rhs; rw [← List.zipIdx_map_fst 0 f.targeting.rules, List.forall_mem_map]
  by_cases mistyped : f.values.any (!·.hasType f.type)
  · simp [mistyped, ← types]
  · simp only [mistyped, ← types, List.findSome?_eq_none_iff, ruleViolation?_eq_none_iff,
      Bool.false_eq_true, if_false, true_and]

theorem valid_of_violation?_eq_none (h : S.violation? = none) : S.Valid := by
  unfold violation? at h
  split at h
  · cases h
  next version =>
  simp only [Option.orElse_eq_none, Option.map_eq_none_iff, List.findSome?_eq_none_iff,
    flagViolation?_eq_none_iff, referencesViolation?_eq_none_iff] at h
  obtain ⟨propertyIds, segmentIds, flagIds, flagNames, flags, segments, cycles⟩ := h
  have segmentIds := (nodup_of_firstRepeated segmentIds).1
  have resolves (cond : Condition) : S.Contains cond → S.Resolves cond
    | .rule hf hr h => ((flags _ hf).2 _ hr).2 cond h
    | .segment hs h => segments _ hs cond h
  refine
    { schemaVersion := by simpa [supportedSchemaVersion] using version
      propertyIds := (nodup_of_firstRepeated propertyIds).1
      segmentIds
      flagIds := (nodup_of_firstRepeated flagIds).1
      flagNames := (nodup_of_firstRepeated flagNames).1
      defaultTypes := fun f hf => (FeatureFlag.forall_mem_values.1 (flags f hf).1).1
      ruleTypes := fun f hf => (FeatureFlag.forall_mem_values.1 (flags f hf).1).2
      percentages := fun f hf r hr => ((flags f hf).2 r hr).1.1
      totals := fun f hf r hr => ((flags f hf).2 r hr).1.2
      propertyReferences := fun t standing => ?_
      segmentReferences := fun id op standing => ?_
      acyclic := ?_ }
  · obtain ⟨p, found, type⟩ := resolves _ standing
    exact ⟨p, property?_mem found, property?_id found, type⟩
  · obtain ⟨s, found⟩ := resolves _ standing
    exact ⟨s, segment?_mem found, segment?_id found⟩
  · rw [← Segment.follows_eq_refers segmentIds]
    exact Segment.onCycle?_eq_none_iff.1 cycles

theorem Valid.not_presentIn (valid : S.Valid) (v : Violation) : ¬ v.PresentIn S := by
  intro present
  cases v with
  | schemaVersion version => exact present.2 (present.1.symm.trans valid.schemaVersion)
  | duplicateId d id =>
    have distinct : (d.ids S).Nodup := by
      cases d with
      | property => exact valid.propertyIds
      | segment => exact valid.segmentIds
      | featureFlag => exact valid.flagIds
    exact List.nodup_iff_forall_not_duplicate.1 distinct id present
  | duplicateFlagName name =>
    exact List.nodup_iff_forall_not_duplicate.1 valid.flagNames name present
  | valueType id expected =>
    obtain ⟨f, hf, -, rfl, wrong | ⟨r, hr, e, he, wrong⟩⟩ := present
    · exact wrong (valid.defaultTypes f hf)
    · exact wrong (valid.ruleTypes f hf r hr e he)
  | rolloutPercentage id i p =>
    obtain ⟨f, hf, -, r, hr, e, he, rfl, wrong⟩ := present
    exact wrong (valid.percentages f hf r (List.mem_of_getElem? hr) e he)
  | rolloutSum id i sum =>
    obtain ⟨f, hf, -, r, hr, nonempty, rfl, wrong⟩ := present
    exact wrong (valid.totals f hf r (List.mem_of_getElem? hr) nonempty)
  | unknownProperty id =>
    obtain ⟨⟨t, standing, rfl⟩, missing⟩ := present
    obtain ⟨p, hp, same, -⟩ := valid.propertyReferences t standing
    exact missing p hp same
  | propertyType id expected actual =>
    obtain ⟨⟨t, standing, rfl, rfl⟩, ⟨q, hq, named, rfl⟩, differs⟩ := present
    obtain ⟨p, hp, same, type⟩ := valid.propertyReferences t standing
    obtain rfl : p = q :=
      List.inj_on_of_nodup_map valid.propertyIds hp hq (same.trans named.symm)
    exact differs type
  | unknownSegment id =>
    obtain ⟨⟨op, standing⟩, missing⟩ := present
    obtain ⟨s, hs, same⟩ := valid.segmentReferences id op standing
    exact missing s hs same
  | segmentCycle id => exact valid.acyclic id present

theorem violation?_eq_none_iff : S.violation? = none ↔ S.Valid := by
  constructor
  · exact valid_of_violation?_eq_none
  · intro valid
    cases found : S.violation? with
    | none => rfl
    | some v => exact absurd (presentIn_of_violation? found) (valid.not_presentIn v)

theorem validate_eq_ok_iff : S.validate = .ok () ↔ S.violation? = none := by
  unfold validate
  cases S.violation? <;> simp

/-- Validation accepts the valid specifications, and of any other it reports a violation that is
there. -/
theorem validate_exact (S : Specification) :
    (S.validate = .ok () ↔ S.Valid) ∧
      (S.validate = .ok () ∨ ∃ v, S.validate = .error (.violation v) ∧ v.PresentIn S) := by
  refine ⟨validate_eq_ok_iff.trans violation?_eq_none_iff, ?_⟩
  cases found : S.violation? with
  | none => exact .inl (validate_eq_ok_iff.2 found)
  | some v => exact .inr ⟨v, by simp [validate, found], presentIn_of_violation? found⟩

end Specification

end FeatureFlags
