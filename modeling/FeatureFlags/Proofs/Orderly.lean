import FeatureFlags.Proofs.Memo
import FeatureFlags.Proofs.Resolution
import FeatureFlags.Proofs.Warning

namespace FeatureFlags

def PropertyValue.type : PropertyValue → PropertyType
  | .boolean _ => .boolean
  | .number _ => .number
  | .string _ => .string
  | .booleanArray _ => .booleanArray
  | .numberArray _ => .numberArray
  | .stringArray _ => .stringArray

theorem PropertyType.Reads.type_eq {type : PropertyType} {j : Json} {v : PropertyValue}
    (h : type.Reads j v) : v.type = type := by
  cases h <;> rfl

theorem Property.type_of_resolve {p : Property} {c : Context} {v : PropertyValue}
    (h : p.resolve c = .ok v) : v.type = p.type := by
  obtain ⟨j, -, read⟩ := resolve_eq_ok_iff.1 h
  exact (PropertyType.read?_eq_some_iff.1 read).type_eq

namespace Rollout

theorem select_mem (entries : List RolloutEntry) (group : Double) (fallback : FlagValue) :
    select entries group fallback = fallback ∨
      ∃ e ∈ entries, e.value = select entries group fallback := by
  have reached (total : Double) (es : List RolloutEntry) {e : RolloutEntry}
      (h : reach group total es = some e) : e ∈ es := by
    induction es generalizing total with
    | nil => cases h
    | cons d ds ih =>
      simp only [reach] at h
      split at h
      · cases h
        exact .head _
      · exact .tail _ (ih _ h)
  unfold select
  dsimp only
  split
  · next e found =>
    refine .inr ⟨e, ?_, rfl⟩
    rcases (Option.orElse_eq_some _ _ _).1 found with h | ⟨-, h⟩
    · exact List.mem_mergeSort.1 (reached _ _ h)
    · exact List.mem_mergeSort.1 (List.mem_of_getLast? h)
  · exact .inl rfl

end Rollout

variable {S : Specification} {c : Context} {m : Metadata}

theorem Rule.mem_of_firstMatch {i j : Nat} {rules : List Rule} {r : Rule}
    (h : (firstMatch S c i rules m).1 = some (j, r)) : r ∈ rules := by
  induction rules generalizing i m with
  | nil => cases h
  | cons d ds ih =>
    rw [firstMatch] at h
    split at h
    · split at h
      · cases h
        exact .head _
      · exact .tail _ (ih h)
    · exact .tail _ (ih h)

theorem FeatureFlag.evaluate_mem_values (f : FeatureFlag) (m : Metadata) :
    (f.evaluate S c m).1.value ∈ f.values := by
  unfold evaluate values
  split
  · split
    · next index r n found =>
      have declared : r ∈ f.targeting.rules :=
        Rule.mem_of_firstMatch (congrArg Prod.fst found)
      rcases Rollout.select_mem r.valuesOnMatch m.rolloutGroup f.defaultValue with h | ⟨e, he, h⟩
      · simp [h]
      · refine .tail _ (List.mem_flatMap.2 ⟨r, declared, ?_⟩)
        exact List.mem_map.2 ⟨e, he, h⟩
    · exact .head _
  · exact .head _

theorem Specification.Valid.resolves (valid : S.Valid) {cond : Condition}
    (standing : S.Contains cond) : S.Resolves cond := by
  cases cond with
  | property t =>
    obtain ⟨p, declared, same, type⟩ := valid.propertyReferences t standing
    refine ⟨p, ?_, type⟩
    rw [property?_eq_find?, ← same]
    exact find?_eq_some_of_nodup valid.propertyIds declared
  | segment id op =>
    obtain ⟨s, declared, rfl⟩ := valid.segmentReferences id op standing
    refine ⟨s, ?_⟩
    rw [segment?_eq_find?]
    exact find?_eq_some_of_nodup valid.segmentIds declared
  | alwaysTrue => trivial
  | set op cs => trivial
  | dateTime t => trivial

structure Specification.Admits (S : Specification) (cond : Condition) (m : Metadata) : Prop where
  resolves : ∀ d ∈ cond.nested, S.Resolves d
  avoids : S.Avoids m.chain cond

namespace Specification.Valid

theorem admits (valid : S.Valid) {s : ConditionSet}
    (standing : ∀ cond, s.Contains cond → S.Contains cond)
    (avoids : S.Avoids m.chain s.toCondition) : S.Admits s.toCondition m := by
  refine ⟨fun d nested => ?_, avoids⟩
  rcases List.mem_cons.1 (by simpa only [ConditionSet.toCondition, Condition.nested] using nested)
    with rfl | inside
  · trivial
  · exact valid.resolves (standing d (Condition.mem_nestedIn_iff.1 inside))

theorem admits_of_calls (valid : S.Valid) {x y : Condition × Metadata} (h : Condition.Calls S c x y)
    (admits : S.Admits x.1 x.2) : S.Admits y.1 y.2 := by
  cases h with
  | @element before m op after d =>
    have standing : d ∈ before ++ d :: after := by simp
    refine ⟨fun e nested => admits.resolves e ?_, ?_⟩
    · exact .tail _ (Condition.mem_nestedIn.2 ⟨d, standing, nested⟩)
    · rw [Outcome.chain_eq]
      exact admits.avoids.part (.element standing)
  | segment found =>
    have declared := Specification.segment?_mem found
    refine valid.admits (fun _ => .segment declared) ?_
    rw [Metadata.enter, Specification.segment?_id found]
    exact admits.avoids.enter valid.wellFounded_partOf found

theorem admits_of_evaluates (valid : S.Valid) {f : FeatureFlag} (declared : f ∈ S.featureFlags)
    (idle : m.chain = []) {x : Condition × Metadata} (h : f.Evaluates S c m x) :
    S.Admits x.1 x.2 := by
  induction h with
  | @rule before r after n targeted rules enabled passed =>
    have chain : n.chain = [] := by
      have := Rule.firstMatch_extends (S := S) (c := c) 0 before m
      rw [passed] at this
      exact this.chain.trans idle
    refine valid.admits (fun _ => .rule declared (by simp [rules])) ?_
    simp [Specification.Avoids, chain]
  | call _ call ih => exact valid.admits_of_calls call ih

end Specification.Valid

theorem PropertyTest.evaluate_cases {t : PropertyTest} {p : Property}
    (found : S.property? t.propertyId = some p) (type : p.type = t.expects) (m : Metadata) :
    (∃ v, p.resolve c = .ok v ∧ v.type = t.expects ∧
        (Condition.property t).evaluate S c m = (t.accepts v, m)) ∨
      ∃ e, p.resolve c = .error e ∧
        (Condition.property t).evaluate S c m = (false, m.warn (.ofLookup p e)) := by
  rw [Condition.evaluate, Condition.run_property, PropertyTest.run, found]
  dsimp only
  rw [if_pos type]
  cases resolved : p.resolve c with
  | ok v => exact .inl ⟨v, rfl, (Property.type_of_resolve resolved).trans type, rfl⟩
  | error e => exact .inr ⟨e, rfl, rfl⟩

structure FeatureFlag.Orderly (S : Specification) (c : Context) (f : FeatureFlag) (m : Metadata) :
    Prop where
  property : ∀ t n, f.Evaluates S c m (.property t, n) →
    ∃ p, S.property? t.propertyId = some p ∧ p.type = t.expects ∧
      ((∃ v, p.resolve c = .ok v ∧ v.type = t.expects ∧
          (Condition.property t).evaluate S c n = (t.accepts v, n)) ∨
        ∃ e, p.resolve c = .error e ∧
          (Condition.property t).evaluate S c n = (false, n.warn (.ofLookup p e)))
  warnings : ∀ x, f.Evaluates S c m x →
    (x.1.evaluate S c x.2).2.warnings <+: (f.evaluate S c m).2.warnings
  recorded : ∀ w ∈ (f.evaluate S c m).2.warnings, w ∈ m.warnings ∨
    ∃ t n p e, f.Evaluates S c m (.property t, n) ∧ S.property? t.propertyId = some p ∧
      p.resolve c = .error e ∧ w = .ofLookup p e
  segment : ∀ id op n, f.Evaluates S c m (.segment id op, n) →
    ∃ s, S.segment? id = some s ∧ s.id ∉ n.chain
  value : (f.evaluate S c m).1.value.flagType = f.type

/-- Flags of a validated specification are evaluated without a fault of the specification. -/
theorem FeatureFlag.orderly_of_validate {f : FeatureFlag} (valid : S.validate = .ok ())
    (declared : f ∈ S.featureFlags) (idle : m.chain = []) (c : Context) : f.Orderly S c m := by
  have valid : S.Valid :=
    Specification.violation?_eq_none_iff.1 (Specification.validate_eq_ok_iff.1 valid)
  constructor
  · intro t n evaluated
    have admits := valid.admits_of_evaluates declared idle evaluated
    obtain ⟨p, found, type⟩ := admits.resolves _ (Condition.mem_nested_self _)
    exact ⟨p, found, type, PropertyTest.evaluate_cases found type n⟩
  · exact fun x evaluated => evaluated.warnings
  · intro w hw
    refine (warns_of_mem hw).imp_right ?_
    rintro ⟨x, evaluated, t, n, p, e, path, found, -, resolved, rfl⟩
    exact ⟨t, n, p, e, evaluated.path path, found, resolved, rfl⟩
  · intro id op n evaluated
    have admits := valid.admits_of_evaluates declared idle evaluated
    obtain ⟨s, found⟩ := admits.resolves _ (Condition.mem_nested_self _)
    refine ⟨s, found, ?_⟩
    rw [Specification.segment?_id found]
    exact admits.avoids.not_mem
  · have types : ∀ v ∈ f.values, v.flagType = f.type :=
      forall_mem_values.2 ⟨valid.defaultTypes f declared, valid.ruleTypes f declared⟩
    exact types _ (f.evaluate_mem_values m)

def Specification.memberships : Specification where
  schemaVersion := 1
  featureFlags := [⟨"banner", "Banner", none, .boolean, .boolean false, true,
    [⟨true, ⟨.and, [.segment "members" .isTrue]⟩, [⟨.boolean true, RolloutEntry.hundred⟩]⟩]⟩]
  segments := [
    ⟨"members", "Members", none, .or, [.property (.boolean ⟨"member", .isTrue, [], .some⟩)]⟩]
  properties := [⟨"member", "Membership", ["member"], .boolean, false⟩]

theorem Specification.validate_memberships : memberships.validate = .ok () := by
  have rollout :
      RolloutEntry.violation? "banner" 0 [⟨.boolean true, RolloutEntry.hundred⟩] = none := by
    decide +kernel
  have targeted :
      memberships.referencesViolation? ⟨.and, [.segment "members" .isTrue]⟩ = none := by
    simp [referencesViolation?_eq_none_iff, ← ConditionSet.mem_nested_iff, Resolves,
      segment?_eq_find?, memberships, ConditionSet.nested, Condition.nestedIn, Condition.nested]
  have rule : memberships.ruleViolation? "banner"
      ⟨true, ⟨.and, [.segment "members" .isTrue]⟩, [⟨.boolean true, RolloutEntry.hundred⟩]⟩ 0 =
        none := by
    rw [ruleViolation?, rollout, targeted]
    rfl
  have flags : ∀ f ∈ memberships.featureFlags, memberships.flagViolation? f = none :=
    List.forall_mem_singleton.2 (by simp [flagViolation?, FeatureFlag.values, FlagValue.hasType,
      FlagValue.flagType, rule])
  have segments : ∀ s ∈ memberships.segments,
      memberships.referencesViolation? s.conditionSet = none := by
    simp [referencesViolation?_eq_none_iff, ← ConditionSet.mem_nested_iff, Resolves,
      property?_eq_find?, memberships, ConditionSet.nested, Condition.nestedIn, Condition.nested,
      PropertyTest.propertyId, PropertyTest.expects]
  have cycle : Segment.onCycle? memberships.segments = none :=
    Segment.onCycle?_eq_none_of_rank String.length (by decide)
  rw [validate_eq_ok_iff, violation?, List.findSome?_eq_none_iff.2 flags,
    List.findSome?_eq_none_iff.2 segments, cycle]
  rfl

theorem FeatureFlag.orderly_memberships :
    let m : Metadata := .fresh .memberships ⟨[]⟩ .epoch
    ∃ f ∈ Specification.memberships.featureFlags, f.Orderly .memberships ⟨[]⟩ m ∧
      ∃ t n, f.Evaluates .memberships ⟨[]⟩ m (.property t, n) ∧ n.chain = ["members"] := by
  intro m
  have orderly := orderly_of_validate Specification.validate_memberships (.head _) rfl ⟨[]⟩ (m := m)
  refine ⟨_, .head _, orderly, .boolean ⟨"member", .isTrue, [], .some⟩, m.enter "members", ?_, rfl⟩
  have members : Specification.memberships.segment? "members" =
      some Specification.memberships.segments[0] := by
    rw [Specification.segment?_eq_find?]
    rfl
  let f := Specification.memberships.featureFlags[0]
  have rule : f.Evaluates .memberships ⟨[]⟩ m (f.targeting.rules[0].conditionSet.toCondition, m) :=
    .rule rfl (List.nil_append _).symm rfl rfl
  exact ((rule.call .first).call (.segment members rfl List.not_mem_nil)).call .first

end FeatureFlags
