import FeatureFlags.Proofs.Orderly
import FeatureFlags.Proofs.Reading
import Mathlib.Order.Nat

namespace FeatureFlags

section

variable (S : Specification) (grounded : WellFounded S.PartOf) (c : Context)

def Rule.applies (now : Moment) (r : Rule) : Bool :=
  r.enabled && r.conditionSet.toCondition.meaning S grounded c now

def FeatureFlag.matching (now : Moment) (f : FeatureFlag) : Set Nat :=
  {i | ∃ r, f.targeting.rules[i]? = some r ∧ r.applies S grounded c now}

def Rule.Alike (r s : Rule) : Prop :=
  s = r ∨ r.enabled = false ∧ s.enabled = false

def FeatureFlag.withRules (f : FeatureFlag) (rules : List Rule) : FeatureFlag :=
  { f with targeting := { f.targeting with rules } }

/-- The first rule that matches decides, and the rules that are not enabled or come later may as
well be others. -/
structure FeatureFlag.Decided (f : FeatureFlag) (m : Metadata) : Prop where
  untargeted : f.targeting.enabled = false →
    (f.evaluate S c m).1 = ⟨f.defaultValue, .targetingDisabled⟩
  first : f.targeting.enabled → ∀ i r, IsLeast (f.matching S grounded c m.now) i →
    f.targeting.rules[i]? = some r →
      (f.evaluate S c m).1 =
        ⟨Rollout.select r.valuesOnMatch m.rolloutGroup f.defaultValue, .ruleMatch i⟩
  unmatched : f.targeting.enabled → f.matching S grounded c m.now = ∅ →
    (f.evaluate S c m).1 = ⟨f.defaultValue, .default⟩
  value : (f.evaluate S c m).1.value ∈ f.values
  others : ∀ (T : Specification) (rules : List Rule), T.segments = S.segments →
    T.properties = S.properties →
    (∀ j, (∀ i ∈ f.matching S grounded c m.now, j ≤ i) →
      Option.Rel Rule.Alike f.targeting.rules[j]? rules[j]?) →
    (f.withRules rules).evaluate T c m = f.evaluate S c m

end

variable {S T : Specification} {grounded : WellFounded S.PartOf} {c : Context} {m : Metadata}

theorem forall₂_of_rel_getElem? {R : α → β → Prop} {xs : List α} {ys : List β}
    (h : ∀ j : Nat, Option.Rel R xs[j]? ys[j]?) : List.Forall₂ R xs ys := by
  induction xs generalizing ys with
  | nil =>
    cases ys with
    | nil => exact .nil
    | cons y ys => cases h 0
  | cons x xs ih =>
    cases ys with
    | nil => cases h 0
    | cons y ys =>
      have first : Option.Rel R (some x) (some y) := h 0
      cases first with
      | some related => exact .cons related (ih fun j => h (j + 1))

namespace Rule

theorem tells (r : Rule) (sound : m.Sound S grounded c now) (idle : m.chain = []) :
    (r.conditionSet.toCondition.run S c m).Tells S grounded c now
      (r.conditionSet.toCondition.meaning S grounded c now) :=
  Condition.agrees _ m sound (by simp [Specification.Avoids, idle])

theorem firstMatch_of_applies {r : Rule} (found : r.applies S grounded c now)
    (sound : m.Sound S grounded c now) (idle : m.chain = []) (i : Nat) (rules : List Rule) :
    (firstMatch S c i (r :: rules) m).1 = some (i, r) := by
  obtain ⟨enabled, holds⟩ := Bool.and_eq_true_iff.1 found
  have result : (r.conditionSet.evaluate S c m).1 = true := (r.tells sound idle).holds.trans holds
  rw [firstMatch, if_pos enabled]
  split
  · rfl
  · next indecisive =>
    rw [indecisive] at result
    cases result

theorem firstMatch_of_not_applies {rules : List Rule}
    (passed : ∀ r ∈ rules, r.applies S grounded c now = false) (sound : m.Sound S grounded c now)
    (idle : m.chain = []) (i : Nat) :
    ∃ n, firstMatch S c i rules m = (none, n) ∧ n.Sound S grounded c now ∧ n.chain = [] := by
  induction rules generalizing i m with
  | nil => exact ⟨m, rfl, sound, idle⟩
  | cons r rs ih =>
    have others : ∀ d ∈ rs, d.applies S grounded c now = false := fun d hd =>
      passed d (.tail _ hd)
    rw [firstMatch]
    split
    · next enabled =>
      have tells := r.tells sound idle
      have indecisive : (r.conditionSet.evaluate S c m).1 = false := by
        have : r.conditionSet.toCondition.meaning S grounded c now = false := by
          simpa [Rule.applies, enabled] using passed r (.head _)
        exact tells.holds.trans this
      split
      · next found =>
        rw [found] at indecisive
        cases indecisive
      · next n same =>
        obtain rfl : (r.conditionSet.evaluate S c m).2 = n := congrArg Prod.snd same
        exact ih others tells.sound ((Outcome.chain_eq _).trans idle) (i + 1)
    · exact ih others sound idle (i + 1)

theorem firstMatch_alike {rules others : List Rule} (alike : List.Forall₂ Alike rules others)
    (i : Nat) (m : Metadata) : firstMatch S c i others m = firstMatch S c i rules m := by
  induction alike generalizing i m with
  | nil => rfl
  | cons same _ ih =>
    rw [firstMatch, firstMatch]
    rcases same with rfl | ⟨off, off'⟩
    · simp only [ih]
    · simp only [off, off', Bool.false_eq_true, if_false, ih]

theorem firstMatch_append_of_isSome {rules : List Rule} {i : Nat}
    (found : (firstMatch S c i rules m).1.isSome) (more : List Rule) :
    firstMatch S c i (rules ++ more) m = firstMatch S c i rules m := by
  induction rules generalizing i m with
  | nil => cases found
  | cons r rs ih =>
    rw [List.cons_append, firstMatch, firstMatch]
    rw [firstMatch] at found
    split
    · next enabled =>
      rw [if_pos enabled] at found
      split
      · rfl
      · next indecisive =>
        rw [indecisive] at found
        exact ih found
    · next disabled =>
      rw [if_neg disabled] at found
      exact ih found

end Rule

namespace FeatureFlag

variable {f : FeatureFlag}

theorem firstMatch_of_isLeast {i : Nat} {r : Rule} (least : IsLeast (f.matching S grounded c now) i)
    (stands : f.targeting.rules[i]? = some r) (sound : m.Sound S grounded c now)
    (idle : m.chain = []) (after : List Rule) :
    (Rule.firstMatch S c 0 (f.targeting.rules.take i ++ r :: after) m).1 = some (i, r) := by
  obtain ⟨⟨r', stands', found⟩, least⟩ := least
  obtain rfl : r = r' := Option.some.inj (stands.symm.trans stands')
  have passed : ∀ d ∈ f.targeting.rules.take i, d.applies S grounded c now = false := by
    intro d hd
    obtain ⟨j, hj⟩ := List.mem_iff_getElem?.1 hd
    rw [List.getElem?_take] at hj
    split at hj
    · next earlier =>
      by_contra other
      have : i ≤ j := least ⟨d, hj, by simpa using other⟩
      omega
    · cases hj
  have length : (f.targeting.rules.take i).length = i := by
    have := (List.getElem?_eq_some_iff.1 stands).1
    rw [List.length_take]
    omega
  obtain ⟨n, skipped, sound', idle'⟩ := Rule.firstMatch_of_not_applies passed sound idle 0
  rw [Rule.firstMatch_append skipped, Rule.firstMatch_of_applies found sound' idle', length,
    Nat.zero_add]

theorem firstMatch_of_matching_eq_empty (unmatched : f.matching S grounded c now = ∅)
    (sound : m.Sound S grounded c now) (idle : m.chain = []) :
    (Rule.firstMatch S c 0 f.targeting.rules m).1 = none := by
  have passed : ∀ r ∈ f.targeting.rules, r.applies S grounded c now = false := by
    intro r hr
    obtain ⟨i, stands⟩ := List.mem_iff_getElem?.1 hr
    by_contra other
    have : i ∈ f.matching S grounded c now := ⟨r, stands, by simpa using other⟩
    simp [unmatched] at this
  obtain ⟨n, skipped, -⟩ := Rule.firstMatch_of_not_applies passed sound idle 0
  rw [skipped]

theorem firstMatch_of_alike {rules : List Rule} (sound : m.Sound S grounded c now)
    (idle : m.chain = [])
    (alike : ∀ j, (∀ i ∈ f.matching S grounded c now, j ≤ i) →
      Option.Rel Rule.Alike f.targeting.rules[j]? rules[j]?) :
    Rule.firstMatch S c 0 rules m = Rule.firstMatch S c 0 f.targeting.rules m := by
  rcases (f.matching S grounded c now).eq_empty_or_nonempty with unmatched | matched
  · apply Rule.firstMatch_alike
    apply forall₂_of_rel_getElem?
    exact fun j => alike j (by simp [unmatched])
  · obtain ⟨i, least⟩ : ∃ i, IsLeast (f.matching S grounded c now) i := by
      classical exact ⟨_, matched.isLeast_natFind⟩
    obtain ⟨r, stands, -⟩ := least.1
    have upTo : f.targeting.rules.take (i + 1) = f.targeting.rules.take i ++ [r] := by
      rw [List.take_add_one, stands]
      rfl
    -- up to the first rule that matches the rules are alike; what comes after is not looked at
    have tried : List.Forall₂ Rule.Alike (f.targeting.rules.take (i + 1)) (rules.take (i + 1)) := by
      apply forall₂_of_rel_getElem?
      intro j
      rw [List.getElem?_take, List.getElem?_take]
      split
      · next earlier =>
        refine alike j fun k hk => ?_
        have := least.2 hk
        omega
      · exact .none
    have found : (Rule.firstMatch S c 0 (f.targeting.rules.take (i + 1)) m).1.isSome := by
      rw [upTo, firstMatch_of_isLeast least stands sound idle]
      rfl
    have same := Rule.firstMatch_alike (S := S) (c := c) tried 0 m
    have own := Rule.firstMatch_append_of_isSome found (f.targeting.rules.drop (i + 1))
    have other := Rule.firstMatch_append_of_isSome (same ▸ found) (rules.drop (i + 1))
    rw [List.take_append_drop] at own other
    rw [other, same, own]

theorem evaluate_of_eq (segments : T.segments = S.segments)
    (properties : T.properties = S.properties) (f : FeatureFlag) (m : Metadata) :
    f.evaluate T c m = f.evaluate S c m := by
  apply evaluate_congr
  intro r _ _ m
  apply Condition.run_congr fun id => by
    rw [Specification.segment?_eq_find?, Specification.segment?_eq_find?, segments]
  intro t _ m
  refine PropertyTest.run_congr ?_ (fun _ _ => rfl) m
  rw [Specification.property?_eq_find?, Specification.property?_eq_find?, properties]

/-- Against a validated specification the first enabled rule that holds in the plain meaning
decides, whatever the rules before it have left behind. -/
theorem decided_of_validate (valid : S.validate = .ok ()) (f : FeatureFlag) (c : Context)
    (idle : m.chain = []) (new : ∀ id, m.cached? id = none) :
    f.Decided S (Specification.wellFounded_of_validate valid) c m := by
  let grounded := Specification.wellFounded_of_validate valid
  have sound : m.Sound S grounded c m.now := m.sound_of_cached?_eq_none new
  constructor
  · intro off
    simp [evaluate, off]
  · intro on i r least stands
    have found := firstMatch_of_isLeast least stands sound idle (f.targeting.rules.drop (i + 1))
    have split : f.targeting.rules.take i ++ r :: f.targeting.rules.drop (i + 1) =
        f.targeting.rules := by
      obtain ⟨short, rfl⟩ := List.getElem?_eq_some_iff.1 stands
      rw [← List.drop_eq_getElem_cons short, List.take_append_drop]
    rw [split] at found
    rw [evaluate, if_pos on]
    split <;> simp_all
  · intro on unmatched
    have found := firstMatch_of_matching_eq_empty unmatched sound idle
    rw [evaluate, if_pos on]
    split <;> simp_all
  · exact f.evaluate_mem_values m
  · intro T rules segments properties alike
    rw [evaluate_of_eq segments properties, evaluate, evaluate]
    simp only [withRules, firstMatch_of_alike sound idle alike]

def tours : FeatureFlag :=
  ⟨"tours", "Tours", none, .boolean, .boolean false, true,
    [⟨false, ⟨.and, [.alwaysTrue]⟩, []⟩, ⟨true, ⟨.and, [.segment "visitors" .isTrue]⟩, []⟩,
      ⟨true, ⟨.or, [.segment "members" .isTrue]⟩, [⟨.boolean true, RolloutEntry.hundred⟩]⟩]⟩

end FeatureFlag

namespace Specification

def museum : Specification where
  schemaVersion := 1
  featureFlags := [.tours]
  segments := visitors.segments
  properties := visitors.properties

theorem validate_museum : museum.validate = .ok () := by
  have rollout :
      RolloutEntry.violation? "tours" 2 [⟨.boolean true, RolloutEntry.hundred⟩] = none := by
    decide +kernel
  have targeted : ∀ r ∈ FeatureFlag.tours.targeting.rules,
      museum.referencesViolation? r.conditionSet = none := by
    simp [referencesViolation?_eq_none_iff, ← ConditionSet.mem_nested_iff, Resolves,
      segment?_eq_find?, museum, visitors, FeatureFlag.tours, ConditionSet.nested,
      Condition.nestedIn, Condition.nested]
  have rules : ∀ r ∈ FeatureFlag.tours.targeting.rules.zipIdx,
      museum.ruleViolation? "tours" r.1 r.2 = none := by
    intro r hr
    have := targeted r.1 (List.fst_mem_of_mem_zipIdx hr)
    simp only [FeatureFlag.tours, List.zipIdx_cons, List.zipIdx_nil, List.mem_cons,
      List.not_mem_nil, or_false] at hr
    rw [ruleViolation?, this]
    rcases hr with rfl | rfl | rfl
    · rfl
    · rfl
    · rw [rollout]
      rfl
  have flags : ∀ f ∈ museum.featureFlags, museum.flagViolation? f = none :=
    List.forall_mem_singleton.2 ((if_neg (by decide)).trans (List.findSome?_eq_none_iff.2 rules))
  have segments : ∀ s ∈ museum.segments, museum.referencesViolation? s.conditionSet = none := by
    simp [referencesViolation?_eq_none_iff, ← ConditionSet.mem_nested_iff, Resolves,
      property?_eq_find?, segment?_eq_find?, museum, visitors, ConditionSet.nested,
      Condition.nestedIn, Condition.nested, PropertyTest.propertyId, PropertyTest.expects]
  have cycle : Segment.onCycle? museum.segments = none :=
    Segment.onCycle?_eq_none_of_rank String.length (by decide)
  rw [validate_eq_ok_iff, violation?, List.findSome?_eq_none_iff.2 flags,
    List.findSome?_eq_none_iff.2 segments, cycle]
  rfl

end Specification

namespace FeatureFlag

theorem decided_tours :
    let c : Context := ⟨[("member", .boolean true)]⟩
    let m : Metadata := { now := .epoch, rolloutGroup := .zero }
    let grounded := Specification.wellFounded_of_validate Specification.validate_museum
    tours.Decided .museum grounded c m ∧
      (tours.evaluate .museum c m).1 = ⟨.boolean true, .ruleMatch 2⟩ := by
  intro c m grounded
  have decided := tours.decided_of_validate Specification.validate_museum c (m := m) rfl
    fun _ => rfl
  refine ⟨decided, ?_⟩
  have members : Specification.museum.segment? "members" =
      some Specification.visitors.segments[0] := by
    rw [Specification.segment?_eq_find?]
    rfl
  have others : Specification.museum.segment? "visitors" =
      some Specification.visitors.segments[1] := by
    rw [Specification.segment?_eq_find?]
    rfl
  have member :
      PropertyTest.meaning .museum c (.boolean ⟨"member", .isTrue, [], .some⟩) = true := by
    rw [PropertyTest.meaning, Specification.property?_eq_find?]
    rfl
  have inside (op : SegmentOperator) :
      Condition.meaning .museum grounded c .epoch (.segment "members" op) = op.apply true := by
    rw [Condition.meaning_segment, members]
    change op.apply (Condition.meaning .museum _ c _ (.set .or [.property _])) = _
    simp [SetOperator.combine, member]
  have outside (op : SegmentOperator) :
      Condition.meaning .museum grounded c .epoch (.segment "visitors" op) = op.apply false := by
    rw [Condition.meaning_segment, others]
    change op.apply (Condition.meaning .museum _ c _ (.set .nor [.segment "members" .isTrue])) = _
    simp [SetOperator.combine, SegmentOperator.apply, inside]
  have least : IsLeast (tours.matching .museum grounded c .epoch) 2 := by
    refine ⟨⟨_, rfl, ?_⟩, ?_⟩
    · simp [Rule.applies, ConditionSet.toCondition, SetOperator.combine, SegmentOperator.apply,
        inside]
    · rintro j ⟨r, stands, found⟩
      by_contra earlier
      obtain rfl | rfl : j = 0 ∨ j = 1 := by omega
      · cases stands
        simp [Rule.applies] at found
      · cases stands
        simp [Rule.applies, ConditionSet.toCondition, SetOperator.combine, SegmentOperator.apply,
          outside] at found
  rw [decided.first rfl 2 _ least rfl]
  decide +kernel

end FeatureFlag

end FeatureFlags
