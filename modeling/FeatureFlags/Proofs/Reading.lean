import FeatureFlags.Proofs.Meaning
import FeatureFlags.Proofs.Warning

namespace FeatureFlags

variable {S T : Specification} {c d : Context} {m : Metadata}

theorem PropertyTest.run_congr {t : PropertyTest}
    (property : T.property? t.propertyId = S.property? t.propertyId)
    (resolved : ∀ p, S.property? t.propertyId = some p → p.resolve d = p.resolve c)
    (m : Metadata) : t.run T d m = t.run S c m := by
  unfold PropertyTest.run
  rw [property]
  cases found : S.property? t.propertyId with
  | none => rfl
  | some p => simp only [resolved p found]

theorem firstDeciding_congr (sought : Bool) {conds : List Condition} {chain : List String}
    (each : ∀ cond ∈ conds, ∀ m : Metadata, m.chain = chain → cond.run T d m = cond.run S c m)
    (same : m.chain = chain) : firstDeciding T d sought conds m = firstDeciding S c sought conds m := by
  induction conds generalizing m with
  | nil => rw [firstDeciding_nil, firstDeciding_nil]
  | cons cond conds ih =>
    have first := each cond (.head _) m same
    have rest := ih (m := (cond.run S c m).metadata) (fun e he => each e (.tail _ he))
      ((Outcome.chain_eq _).trans same)
    -- the type of the rest depends on the state that the first one leaves
    have holds : (firstDeciding T d sought conds (cond.run T d m).metadata).holds =
        (firstDeciding S c sought conds (cond.run S c m).metadata).holds := by rw [first, rest]
    have metadata : (firstDeciding T d sought conds (cond.run T d m).metadata).metadata =
        (firstDeciding S c sought conds (cond.run S c m).metadata).metadata := by rw [first, rest]
    rw [firstDeciding, firstDeciding]
    simp only [first, holds, metadata]

theorem Segment.run_congr {s : Segment} {inS : s ∈ S.segments} {inT : s ∈ T.segments}
    (inside : s.id ∉ m.chain → s.conditionSet.toCondition.run T d (m.enter s.id) =
      s.conditionSet.toCondition.run S c (m.enter s.id)) :
    s.run T d inT m = s.run S c inS m := by
  rw [Segment.run, Segment.run]
  split
  · rfl
  · split
    · rfl
    · next idle => simp only [inside idle]

theorem Condition.run_congr (segments : ∀ id, T.segment? id = S.segment? id) {cond : Condition}
    (tests : ∀ t, Relation.ReflTransGen S.PartOf (.property t) cond →
      ∀ m, t.run T d m = t.run S c m) (m : Metadata) : cond.run T d m = cond.run S c m := by
  suffices h : ∀ chain : List String, ∀ m : Metadata, m.chain = chain →
      cond.run T d m = cond.run S c m from h m.chain m rfl
  intro chain
  induction chain, cond using chainInduction S with
  | alwaysTrue =>
    intro m _
    rw [run_alwaysTrue, run_alwaysTrue]
  | property chain t =>
    intro m _
    rw [run_property, run_property, tests t .refl]
  | dateTime chain t =>
    intro m _
    rw [run_dateTime, run_dateTime]
  | set chain op cs ih =>
    have each (cond : Condition) (h : cond ∈ cs) :=
      ih cond h fun t path => tests t (path.tail (.element h))
    intro m same
    cases cs with
    | nil => rw [run_empty, run_empty]
    | cons first rest => rw [run_set, run_set, firstDeciding_congr op.decisive each same]
  | segment chain id op ih =>
    intro m same
    cases found : S.segment? id with
    | none => rw [run_missing op found, run_missing op (segments id ▸ found)]
    | some s =>
      have inside (idle : s.id ∉ m.chain) :=
        ih s found (same ▸ idle) (fun t path => tests t (path.tail (.segment found))) (m.enter s.id)
          (congrArg _ same)
      rw [run_segment op found, run_segment op ((segments id).trans found), Segment.run_congr inside]

theorem Rule.firstMatch_congr {rules : List Rule}
    (each : ∀ r ∈ rules, r.enabled → ∀ m,
      r.conditionSet.toCondition.run T d m = r.conditionSet.toCondition.run S c m) (i : Nat)
    (m : Metadata) : firstMatch T d i rules m = firstMatch S c i rules m := by
  induction rules generalizing i m with
  | nil => rfl
  | cons r rs ih =>
    have rest := ih fun r hr => each r (.tail _ hr)
    rw [firstMatch, firstMatch]
    split
    · next enabled =>
      simp only [ConditionSet.evaluate, Condition.evaluate, each r (.head _) enabled, rest]
    · exact rest (i + 1) m

theorem FeatureFlag.evaluate_congr {f : FeatureFlag}
    (each : ∀ r ∈ f.targeting.rules, r.enabled → ∀ m,
      r.conditionSet.toCondition.run T d m = r.conditionSet.toCondition.run S c m)
    (m : Metadata) : f.evaluate T d m = f.evaluate S c m := by
  unfold evaluate
  rw [Rule.firstMatch_congr each]

/-- The conditions that the evaluation of a flag may come to: those of its enabled rules, and what
these are made from. -/
inductive FeatureFlag.Reaches (S : Specification) (f : FeatureFlag) : Condition → Prop
  | rule : r ∈ f.targeting.rules → r.enabled → Reaches S f r.conditionSet.toCondition
  | part {cond part : Condition} : Reaches S f cond → S.PartOf part cond → Reaches S f part

structure FeatureFlag.Confuses (S : Specification) (f : FeatureFlag) (c d : Context) : Prop where
  discriminators : ∀ p ∈ S.properties, p.rolloutDiscriminator → p.resolve c = p.resolve d
  references : ∀ t p, f.Reaches S (.property t) → S.property? t.propertyId = some p →
    p.resolve c = p.resolve d

theorem Rollout.key_congr {properties : List Property}
    (same : ∀ p ∈ properties, p.rolloutDiscriminator → p.resolve c = p.resolve d) :
    key properties c = key properties d := by
  unfold key
  dsimp only
  congr 1
  apply List.filterMap_congr
  intro p hp
  obtain ⟨declared, discriminates⟩ := List.mem_filter.1 (List.mem_mergeSort.1 hp)
  rw [same p declared discriminates]

theorem FeatureFlag.Reaches.path {f : FeatureFlag} {cond part : Condition} (h : f.Reaches S cond)
    (path : Relation.ReflTransGen S.PartOf part cond) : f.Reaches S part := by
  induction path using Relation.ReflTransGen.head_induction_on with
  | refl => exact h
  | head step _ ih => exact ih.part step

/-- A flag has the same detail in two contexts that it cannot tell apart, from the same group and
with the same warnings. -/
theorem FeatureFlag.evaluate_of_confuses {f : FeatureFlag} (h : f.Confuses S c d) (now : Moment) :
    Rollout.group S.properties c = Rollout.group S.properties d ∧
      f.evaluate S c (.fresh S c now) = f.evaluate S d (.fresh S d now) := by
  have group : Rollout.group S.properties c = Rollout.group S.properties d := by
    unfold Rollout.group
    rw [Rollout.key_congr h.discriminators]
  refine ⟨group, ?_⟩
  have each : ∀ r ∈ f.targeting.rules, r.enabled → ∀ m,
      r.conditionSet.toCondition.run S c m = r.conditionSet.toCondition.run S d m := by
    intro r hr enabled
    apply Condition.run_congr fun _ => rfl
    intro t path
    have reached := (Reaches.rule hr enabled).path path
    exact PropertyTest.run_congr rfl fun p found => h.references t p reached found
  rw [evaluate_congr each, Metadata.fresh, Metadata.fresh, group]

def FeatureFlag.banner : FeatureFlag :=
  ⟨"banner", "Banner", none, .boolean, .boolean false, true,
    [⟨false, ⟨.and, [.property (.string ⟨"plan", .isNotBlank, [], .some⟩)]⟩, []⟩,
      ⟨true, ⟨.and, [.segment "members" .isTrue]⟩, [⟨.boolean true, .ofInt 50⟩]⟩]⟩

def Specification.club : Specification where
  schemaVersion := 1
  featureFlags := [.banner]
  segments := [
    ⟨"members", "Members", none, .or,
      [.property (.boolean ⟨"member", .isTrue, [], .some⟩), .segment "guests" .isFalse]⟩,
    ⟨"guests", "Guests", none, .nor, [.segment "members" .isTrue]⟩]
  properties := [⟨"user", "User", ["user"], .string, true⟩,
    ⟨"member", "Membership", ["member"], .boolean, false⟩,
    ⟨"plan", "Plan", ["plan"], .string, false⟩]

theorem FeatureFlag.reaches_banner {cond : Condition} (h : banner.Reaches .club cond)
    {t : PropertyTest} (nested : .property t ∈ cond.nested) : t.propertyId = "member" := by
  induction h with
  | rule hr enabled =>
    simp only [banner, List.mem_cons, List.not_mem_nil, or_false] at hr
    rcases hr with rfl | rfl
    · cases enabled
    · simp [ConditionSet.toCondition, Condition.nested, Condition.nestedIn] at nested
  | part _ part ih =>
    cases part with
    | element hd => exact ih (.tail _ (Condition.mem_nestedIn.2 ⟨_, hd, nested⟩))
    | segment found =>
      have declared := Specification.segment?_mem found
      simp only [Specification.club, List.mem_cons, List.not_mem_nil, or_false] at declared
      rcases declared with rfl | rfl
      · obtain rfl : t = .boolean ⟨"member", .isTrue, [], .some⟩ := by
          simpa [ConditionSet.toCondition, Condition.nested, Condition.nestedIn] using nested
        rfl
      · simp [ConditionSet.toCondition, Condition.nested, Condition.nestedIn] at nested

theorem FeatureFlag.evaluate_banner :
    let c : Context := ⟨[("plan", .string "gold"), ("user", .string "ann")]⟩
    let d : Context := ⟨[("hobby", .string "chess"), ("plan", .nat 7), ("user", .string "ann")]⟩
    banner.Confuses .club c d ∧ Rollout.group Specification.club.properties c =
        Rollout.group Specification.club.properties d ∧
      banner.evaluate .club c (.fresh .club c .epoch) =
        banner.evaluate .club d (.fresh .club d .epoch) := by
  intro c d
  have confuses : banner.Confuses .club c d := by
    constructor
    · intro p hp discriminates
      simp only [Specification.club, List.mem_cons, List.not_mem_nil, or_false] at hp
      rcases hp with rfl | rfl | rfl
      · rfl
      · cases discriminates
      · cases discriminates
    · intro t p reached found
      rw [reaches_banner reached (Condition.mem_nested_self _),
        Specification.property?_eq_find?] at found
      obtain rfl := Option.some.inj found
      rfl
  exact ⟨confuses, evaluate_of_confuses confuses .epoch⟩

end FeatureFlags
