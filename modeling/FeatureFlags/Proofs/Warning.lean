import FeatureFlags.Evaluation.Flag
import FeatureFlags.Proofs.Stability

namespace FeatureFlags

variable {S : Specification} {c : Context} {m : Metadata}

namespace Rule

theorem firstMatch_append {i : Nat} {before : List Rule} {n : Metadata}
    (passed : firstMatch S c i before m = (none, n)) (rules : List Rule) :
    firstMatch S c i (before ++ rules) m = firstMatch S c (i + before.length) rules n := by
  induction before generalizing i m with
  | nil =>
    cases passed
    rfl
  | cons r rs ih =>
    have later : i + (r :: rs).length = i + 1 + rs.length := by
      rw [List.length_cons]
      omega
    rw [firstMatch] at passed
    rw [List.cons_append, firstMatch, later]
    split
    · next enabled =>
      rw [if_pos enabled] at passed
      split
      · next found =>
        rw [found] at passed
        cases passed
      · next indecisive =>
        rw [indecisive] at passed
        exact ih passed
    · next disabled =>
      rw [if_neg disabled] at passed
      exact ih passed

theorem firstMatch_extends (i : Nat) (rules : List Rule) (m : Metadata) :
    m.Extends (firstMatch S c i rules m).2 := by
  induction rules generalizing i m with
  | nil => exact .refl m
  | cons r rs ih =>
    have first : m.Extends (r.conditionSet.evaluate S c m).2 := Condition.run_extends _ m
    rw [firstMatch]
    split
    · split
      · next found =>
        rw [found] at first
        exact first
      · next passed =>
        rw [passed] at first
        exact first.trans (ih _ _)
    · exact ih _ _

end Rule

namespace FeatureFlag

inductive Evaluates (S : Specification) (c : Context) (f : FeatureFlag) (m : Metadata) :
    Condition × Metadata → Prop
  | rule : f.targeting.enabled → f.targeting.rules = before ++ r :: after → r.enabled →
    Rule.firstMatch S c 0 before m = (none, n) → Evaluates S c f m (r.conditionSet.toCondition, n)
  | call : Evaluates S c f m x → Condition.Calls S c x y → Evaluates S c f m y

end FeatureFlag

theorem firstDeciding_append {sought : Bool} {before : List Condition}
    (indecisive : (firstDeciding S c sought before m).holds = false) (conds : List Condition) :
    let n := (firstDeciding S c sought before m).metadata
    (firstDeciding S c sought (before ++ conds) m).holds =
        (firstDeciding S c sought conds n).holds ∧
      (firstDeciding S c sought (before ++ conds) m).metadata =
        (firstDeciding S c sought conds n).metadata := by
  induction before generalizing m with
  | nil =>
    rw [List.nil_append, firstDeciding_nil]
    exact ⟨rfl, rfl⟩
  | cons d ds ih =>
    rw [List.cons_append, firstDeciding, firstDeciding]
    rw [firstDeciding] at indecisive
    dsimp only at indecisive ⊢
    split at indecisive
    · cases indecisive
    · next other =>
      rw [if_neg other, if_neg other]
      exact ih indecisive

theorem firstDeciding_cons_extends (sought : Bool) (d : Condition) (ds : List Condition) :
    (d.run S c m).metadata.Extends (firstDeciding S c sought (d :: ds) m).metadata := by
  rw [firstDeciding]
  dsimp only
  split
  · exact .refl _
  · exact firstDeciding_extends sought (fun e _ k _ => e.run_extends k) rfl

namespace Condition

theorem metadata_run_set (op : SetOperator) (cs : List Condition) :
    ((set op cs).run S c m).metadata = (firstDeciding S c op.decisive cs m).metadata := by
  cases cs with
  | nil =>
    rw [run_empty, firstDeciding_nil]
  | cons d ds => rw [run_set]

theorem Calls.warnings {x y : Condition × Metadata} (h : Calls S c x y) :
    (y.1.run S c y.2).metadata.warnings <+: (x.1.run S c x.2).metadata.warnings := by
  cases h with
  | element indecisive =>
    dsimp only
    rw [metadata_run_set, (firstDeciding_append indecisive _).2]
    exact (firstDeciding_cons_extends ..).warnings
  | segment found new idle =>
    dsimp only
    rw [run_segment _ found]
    dsimp only
    rw [(Segment.run_of_not_mem_chain new idle).2]
    exact List.prefix_rfl

theorem Calls.first {op : SetOperator} {d : Condition} {ds : List Condition} :
    Calls S c (.set op (d :: ds), m) (d, m) := by
  have start : (firstDeciding S c op.decisive [] m).metadata = m := by rw [firstDeciding_nil]
  have call : Calls S c (.set op ([] ++ d :: ds), m)
      (d, (firstDeciding S c op.decisive [] m).metadata) :=
    .element (by rw [firstDeciding_nil])
  rwa [start] at call

/-- A property is tested for `x` whose value cannot be read. -/
def Warns (S : Specification) (c : Context) (x : Condition × Metadata) (w : Warning) : Prop :=
  ∃ t n p e, Relation.ReflTransGen (Calls S c) x (.property t, n) ∧
    S.property? t.propertyId = some p ∧ p.type = t.expects ∧ p.resolve c = .error e ∧
    w = .ofLookup p e

theorem Warns.of_calls {x y : Condition × Metadata} {w : Warning} (call : Calls S c x y)
    (h : Warns S c y w) : Warns S c x w := by
  obtain ⟨t, n, p, e, path, rest⟩ := h
  exact ⟨t, n, p, e, .head call path, rest⟩

theorem warns_of_mem_firstDeciding {op : SetOperator} {cs : List Condition} {w : Warning}
    (before after : List Condition)
    (each : ∀ y, Calls S c (.set op cs, m) y →
      w ∈ (y.1.run S c y.2).metadata.warnings → w ∈ y.2.warnings ∨ Warns S c y w)
    (parts : cs = before ++ after)
    (indecisive : (firstDeciding S c op.decisive before m).holds = false)
    (h : w ∈ (firstDeciding S c op.decisive after
      (firstDeciding S c op.decisive before m).metadata).metadata.warnings) :
    w ∈ (firstDeciding S c op.decisive before m).metadata.warnings ∨
      Warns S c (.set op cs, m) w := by
  induction after generalizing before with
  | nil => exact .inl (by simpa [firstDeciding_nil] using h)
  | cons d ds ih =>
    have call : Calls S c (.set op cs, m) (d, (firstDeciding S c op.decisive before m).metadata) :=
      parts ▸ .element indecisive
    have first := fun recorded => (each _ call recorded).imp_right (Warns.of_calls call)
    rw [firstDeciding] at h
    dsimp only at h
    split at h
    · exact first h
    · next other =>
      obtain ⟨holds, metadata⟩ := firstDeciding_append indecisive [d]
      simp only [firstDeciding, if_neg other] at holds metadata
      rcases ih (before ++ [d]) (by simp [parts]) holds (metadata ▸ h) with h | h
      · exact first (metadata ▸ h)
      · exact .inr h

theorem warns_of_mem {w : Warning} (x : Condition × Metadata)
    (h : w ∈ (x.1.run S c x.2).metadata.warnings) : w ∈ x.2.warnings ∨ Warns S c x w := by
  induction x using wellFounded_calls (S := S) (c := c) |>.induction with
  | _ x ih =>
  obtain ⟨cond, m⟩ := x
  dsimp only at h ⊢
  cases cond with
  | alwaysTrue =>
    rw [run_alwaysTrue] at h
    exact .inl h
  | dateTime t =>
    rw [run_dateTime] at h
    exact .inl h
  | property t =>
    rw [run_property, PropertyTest.run] at h
    cases found : S.property? t.propertyId with
    | none =>
      rw [found] at h
      exact .inl h
    | some p =>
      rw [found] at h
      dsimp only at h
      split at h
      · next type =>
        cases resolved : p.resolve c with
        | ok v =>
          rw [resolved] at h
          exact .inl h
        | error e =>
          rw [resolved] at h
          rcases List.mem_append.1 h with h | h
          · exact .inl h
          · exact .inr ⟨t, m, p, e, .refl, found, type, resolved, List.mem_singleton.1 h⟩
      · exact .inl h
  | set op cs =>
    rw [metadata_run_set] at h
    have start : (firstDeciding S c op.decisive [] m).metadata = m := by rw [firstDeciding_nil]
    have whole := warns_of_mem_firstDeciding [] cs ih rfl (by rw [firstDeciding_nil])
    rw [start] at whole
    exact whole h
  | segment id op =>
    cases found : S.segment? id with
    | none =>
      rw [run_missing op found] at h
      exact .inl h
    | some s =>
      rw [run_segment op found] at h
      dsimp only at h
      cases kept : m.cached? s.id with
      | some b =>
        rw [Segment.run_of_cached kept] at h
        exact .inl h
      | none =>
        by_cases idle : s.id ∉ m.chain
        · rw [(Segment.run_of_not_mem_chain kept idle).2] at h
          have call : Calls S c (.segment id op, m) (s.conditionSet.toCondition, m.enter s.id) :=
            .segment found kept idle
          exact (ih _ call h).imp_right (Warns.of_calls call)
        · rw [Segment.run_of_mem_chain kept (by simpa using idle)] at h
          exact .inl h

end Condition

namespace FeatureFlag

variable {f : FeatureFlag}

theorem metadata_evaluate (targeted : f.targeting.enabled) :
    (f.evaluate S c m).2 = (Rule.firstMatch S c 0 f.targeting.rules m).2 := by
  unfold evaluate
  rw [if_pos targeted]
  split <;> simp_all

theorem Evaluates.warnings {x : Condition × Metadata} (h : f.Evaluates S c m x) :
    (x.1.run S c x.2).metadata.warnings <+: (f.evaluate S c m).2.warnings := by
  induction h with
  | @rule before r after n targeted rules enabled passed =>
    rw [metadata_evaluate targeted, rules, Rule.firstMatch_append passed, Rule.firstMatch,
      if_pos enabled]
    split
    · next k found =>
      obtain rfl : (r.conditionSet.evaluate S c n).2 = k := congrArg Prod.snd found
      exact List.prefix_rfl
    · next k indecisive =>
      obtain rfl : (r.conditionSet.evaluate S c n).2 = k := congrArg Prod.snd indecisive
      exact (Rule.firstMatch_extends _ after _).warnings
  | call _ call ih => exact call.warnings.trans ih

theorem Evaluates.path {x y : Condition × Metadata} (h : f.Evaluates S c m x)
    (path : Relation.ReflTransGen (Condition.Calls S c) x y) : f.Evaluates S c m y := by
  induction path with
  | refl => exact h
  | tail _ call ih => exact ih.call call

theorem warns_of_mem_firstMatch {n : Metadata} {w : Warning} (before after : List Rule)
    (targeted : f.targeting.enabled) (parts : f.targeting.rules = before ++ after)
    (passed : Rule.firstMatch S c 0 before m = (none, n)) (i : Nat)
    (h : w ∈ (Rule.firstMatch S c i after n).2.warnings) :
    w ∈ n.warnings ∨ ∃ x, f.Evaluates S c m x ∧ Condition.Warns S c x w := by
  induction after generalizing before n i with
  | nil => exact .inl h
  | cons r rs ih =>
    have next := Rule.firstMatch_append passed [r]
    rw [Rule.firstMatch] at h next
    split at h
    · next enabled =>
      have own (recorded : w ∈ (r.conditionSet.evaluate S c n).2.warnings) :
          w ∈ n.warnings ∨ ∃ x, f.Evaluates S c m x ∧ Condition.Warns S c x w :=
        (Condition.warns_of_mem (_, n) recorded).imp_right
          fun warns => ⟨_, .rule targeted parts enabled passed, warns⟩
      rw [if_pos enabled] at next
      split at h
      · next found =>
        rw [found] at own
        exact own h
      · next k indecisive =>
        rw [indecisive] at own next
        rcases ih (before ++ [r]) (by simp [parts]) next _ h with h | h
        · exact own h
        · exact .inr h
    · next disabled =>
      rw [if_neg disabled] at next
      exact ih (before ++ [r]) (by simp [parts]) next _ h

theorem warns_of_mem {w : Warning} (h : w ∈ (f.evaluate S c m).2.warnings) :
    w ∈ m.warnings ∨ ∃ x, f.Evaluates S c m x ∧ Condition.Warns S c x w := by
  by_cases targeted : f.targeting.enabled
  · rw [metadata_evaluate targeted] at h
    exact warns_of_mem_firstMatch [] _ targeted rfl rfl 0 h
  · rw [evaluate, if_neg targeted] at h
    exact .inl h

end FeatureFlag

end FeatureFlags
