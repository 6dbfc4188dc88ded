import FeatureFlags.Evaluation.Condition
import FeatureFlags.Proofs.Nesting
import Mathlib.Order.WellFounded

/-!
Evaluation against any specification, valid or not. It ends, gives back the chain that it was given
and changes nothing that was kept; and evaluated again at once, a condition has the same result.
-/

namespace FeatureFlags

namespace Condition

inductive Calls (S : Specification) (c : Context) :
    Condition × Metadata → Condition × Metadata → Prop
  | element {d : Condition} : (firstDeciding S c op.decisive before m).holds = false →
    Calls S c (.set op (before ++ d :: after), m)
      (d, (firstDeciding S c op.decisive before m).metadata)
  | segment {id : String} : S.segment? id = some s → m.cached? s.id = none → s.id ∉ m.chain →
    Calls S c (.segment id op, m) (s.conditionSet.toCondition, m.enter s.id)

theorem chainInduction (S : Specification) {motive : List String → Condition → Prop}
    (alwaysTrue : ∀ chain, motive chain .alwaysTrue)
    (property : ∀ chain t, motive chain (.property t))
    (dateTime : ∀ chain t, motive chain (.dateTime t))
    (set : ∀ chain op cs, (∀ d ∈ cs, motive chain d) → motive chain (.set op cs))
    (segment : ∀ chain id op,
      (∀ s, S.segment? id = some s → s.id ∉ chain →
        motive (s.id :: chain) s.conditionSet.toCondition) →
      motive chain (.segment id op))
    (chain : List String) (cond : Condition) : motive chain cond := by
  -- fewer segments are idle in a longer chain
  induction idle : Segment.idle S.segments chain using Nat.strong_induction_on
    generalizing chain cond with
  | _ n outer =>
  induction cond with
  | alwaysTrue => exact alwaysTrue chain
  | property t => exact property chain t
  | dateTime t => exact dateTime chain t
  | set op cs ih => exact set chain op cs ih
  | segment id op =>
    apply segment
    intro s found fresh
    have less := Segment.idle_lt (Specification.segment?_mem found) fresh
    exact outer _ (idle ▸ less) _ _ rfl

variable {S : Specification} {c : Context}

theorem acc_calls (chain : List String) (cond : Condition) :
    ∀ m : Metadata, m.chain = chain → Acc (fun y x => Calls S c x y) (cond, m) := by
  induction chain, cond using chainInduction S with
  | alwaysTrue => exact fun m _ => ⟨_, fun y call => by cases call⟩
  | property => exact fun m _ => ⟨_, fun y call => by cases call⟩
  | dateTime => exact fun m _ => ⟨_, fun y call => by cases call⟩
  | set chain op cs ih =>
    refine fun m same => ⟨_, fun y call => ?_⟩
    cases call with
    | element => exact ih _ (by simp) _ ((Outcome.chain_eq _).trans same)
  | segment chain id op ih =>
    refine fun m same => ⟨_, fun y call => ?_⟩
    cases call with
    | segment found new idle => exact ih _ found (same ▸ idle) _ (congrArg _ same)

theorem wellFounded_calls : WellFounded fun y x => Calls S c x y :=
  ⟨fun (cond, m) => acc_calls m.chain cond m rfl⟩

end Condition

structure Metadata.Extends (m n : Metadata) : Prop where
  now : n.now = m.now
  chain : n.chain = m.chain
  keeps : n.cache.isSome = m.cache.isSome
  kept : ∀ id b, m.cached? id = some b → n.cached? id = some b
  inProgress : ∀ id ∈ m.chain, m.cached? id = none → n.cached? id = none
  warnings : m.warnings <+: n.warnings

namespace Metadata

variable {m n : Metadata}

theorem cached?_store_self (kept : m.cache.isSome) (id : String) (b : Bool) :
    (m.store id b).cached? id = some b := by
  obtain ⟨entries, cache⟩ := Option.isSome_iff_exists.1 kept
  simp [cached?, store, cache]

theorem cached?_store_of_ne {id key : String} (other : id ≠ key) (b : Bool) :
    (m.store key b).cached? id = m.cached? id := by
  unfold cached? store
  cases m.cache with
  | none => rfl
  | some entries => simp [List.lookup_cons, beq_false_of_ne other]

theorem cached?_of_isSome_eq_false (off : m.cache.isSome = false) (id : String) :
    m.cached? id = none := by
  have : m.cache = none := by simpa using off
  simp [cached?, this]

namespace Extends

theorem refl (m : Metadata) : m.Extends m :=
  ⟨rfl, rfl, rfl, fun _ _ h => h, fun _ _ h => h, List.prefix_rfl⟩

theorem trans {k : Metadata} (h : m.Extends n) (g : n.Extends k) : m.Extends k where
  now := g.now.trans h.now
  chain := g.chain.trans h.chain
  keeps := g.keeps.trans h.keeps
  kept id b kept := g.kept id b (h.kept id b kept)
  inProgress id mem new := g.inProgress id (h.chain.symm ▸ mem) (h.inProgress id mem new)
  warnings := h.warnings.trans g.warnings

theorem warn (m : Metadata) (w : Warning) : m.Extends (m.warn w) :=
  ⟨rfl, rfl, rfl, fun _ _ h => h, fun _ _ h => h, List.prefix_append _ _⟩

theorem store_leave {id : String} (new : m.cached? id = none) (idle : id ∉ m.chain)
    (h : (m.enter id).Extends n) (b : Bool) : m.Extends ((n.leave id).store id b) where
  now := h.now
  chain := by simp [store, leave, h.chain, enter]
  keeps := by simpa [store, leave, enter] using h.keeps
  kept key b' kept := by
    have other : key ≠ id := by
      rintro rfl
      simp [new] at kept
    rw [cached?_store_of_ne other]
    exact h.kept key b' kept
  inProgress key mem absent := by
    have other : key ≠ id := fun same => idle (same ▸ mem)
    rw [cached?_store_of_ne other]
    exact h.inProgress key (.tail _ mem) absent
  warnings := h.warnings

end Extends

end Metadata

variable {S : Specification} {c : Context} {m n : Metadata}

theorem PropertyTest.run_extends (t : PropertyTest) (m : Metadata) :
    m.Extends (t.run S c m).metadata := by
  unfold PropertyTest.run
  cases S.property? t.propertyId with
  | none => exact .refl m
  | some p =>
    dsimp only
    split
    · cases p.resolve c with
      | ok v => exact .refl m
      | error e => exact .warn m _
    · exact .refl m

theorem PropertyTest.holds_run_eq (t : PropertyTest) :
    (t.run S c n).holds = (t.run S c m).holds := by
  unfold PropertyTest.run
  grind

theorem firstDeciding_nil (sought : Bool) : firstDeciding S c sought [] m = ⟨false, m, rfl⟩ := by
  rw [firstDeciding]

theorem firstDeciding_extends (sought : Bool) {conds : List Condition} {chain : List String}
    (each : ∀ d ∈ conds, ∀ m : Metadata, m.chain = chain → m.Extends (d.run S c m).metadata)
    (same : m.chain = chain) : m.Extends (firstDeciding S c sought conds m).metadata := by
  induction conds generalizing m with
  | nil =>
    rw [firstDeciding_nil]
    exact .refl m
  | cons cond conds ih =>
    have first := each cond (.head _) m same
    rw [firstDeciding]
    dsimp only
    split
    · exact first
    · exact first.trans (ih (fun d hd => each d (.tail _ hd)) (first.chain.trans same))

theorem Segment.run_extends {s : Segment} (declared : s ∈ S.segments)
    (inside : s.id ∉ m.chain →
      (m.enter s.id).Extends (s.conditionSet.toCondition.run S c (m.enter s.id)).metadata) :
    m.Extends (s.run S c declared m).metadata := by
  rw [Segment.run]
  split
  · exact .refl m
  · next new =>
    split
    · exact .refl m
    · next idle => exact .store_leave new idle (inside idle) _

namespace Condition

theorem run_extends (cond : Condition) (m : Metadata) : m.Extends (cond.run S c m).metadata := by
  -- the induction is on segments that are idle, so the chain is fixed before the metadata
  suffices h : ∀ chain : List String, ∀ m : Metadata, m.chain = chain →
      m.Extends (cond.run S c m).metadata from h m.chain m rfl
  intro chain
  induction chain, cond using chainInduction S with
  | alwaysTrue =>
    intro m _
    rw [run_alwaysTrue]
    exact .refl m
  | property chain t =>
    intro m _
    rw [run_property]
    exact t.run_extends m
  | dateTime =>
    intro m _
    rw [run_dateTime]
    exact .refl m
  | set chain op cs ih =>
    intro m same
    cases cs with
    | nil =>
      rw [run_empty]
      exact .refl m
    | cons first rest =>
      rw [run_set]
      exact firstDeciding_extends op.decisive ih same
  | segment chain id op ih =>
    intro m same
    cases found : S.segment? id with
    | none =>
      rw [run_missing op found]
      exact .refl m
    | some s =>
      rw [run_segment op found]
      refine Segment.run_extends _ fun idle => ?_
      exact ih s found (same ▸ idle) _ (congrArg _ same)

def Repeats (S : Specification) (c : Context) (cond : Condition) (m : Metadata) : Prop :=
  ∀ n : Metadata, (cond.run S c m).metadata.Extends n →
    (cond.run S c n).holds = (cond.run S c m).holds

end Condition

theorem firstDeciding_repeats (sought : Bool) {conds : List Condition} {chain : List String}
    (each : ∀ d ∈ conds, ∀ m : Metadata, m.chain = chain → d.Repeats S c m) (same : m.chain = chain)
    (later : (firstDeciding S c sought conds m).metadata.Extends n) :
    (firstDeciding S c sought conds n).holds = (firstDeciding S c sought conds m).holds := by
  induction conds generalizing m n with
  | nil => rw [firstDeciding_nil, firstDeciding_nil]
  | cons cond conds ih =>
    rw [firstDeciding] at later
    dsimp only at later
    rw [firstDeciding, firstDeciding]
    dsimp only
    split at later
    · next decisive =>
      have again := each cond (.head _) m same n later
      rw [if_pos decisive, if_pos (again.trans decisive)]
    · next indecisive =>
      have first := cond.run_extends (S := S) (c := c) m
      have chain_eq := first.chain.trans same
      have rest : (cond.run S c m).metadata.Extends
          (firstDeciding S c sought conds (cond.run S c m).metadata).metadata :=
        firstDeciding_extends sought (fun d _ k _ => d.run_extends k) chain_eq
      have again := each cond (.head _) m same n (rest.trans later)
      rw [if_neg indecisive, if_neg (again ▸ indecisive)]
      exact ih (fun d hd => each d (.tail _ hd)) chain_eq (later.trans (cond.run_extends n))

theorem Metadata.Extends.enter_again {k : Metadata} {key : String} {b : Bool}
    (off : m.cache.isSome = false) (inner : (m.enter key).Extends n)
    (later : ((n.leave key).store key b).Extends k) : n.Extends (k.enter key) := by
  have chain : n.chain = key :: m.chain := inner.chain
  have innerOff : n.cache.isSome = false := inner.keeps.trans off
  have laterOff : k.cache.isSome = false :=
    later.keeps.trans (by simpa [store, leave] using innerOff)
  constructor
  · exact later.now
  · rw [chain, enter, later.chain]
    simp [store, leave, chain]
  · exact laterOff.trans innerOff.symm
  · intro id b' kept
    rw [cached?_of_isSome_eq_false innerOff] at kept
    cases kept
  · intro id _ _
    exact cached?_of_isSome_eq_false (m := k.enter key) laterOff id
  · exact later.warnings

namespace Segment

variable {s : Segment} {declared : s ∈ S.segments}

theorem run_of_cached {b : Bool} (kept : m.cached? s.id = some b) :
    s.run S c declared m = ⟨b, m, rfl⟩ := by
  rw [run]
  split <;> simp_all

theorem run_of_mem_chain (new : m.cached? s.id = none) (inProgress : s.id ∈ m.chain) :
    s.run S c declared m = ⟨false, m, rfl⟩ := by
  rw [run]
  split <;> simp_all

theorem run_of_not_mem_chain (new : m.cached? s.id = none) (idle : s.id ∉ m.chain) :
    let r := s.conditionSet.toCondition.run S c (m.enter s.id)
    (s.run S c declared m).holds = r.holds ∧
      (s.run S c declared m).metadata = (r.metadata.leave s.id).store s.id r.holds := by
  rw [run]
  split <;> simp_all

theorem run_repeats
    (inside : s.id ∉ m.chain → s.conditionSet.toCondition.Repeats S c (m.enter s.id))
    (later : (s.run S c declared m).metadata.Extends n) :
    (s.run S c declared n).holds = (s.run S c declared m).holds := by
  cases kept : m.cached? s.id with
  | some b =>
    rw [run_of_cached kept] at later ⊢
    rw [run_of_cached (later.kept _ _ kept)]
  | none =>
    by_cases idle : s.id ∉ m.chain
    · obtain ⟨holds, metadata⟩ := run_of_not_mem_chain (c := c) kept idle
      rw [metadata] at later
      rw [holds]
      have inner := s.conditionSet.toCondition.run_extends (S := S) (c := c) (m.enter s.id)
      cases on : m.cache.isSome with
      | true =>
        have stored := Metadata.cached?_store_self (inner.keeps.trans on) s.id
        rw [run_of_cached (later.kept _ _ (stored _))]
      | false =>
        have follows := Metadata.Extends.enter_again on inner later
        have absent : n.cached? s.id = none :=
          Metadata.cached?_of_isSome_eq_false (follows.keeps.trans (inner.keeps.trans on)) s.id
        have stillIdle : s.id ∉ n.chain := by
          have := follows.chain.trans inner.chain
          simp only [Metadata.enter, List.cons.injEq, true_and] at this
          exact this ▸ idle
        rw [(run_of_not_mem_chain absent stillIdle).1]
        exact inside idle _ follows
    · have inProgress : s.id ∈ m.chain := by simpa using idle
      rw [run_of_mem_chain kept inProgress] at later ⊢
      have still := later.inProgress _ inProgress kept
      rw [run_of_mem_chain still (later.chain ▸ inProgress)]

end Segment

theorem Condition.repeats (cond : Condition) (m : Metadata) : cond.Repeats S c m := by
  suffices h : ∀ chain : List String, ∀ m : Metadata, m.chain = chain → cond.Repeats S c m from
    h m.chain m rfl
  intro chain
  induction chain, cond using chainInduction S with
  | alwaysTrue =>
    intro m _ n _
    simp only [run_alwaysTrue]
  | property chain t =>
    intro m _ n _
    rw [run_property, run_property]
    exact t.holds_run_eq
  | dateTime chain t =>
    intro m _ n later
    rw [run_dateTime] at later ⊢
    rw [run_dateTime, later.now]
  | set chain op cs ih =>
    intro m same n later
    cases cs with
    | nil => rw [run_empty, run_empty]
    | cons first rest =>
      rw [run_set] at later ⊢
      rw [run_set]
      exact congrArg op.conclude (firstDeciding_repeats op.decisive ih same later)
  | segment chain id op ih =>
    intro m same n later
    cases found : S.segment? id with
    | none => rw [run_missing op found, run_missing op found]
    | some s =>
      rw [run_segment op found] at later ⊢
      rw [run_segment op found]
      refine congrArg op.apply (Segment.run_repeats (fun idle => ?_) later)
      exact ih s found (same ▸ idle) _ (congrArg _ same)

/-- Whatever the references of a specification are, evaluation ends: none has others evaluated
without end. It leaves the chain as it was and every result that was kept, and evaluating the
condition again at once gives the same result. -/
theorem Condition.evaluate_settles (S : Specification) (c : Context) :
    (WellFounded fun y x => Calls S c x y) ∧
      ∀ (cond : Condition) (m : Metadata),
        (cond.evaluate S c m).2.chain = m.chain ∧
        (∀ id b, m.cached? id = some b → (cond.evaluate S c m).2.cached? id = some b) ∧
        (cond.evaluate S c (cond.evaluate S c m).2).1 = (cond.evaluate S c m).1 := by
  refine ⟨wellFounded_calls, fun cond m => ?_⟩
  have extended := cond.run_extends (S := S) (c := c) m
  exact ⟨extended.chain, extended.kept, cond.repeats m _ (.refl _)⟩

end FeatureFlags
