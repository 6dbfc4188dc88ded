import FeatureFlags.Specification
import FeatureFlags.Evaluation.Metadata

namespace FeatureFlags

namespace Specification

theorem segment?_mem {S : Specification} {id : String} {s : Segment} (h : S.segment? id = some s) :
    s ∈ S.segments := by
  simp only [segment?, Option.bind_eq_bind, Option.bind_eq_some_iff] at h
  obtain ⟨i, _, h⟩ := h
  exact List.mem_of_getElem? h

end Specification

/-- The result of a part of an evaluation and the state it leaves: whatever it began has ended. -/
structure Outcome (chain : List String) where
  holds : Bool
  metadata : Metadata
  chain_eq : metadata.chain = chain

/-- A property that is not declared, or not with the type expected, makes the test false without a
warning; a value that cannot be read makes it false with one. -/
def PropertyTest.run (S : Specification) (c : Context) (t : PropertyTest) (m : Metadata) :
    Outcome m.chain :=
  match S.property? t.propertyId with
  | none => ⟨false, m, rfl⟩
  | some p =>
    if p.type = t.expects then
      match p.resolve c with
      | .ok v => ⟨t.accepts v, m, rfl⟩
      | .error e => ⟨false, m.warn (.ofLookup p e), rfl⟩
    else ⟨false, m, rfl⟩

mutual

def Condition.run (S : Specification) (c : Context) :
    Condition → (m : Metadata) → Outcome m.chain
  | .alwaysTrue, m => ⟨true, m, rfl⟩
  | .dateTime t, m => ⟨t.accepts m.now, m, rfl⟩
  | .property t, m => t.run S c m
  | .set _ [], m => ⟨false, m, rfl⟩
  | .set op (first :: rest), m =>
    let r := firstDeciding S c op.decisive (first :: rest) m
    ⟨op.conclude r.holds, r.metadata, r.chain_eq⟩
  | .segment id op, m =>
    match h : S.segment? id with
    | none => ⟨false, m, rfl⟩
    | some s =>
      let r := s.run S c (Specification.segment?_mem h) m
      ⟨op.apply r.holds, r.metadata, r.chain_eq⟩
termination_by cond m => (Segment.idle S.segments m.chain, sizeOf cond)

def firstDeciding (S : Specification) (c : Context) (sought : Bool) :
    List Condition → (m : Metadata) → Outcome m.chain
  | [], m => ⟨false, m, rfl⟩
  | cond :: rest, m =>
    let r := cond.run S c m
    if r.holds = sought then ⟨true, r.metadata, r.chain_eq⟩
    else
      let s := firstDeciding S c sought rest r.metadata
      ⟨s.holds, s.metadata, s.chain_eq.trans r.chain_eq⟩
termination_by conds m => (Segment.idle S.segments m.chain, sizeOf conds)
decreasing_by
  · apply Prod.Lex.right; simp only [List.cons.sizeOf_spec]; omega
  · rw [r.chain_eq]; apply Prod.Lex.right; simp only [List.cons.sizeOf_spec]; omega

/-- Whether the context is in a segment, from the cache if it is there. A segment in progress counts
as false, and only what was evaluated to its end is kept. -/
def Segment.run (S : Specification) (c : Context) (s : Segment) (declared : s ∈ S.segments)
    (m : Metadata) : Outcome m.chain :=
  match m.cached? s.id with
  | some b => ⟨b, m, rfl⟩
  | none =>
    if h : s.id ∈ m.chain then ⟨false, m, rfl⟩
    else
      -- a segment that is entered is idle no more
      have := Segment.idle_lt declared h
      let r := s.conditionSet.toCondition.run S c (m.enter s.id)
      ⟨r.holds, (r.metadata.leave s.id).store s.id r.holds, by
        simp [Metadata.store, Metadata.leave, r.chain_eq, Metadata.enter]⟩
termination_by (Segment.idle S.segments m.chain, 0)
decreasing_by
  exact Prod.Lex.left _ _ this

end

namespace Condition

variable {S : Specification} {c : Context} {m : Metadata}

theorem run_alwaysTrue : alwaysTrue.run S c m = ⟨true, m, rfl⟩ := by
  rw [run.eq_def]

theorem run_property (t : PropertyTest) : (property t).run S c m = t.run S c m := by
  rw [run.eq_def]

theorem run_dateTime (t : DateTimeTest) :
    (dateTime t).run S c m = ⟨t.accepts m.now, m, rfl⟩ := by
  rw [run.eq_def]

theorem run_empty (op : SetOperator) : (set op []).run S c m = ⟨false, m, rfl⟩ := by
  rw [run.eq_def]

theorem run_set (op : SetOperator) (first : Condition) (rest : List Condition) :
    (set op (first :: rest)).run S c m =
      let r := firstDeciding S c op.decisive (first :: rest) m
      ⟨op.conclude r.holds, r.metadata, r.chain_eq⟩ := by
  rw [run.eq_def]

theorem run_missing {id : String} (op : SegmentOperator) (missing : S.segment? id = none) :
    (segment id op).run S c m = ⟨false, m, rfl⟩ := by
  rw [run.eq_def]
  dsimp only
  split
  · rfl
  · simp_all

theorem run_segment {id : String} (op : SegmentOperator) {s : Segment}
    (found : S.segment? id = some s) :
    (segment id op).run S c m =
      let r := s.run S c (Specification.segment?_mem found) m
      ⟨op.apply r.holds, r.metadata, r.chain_eq⟩ := by
  rw [run.eq_def]
  dsimp only
  split
  · simp_all
  · next s' found' =>
    obtain rfl : s = s' := Option.some.inj (found.symm.trans found')
    rfl

end Condition

def Condition.evaluate (S : Specification) (c : Context) (cond : Condition) (m : Metadata) :
    Bool × Metadata :=
  let r := cond.run S c m
  (r.holds, r.metadata)

def ConditionSet.evaluate (S : Specification) (c : Context) (s : ConditionSet) (m : Metadata) :
    Bool × Metadata :=
  s.toCondition.evaluate S c m

end FeatureFlags
