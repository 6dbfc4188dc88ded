import FeatureFlags.Proofs.Meaning

/-!
Evaluation against meaning. The results that are kept are the meanings of their segments, and no
segment is met again while it is in progress, so what is kept, skipped or cut short never shows.
-/

namespace FeatureFlags

section

variable (S : Specification) (grounded : WellFounded S.PartOf) (c : Context) (now : Moment)

structure Metadata.Sound (m : Metadata) : Prop where
  now_eq : m.now = now
  cached : ∀ id s b, S.segment? id = some s → m.cached? id = some b →
    b = Condition.meaning S grounded c now s.conditionSet.toCondition

def Specification.Avoids (chain : List String) (cond : Condition) : Prop :=
  ∀ id ∈ chain, ∀ op, ¬ Relation.ReflTransGen S.PartOf (.segment id op) cond

structure Outcome.Tells (o : Outcome chain) (b : Bool) : Prop where
  holds : o.holds = b
  sound : o.metadata.Sound S grounded c now

def Condition.Agrees (cond : Condition) : Prop :=
  ∀ m : Metadata, m.Sound S grounded c now → S.Avoids m.chain cond →
    (cond.run S c m).Tells S grounded c now (cond.meaning S grounded c now)

end

variable {S : Specification} {grounded : WellFounded S.PartOf} {c : Context} {now : Moment}
  {m : Metadata}

namespace Metadata.Sound

theorem warn (sound : m.Sound S grounded c now) (w : Warning) :
    (m.warn w).Sound S grounded c now :=
  ⟨sound.now_eq, sound.cached⟩

theorem enter (sound : m.Sound S grounded c now) (id : String) :
    (m.enter id).Sound S grounded c now :=
  ⟨sound.now_eq, sound.cached⟩

theorem leave (sound : m.Sound S grounded c now) (id : String) :
    (m.leave id).Sound S grounded c now :=
  ⟨sound.now_eq, sound.cached⟩

theorem store (sound : m.Sound S grounded c now) {id : String} {s : Segment}
    (found : S.segment? id = some s) :
    (m.store id (Condition.meaning S grounded c now s.conditionSet.toCondition)).Sound S grounded c
      now := by
  refine ⟨sound.now_eq, fun id' s' b found' kept => ?_⟩
  rcases Metadata.cached?_store kept with kept | ⟨rfl, rfl⟩
  · exact sound.cached id' s' b found' kept
  · obtain rfl : s = s' := Option.some.inj (found.symm.trans found')
    rfl

end Metadata.Sound

namespace Specification.Avoids

variable {chain : List String} {cond d : Condition}

theorem part (avoids : S.Avoids chain cond) (h : S.PartOf d cond) : S.Avoids chain d :=
  fun id inProgress op path => avoids id inProgress op (.tail path h)

theorem not_mem {id : String} {op : SegmentOperator} (avoids : S.Avoids chain (.segment id op)) :
    id ∉ chain :=
  fun inProgress => avoids id inProgress op .refl

theorem enter (grounded : WellFounded S.PartOf) {id : String} {op : SegmentOperator} {s : Segment}
    (avoids : S.Avoids chain (.segment id op)) (found : S.segment? id = some s) :
    S.Avoids (id :: chain) s.conditionSet.toCondition := by
  intro id' inProgress op' path
  rcases List.mem_cons.1 inProgress with rfl | inProgress
  · have circle :
        Relation.TransGen S.PartOf s.conditionSet.toCondition s.conditionSet.toCondition :=
      .head' (.segment found) path
    exact grounded.transGen.irrefl.irrefl _ circle
  · exact avoids.part (.segment found) id' inProgress op' path

end Specification.Avoids

theorem PropertyTest.run_tells (t : PropertyTest) (sound : m.Sound S grounded c now) :
    (t.run S c m).Tells S grounded c now (t.meaning S c) := by
  unfold PropertyTest.run meaning
  cases S.property? t.propertyId with
  | none => exact ⟨rfl, sound⟩
  | some p =>
    dsimp only
    split
    · cases p.resolve c with
      | ok v => exact ⟨rfl, sound⟩
      | error e => exact ⟨rfl, sound.warn _⟩
    · exact ⟨rfl, sound⟩

theorem firstDeciding_tells (sought : Bool) {conds : List Condition}
    (each : ∀ cond ∈ conds, cond.Agrees S grounded c now) (sound : m.Sound S grounded c now)
    (avoids : ∀ cond ∈ conds, S.Avoids m.chain cond) :
    (firstDeciding S c sought conds m).Tells S grounded c now
      ((conds.map (Condition.meaning S grounded c now)).contains sought) := by
  induction conds generalizing m with
  | nil =>
    rw [firstDeciding]
    exact ⟨rfl, sound⟩
  | cons cond conds ih =>
    have first := each cond (.head _) m sound (avoids cond (.head _))
    rw [firstDeciding]
    dsimp only
    split
    · next decisive =>
      refine ⟨?_, first.sound⟩
      rw [first.holds] at decisive
      simp [decisive]
    · next indecisive =>
      rw [first.holds] at indecisive
      -- the chain is back to what it was, so the other conditions still avoid it
      have rest := ih (fun d hd => each d (.tail _ hd)) first.sound fun d hd => by
        rw [Outcome.chain_eq]
        exact avoids d (.tail _ hd)
      refine ⟨?_, rest.sound⟩
      dsimp only
      rw [rest.holds, List.map_cons, List.contains_cons, beq_false_of_ne (Ne.symm indecisive),
        Bool.false_or]

theorem SetOperator.conclude_contains (op : SetOperator) (b : Bool) (bs : List Bool) :
    op.conclude ((b :: bs).contains op.decisive) = op.combine (b :: bs) := by
  have all_eq (bs : List Bool) : bs.all id = !bs.contains false := by
    induction bs with
    | nil => rfl
    | cons b bs ih => cases b <;> simp [ih]
  have any_eq (bs : List Bool) : bs.any id = bs.contains true := by
    induction bs with
    | nil => rfl
    | cons b bs ih => cases b <;> simp [ih]
  cases op with
  | and => rw [combine, all_eq]; rfl
  | or => rw [combine, any_eq]; rfl
  | nand => rw [combine, all_eq, Bool.not_not]; rfl
  | nor => rw [combine, any_eq]; rfl

theorem Segment.run_tells {id : String} {op : SegmentOperator} {s : Segment}
    (found : S.segment? id = some s) (inside : s.conditionSet.toCondition.Agrees S grounded c now)
    (sound : m.Sound S grounded c now) (avoids : S.Avoids m.chain (.segment id op)) :
    (s.run S c (Specification.segment?_mem found) m).Tells S grounded c now
      (s.conditionSet.toCondition.meaning S grounded c now) := by
  obtain rfl : s.id = id := Specification.segment?_id found
  rw [Segment.run]
  split
  · next b kept => exact ⟨sound.cached _ _ _ found kept, sound⟩
  · rw [dif_neg avoids.not_mem]
    have inner := inside (m.enter s.id) (sound.enter s.id) (avoids.enter grounded found)
    refine ⟨inner.holds, ?_⟩
    dsimp only
    rw [inner.holds]
    exact (inner.sound.leave s.id).store found

theorem Condition.agrees (cond : Condition) : cond.Agrees S grounded c now := by
  -- the induction is on what the meaning is made from, which leads from a segment into its set
  induction cond using grounded.induction with
  | _ cond ih =>
  intro m sound avoids
  cases cond with
  | alwaysTrue =>
    rw [run_alwaysTrue, meaning_alwaysTrue]
    exact ⟨rfl, sound⟩
  | dateTime t =>
    rw [run_dateTime, meaning_dateTime]
    exact ⟨by rw [sound.now_eq], sound⟩
  | property t =>
    rw [run_property, meaning_property]
    exact t.run_tells sound
  | set op cs =>
    cases cs with
    | nil =>
      rw [run_empty, meaning_set]
      exact ⟨by cases op <;> rfl, sound⟩
    | cons first rest =>
      have found := firstDeciding_tells op.decisive (fun d hd => ih d (.element hd)) sound
        fun d hd => avoids.part (.element hd)
      rw [run_set, meaning_set]
      refine ⟨?_, found.sound⟩
      rw [List.map_cons, ← op.conclude_contains, ← List.map_cons, ← found.holds]
  | segment id op =>
    rw [meaning_segment]
    cases found : S.segment? id with
    | none =>
      rw [run_missing op found]
      exact ⟨rfl, sound⟩
    | some s =>
      have inner := s.run_tells found (ih _ (.segment found)) sound avoids
      rw [run_segment op found]
      exact ⟨congrArg op.apply inner.holds, inner.sound⟩

def Condition.evaluateAll (S : Specification) (c : Context) :
    List Condition → Metadata → List Bool × Metadata
  | [], m => ([], m)
  | cond :: conds, m =>
    let (holds, m) := cond.evaluate S c m
    let (results, m) := evaluateAll S c conds m
    (holds :: results, m)

theorem Condition.evaluateAll_tells (conds : List Condition) (sound : m.Sound S grounded c now)
    (idle : m.chain = []) :
    (evaluateAll S c conds m).1 = conds.map (meaning S grounded c now) := by
  induction conds generalizing m with
  | nil => rfl
  | cons cond conds ih =>
    have first := cond.agrees m sound (by simp [Specification.Avoids, idle])
    have rest := ih first.sound ((cond.run S c m).chain_eq.trans idle)
    simp only [evaluateAll, evaluate, List.map_cons, first.holds, rest]

theorem Metadata.sound_of_cached?_eq_none (kept : ∀ id, m.cached? id = none) :
    m.Sound S grounded c m.now :=
  ⟨rfl, fun id s b _ h => by simp [kept] at h⟩

namespace Specification

theorem wellFounded_of_validate (h : S.validate = .ok ()) : WellFounded S.PartOf :=
  (violation?_eq_none_iff.1 (validate_eq_ok_iff.1 h)).wellFounded_partOf

/-- Against a validated specification every evaluation of a sequence gives the meaning of its
condition, whether or not the results of segments are kept. -/
theorem evaluateAll_eq_map_meaning (valid : S.validate = .ok ()) (c : Context) (now : Moment)
    (rolloutGroup : Double) (conds : List Condition) :
    let m : Metadata := { now, rolloutGroup }
    let meanings := conds.map (Condition.meaning S (wellFounded_of_validate valid) c now)
    (Condition.evaluateAll S c conds m).1 = meanings ∧
      (Condition.evaluateAll S c conds m.withoutCache).1 = meanings := by
  intro m meanings
  constructor
  · exact Condition.evaluateAll_tells conds
      (m.sound_of_cached?_eq_none fun _ => rfl) rfl
  · exact Condition.evaluateAll_tells conds
      (m.withoutCache.sound_of_cached?_eq_none fun _ => rfl) rfl

def visitors : Specification where
  schemaVersion := 1
  featureFlags := [⟨"banner", "Banner", none, .boolean, .boolean false, false, []⟩]
  segments := [
    ⟨"members", "Members", none, .or, [.property (.boolean ⟨"member", .isTrue, [], .some⟩)]⟩,
    ⟨"visitors", "Visitors", none, .nor, [.segment "members" .isTrue]⟩]
  properties := [⟨"member", "Member", ["member"], .boolean, false⟩]

theorem validate_visitors : visitors.validate = .ok () := by
  have references : ∀ s ∈ visitors.segments,
      visitors.referencesViolation? s.conditionSet = none := by
    simp [referencesViolation?_eq_none_iff, ← ConditionSet.mem_nested_iff, Resolves,
      property?_eq_find?, segment?_eq_find?, visitors, ConditionSet.nested, Condition.nestedIn,
      Condition.nested, PropertyTest.propertyId, PropertyTest.expects]
  have cycle : Segment.onCycle? visitors.segments = none :=
    Segment.onCycle?_eq_none_of_rank String.length (by decide)
  rw [validate_eq_ok_iff, violation?, List.findSome?_eq_none_iff.2 references, cycle]
  rfl

theorem evaluateAll_visitors :
    let c : Context := ⟨[("member", .boolean true)]⟩
    let conds : List Condition := [.segment "visitors" .isTrue, .segment "members" .isTrue,
      .set .nand [.segment "members" .isTrue, .segment "visitors" .isFalse]]
    let m : Metadata := { now := .epoch, rolloutGroup := .zero }
    (Condition.evaluateAll visitors c conds m).1 = [false, true, false] ∧
      (Condition.evaluateAll visitors c conds m.withoutCache).1 = [false, true, false] := by
  intro c conds m
  have results := evaluateAll_eq_map_meaning validate_visitors c .epoch .zero conds
  have members : visitors.segment? "members" = some visitors.segments[0] := by
    rw [segment?_eq_find?]
    rfl
  have others : visitors.segment? "visitors" = some visitors.segments[1] := by
    rw [segment?_eq_find?]
    rfl
  have member :
      PropertyTest.meaning visitors c (.boolean ⟨"member", .isTrue, [], .some⟩) = true := by
    rw [PropertyTest.meaning, property?_eq_find?]
    rfl
  let grounded := wellFounded_of_validate validate_visitors
  have inside (op : SegmentOperator) :
      Condition.meaning visitors grounded c .epoch (.segment "members" op) = op.apply true := by
    rw [Condition.meaning_segment, members]
    change op.apply (Condition.meaning visitors _ c _ (.set .or [.property _])) = _
    simp [SetOperator.combine, member]
  have outside (op : SegmentOperator) :
      Condition.meaning visitors grounded c .epoch (.segment "visitors" op) = op.apply false := by
    rw [Condition.meaning_segment, others]
    change op.apply (Condition.meaning visitors _ c _ (.set .nor [.segment "members" .isTrue])) = _
    simp [SetOperator.combine, SegmentOperator.apply, inside]
  simpa [conds, SetOperator.combine, SegmentOperator.apply, inside, outside] using results

end Specification

end FeatureFlags
