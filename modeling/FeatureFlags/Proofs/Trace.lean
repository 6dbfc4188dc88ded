import FeatureFlags.Proofs.Orderly

/-!
The warnings of conditions that share what is kept. A segment whose result is kept records nothing,
but all that it would record has been recorded by then, by whatever way it came to be kept. So
warnings are repeated less often, and none is lost.
-/

namespace FeatureFlags

def upTo (p : α → Bool) : List α → List α
  | [] => []
  | a :: as => a :: if p a then [] else upTo p as

theorem mem_of_mem_upTo {p : α → Bool} {as : List α} {a : α} (h : a ∈ upTo p as) : a ∈ as := by
  induction as with
  | nil => cases h
  | cons b bs ih =>
    rcases List.mem_cons.1 h with rfl | h
    · exact .head _
    · split at h
      · cases h
      · exact .tail _ (ih h)

def PropertyTest.trace (S : Specification) (c : Context) (t : PropertyTest) : List Warning :=
  match S.property? t.propertyId with
  | none => []
  | some p =>
    if p.type = t.expects then
      match p.resolve c with
      | .ok _ => []
      | .error e => [.ofLookup p e]
    else []

/-- What a condition records where nothing is kept. -/
def Condition.trace (S : Specification) (grounded : WellFounded S.PartOf) (c : Context)
    (now : Moment) (cond : Condition) : List Warning :=
  match cond with
  | .alwaysTrue => []
  | .property t => t.trace S c
  | .segment id _ =>
    match _found : S.segment? id with
    | none => []
    | some s => s.conditionSet.toCondition.trace S grounded c now
  | .set op cs =>
    (upTo (·.meaning S grounded c now == op.decisive) cs).attach.flatMap
      fun ⟨d, _⟩ => d.trace S grounded c now
  | .dateTime _ => []
termination_by grounded.wrap cond
decreasing_by
  · exact .segment _found
  · exact .element (mem_of_mem_upTo (by assumption))

section

variable (S : Specification) (grounded : WellFounded S.PartOf) (c : Context) (now : Moment)

/-- All that the segments would record whose results are kept has been recorded. -/
def Metadata.Covers (m : Metadata) : Prop :=
  ∀ id s b, S.segment? id = some s → m.cached? id = some b →
    s.conditionSet.toCondition.trace S grounded c now ⊆ m.warnings

structure Metadata.Records (m : Metadata) (trace : List Warning) (n : Metadata) : Prop where
  keeps : n.cache.isSome = m.cache.isSome
  covers : n.Covers S grounded c now
  recorded : ∃ ws, n.warnings = m.warnings ++ ws ∧ ws.Sublist trace
  complete : trace ⊆ n.warnings
  whole : m.cache.isSome = false → n.warnings = m.warnings ++ trace

def Condition.Recounts (cond : Condition) : Prop :=
  ∀ m : Metadata, m.Sound S grounded c now → m.Covers S grounded c now → S.Avoids m.chain cond →
    m.Records S grounded c now (cond.trace S grounded c now) (cond.run S c m).metadata

end

variable {S : Specification} {grounded : WellFounded S.PartOf} {c : Context} {now : Moment}
  {m n : Metadata}

namespace Condition

@[simp]
theorem trace_alwaysTrue : trace S grounded c now .alwaysTrue = [] := by
  rw [trace.eq_def]

@[simp]
theorem trace_property (t : PropertyTest) :
    trace S grounded c now (.property t) = t.trace S c := by
  rw [trace.eq_def]

@[simp]
theorem trace_dateTime (t : DateTimeTest) : trace S grounded c now (.dateTime t) = [] := by
  rw [trace.eq_def]

theorem trace_set (op : SetOperator) (cs : List Condition) :
    trace S grounded c now (.set op cs) =
      (upTo (·.meaning S grounded c now == op.decisive) cs).flatMap (trace S grounded c now) := by
  rw [trace.eq_def]
  simp [List.flatMap_subtype]

theorem trace_missing {id : String} (op : SegmentOperator) (missing : S.segment? id = none) :
    trace S grounded c now (.segment id op) = [] := by
  rw [trace.eq_def]
  dsimp only
  split <;> simp_all

theorem trace_segment {id : String} (op : SegmentOperator) {s : Segment}
    (found : S.segment? id = some s) :
    trace S grounded c now (.segment id op) =
      s.conditionSet.toCondition.trace S grounded c now := by
  rw [trace.eq_def]
  dsimp only
  split <;> simp_all

end Condition

namespace Metadata.Records

theorem refl (covers : m.Covers S grounded c now) : m.Records S grounded c now [] m where
  keeps := rfl
  covers := covers
  recorded := ⟨[], (List.append_nil _).symm, .slnil⟩
  complete := List.nil_subset _
  whole _ := (List.append_nil _).symm

theorem skip (kept : m.cache.isSome) (covers : m.Covers S grounded c now) {trace : List Warning}
    (recorded : trace ⊆ m.warnings) : m.Records S grounded c now trace m where
  keeps := rfl
  covers := covers
  recorded := ⟨[], (List.append_nil _).symm, List.nil_sublist _⟩
  complete := recorded
  whole off := by simp [kept] at off

theorem trans {k : Metadata} {first rest : List Warning} (h : m.Records S grounded c now first n)
    (g : n.Records S grounded c now rest k) : m.Records S grounded c now (first ++ rest) k := by
  obtain ⟨ws, hws, fewer⟩ := h.recorded
  obtain ⟨vs, hvs, fewer'⟩ := g.recorded
  refine ⟨g.keeps.trans h.keeps, g.covers, ⟨ws ++ vs, ?_, fewer.append fewer'⟩, ?_, fun off => ?_⟩
  · rw [hvs, hws, List.append_assoc]
  · refine List.append_subset.2 ⟨fun w hw => ?_, g.complete⟩
    rw [hvs]
    exact List.mem_append_left vs (h.complete hw)
  · rw [g.whole (h.keeps.trans off), h.whole off, List.append_assoc]

end Metadata.Records

theorem PropertyTest.run_records (t : PropertyTest) (covers : m.Covers S grounded c now) :
    m.Records S grounded c now (t.trace S c) (t.run S c m).metadata := by
  unfold PropertyTest.run trace
  cases S.property? t.propertyId with
  | none => exact .refl covers
  | some p =>
    dsimp only
    split
    · cases p.resolve c with
      | ok v => exact .refl covers
      | error e =>
        refine ⟨rfl, fun id s b found kept w hw => ?_, ⟨_, rfl, .refl _⟩, ?_, fun _ => rfl⟩
        · exact List.mem_append_left _ (covers id s b found kept hw)
        · exact List.subset_append_right _ _
    · exact .refl covers

theorem firstDeciding_records (sought : Bool) {conds : List Condition}
    (each : ∀ cond ∈ conds, cond.Recounts S grounded c now) (sound : m.Sound S grounded c now)
    (covers : m.Covers S grounded c now) (avoids : ∀ cond ∈ conds, S.Avoids m.chain cond) :
    m.Records S grounded c now
      ((upTo (·.meaning S grounded c now == sought) conds).flatMap
        (Condition.trace S grounded c now))
      (firstDeciding S c sought conds m).metadata := by
  induction conds generalizing m with
  | nil =>
    rw [firstDeciding_nil]
    exact .refl covers
  | cons cond conds ih =>
    have first := each cond (.head _) m sound covers (avoids cond (.head _))
    have tells := cond.agrees m sound (avoids cond (.head _))
    rw [firstDeciding, upTo, List.flatMap_cons]
    dsimp only
    by_cases decisive : cond.meaning S grounded c now = sought
    · rw [if_pos (tells.holds.trans decisive), if_pos (beq_iff_eq.2 decisive), List.flatMap_nil,
        List.append_nil]
      exact first
    · have rest := ih (fun d hd => each d (.tail _ hd)) tells.sound first.covers fun d hd => by
        rw [Outcome.chain_eq]
        exact avoids d (.tail _ hd)
      rw [if_neg fun same => decisive (tells.holds.symm.trans same),
        if_neg (mt beq_iff_eq.1 decisive)]
      exact first.trans rest

theorem Segment.run_records {id : String} {op : SegmentOperator} {s : Segment}
    (found : S.segment? id = some s) (inside : s.conditionSet.toCondition.Recounts S grounded c now)
    (sound : m.Sound S grounded c now) (covers : m.Covers S grounded c now)
    (avoids : S.Avoids m.chain (.segment id op)) :
    m.Records S grounded c now (s.conditionSet.toCondition.trace S grounded c now)
      (s.run S c (Specification.segment?_mem found) m).metadata := by
  obtain rfl : s.id = id := Specification.segment?_id found
  cases kept : m.cached? s.id with
  | some b =>
    rw [run_of_cached kept]
    have on : m.cache.isSome := by
      by_contra off
      simp [Metadata.cached?_of_isSome_eq_false (by simpa using off)] at kept
    exact .skip on covers (covers s.id s b found kept)
  | none =>
    have inner := inside (m.enter s.id) (sound.enter s.id) covers (avoids.enter grounded found)
    rw [(run_of_not_mem_chain kept avoids.not_mem).2]
    refine ⟨?_, fun id' s' b' found' kept' => ?_, inner.recorded, inner.complete, inner.whole⟩
    · simpa [Metadata.store, Metadata.leave, Metadata.enter] using inner.keeps
    · rcases Metadata.cached?_store kept' with kept' | ⟨rfl, rfl⟩
      · exact inner.covers id' s' b' found' kept'
      · obtain rfl : s = s' := Option.some.inj (found.symm.trans found')
        exact inner.complete

theorem Condition.recounts (cond : Condition) : cond.Recounts S grounded c now := by
  -- as for the meaning, the induction is on what a condition is made from
  induction cond using grounded.induction with
  | _ cond ih =>
  intro m sound covers avoids
  cases cond with
  | alwaysTrue =>
    rw [run_alwaysTrue, trace_alwaysTrue]
    exact .refl covers
  | dateTime t =>
    rw [run_dateTime, trace_dateTime]
    exact .refl covers
  | property t =>
    rw [run_property, trace_property]
    exact t.run_records covers
  | set op cs =>
    rw [metadata_run_set, trace_set]
    exact firstDeciding_records op.decisive (fun d hd => ih d (.element hd)) sound covers
      fun d hd => avoids.part (.element hd)
  | segment id op =>
    cases found : S.segment? id with
    | none =>
      rw [run_missing op found, trace_missing op found]
      exact .refl covers
    | some s =>
      rw [run_segment op found, trace_segment op found]
      exact s.run_records found (ih _ (.segment found)) sound covers avoids

theorem Condition.evaluateAll_records (conds : List Condition) (sound : m.Sound S grounded c now)
    (covers : m.Covers S grounded c now) (idle : m.chain = []) :
    m.Records S grounded c now (conds.flatMap (trace S grounded c now))
      (evaluateAll S c conds m).2 := by
  induction conds generalizing m with
  | nil => exact .refl covers
  | cons cond conds ih =>
    have avoids : S.Avoids m.chain cond := by simp [Specification.Avoids, idle]
    have first := cond.recounts m sound covers avoids
    have tells := cond.agrees m sound avoids
    rw [List.flatMap_cons]
    exact first.trans (ih tells.sound first.covers ((Outcome.chain_eq _).trans idle))

def Condition.recordings (S : Specification) (c : Context) :
    List Condition → Metadata → List (Bool × List Warning)
  | [], _ => []
  | cond :: conds, m =>
    let (holds, n) := cond.evaluate S c m
    (holds, n.warnings.drop m.warnings.length) :: recordings S c conds n

theorem Condition.warnings_evaluate (cond : Condition) (m : Metadata) :
    (cond.evaluate S c m).2.warnings =
      m.warnings ++ (cond.evaluate S c m).2.warnings.drop m.warnings.length := by
  obtain ⟨ws, hws⟩ := (cond.run_extends (S := S) (c := c) m).warnings
  rw [evaluate]
  simp [← hws]

theorem firstDeciding_recordings (sought : Bool) (conds : List Condition) (m : Metadata) :
    (firstDeciding S c sought conds m).metadata.warnings = m.warnings ++
      (upTo (·.1 == sought) (Condition.recordings S c conds m)).flatMap (·.2) := by
  induction conds generalizing m with
  | nil => simp [firstDeciding_nil, Condition.recordings, upTo]
  | cons cond conds ih =>
    have first := cond.warnings_evaluate (S := S) (c := c) m
    rw [firstDeciding, Condition.recordings, upTo, List.flatMap_cons, ← List.append_assoc, ← first]
    by_cases decisive : (cond.run S c m).holds = sought
    · simp [Condition.evaluate, decisive]
    · have other : ((cond.evaluate S c m).1 == sought) = false := beq_false_of_ne decisive
      simp only [if_neg decisive, other, Bool.false_eq_true, if_false]
      exact ih _

namespace Specification

/-- Against a validated specification, keeping the results of segments only spares warnings that
have been recorded before. A set records what its elements do, up to the first that decides. -/
theorem warnings_of_validate (valid : S.validate = .ok ()) (c : Context) (now : Moment)
    (rolloutGroup : Double) (conds : List Condition) :
    let m : Metadata := { now, rolloutGroup }
    let kept := (Condition.evaluateAll S c conds m).2.warnings
    let repeated := (Condition.evaluateAll S c conds m.withoutCache).2.warnings
    kept.Sublist repeated ∧ repeated ⊆ kept ∧
      ∀ (op : SetOperator) (elements : List Condition) (n : Metadata),
        ((Condition.set op elements).evaluate S c n).2.warnings = n.warnings ++
          (upTo (·.1 == op.decisive) (Condition.recordings S c elements n)).flatMap (·.2) := by
  intro m kept repeated
  let grounded := wellFounded_of_validate valid
  have fresh (k : Metadata) (new : ∀ id, k.cached? id = none) : k.Covers S grounded c now :=
    fun id s b _ kept => by simp [new] at kept
  have on := Condition.evaluateAll_records conds
    (m.sound_of_cached?_eq_none fun _ => rfl) (fresh m fun _ => rfl) rfl
  have off := Condition.evaluateAll_records conds
    (m.withoutCache.sound_of_cached?_eq_none fun _ => rfl) (fresh m.withoutCache fun _ => rfl) rfl
  have trace : repeated = conds.flatMap (Condition.trace S grounded c now) := off.whole rfl
  refine ⟨?_, ?_, fun op elements n => ?_⟩
  · obtain ⟨ws, recorded, fewer⟩ := on.recorded
    have : kept = ws := recorded
    rw [trace, this]
    exact fewer
  · rw [trace]
    exact on.complete
  · rw [Condition.evaluate, Condition.metadata_run_set]
    exact firstDeciding_recordings op.decisive elements n

theorem warnings_memberships :
    let w : Warning := .notFound "member" ["member"]
    let conds : List Condition := [.segment "members" .isTrue, .segment "members" .isFalse]
    let m : Metadata := { now := .epoch, rolloutGroup := .zero }
    let kept := (Condition.evaluateAll memberships ⟨[]⟩ conds m).2.warnings
    let repeated := (Condition.evaluateAll memberships ⟨[]⟩ conds m.withoutCache).2.warnings
    kept = [w] ∧ repeated = [w, w] ∧ kept.Sublist repeated ∧ repeated ⊆ kept := by
  intro w conds m kept repeated
  have compared := warnings_of_validate validate_memberships ⟨[]⟩ .epoch .zero conds
  have members : memberships.segment? "members" = some memberships.segments[0] := by
    rw [segment?_eq_find?]
    rfl
  have member : memberships.property? "member" = some memberships.properties[0] := by
    rw [property?_eq_find?]
    rfl
  have test (n : Metadata) :
      PropertyTest.run memberships ⟨[]⟩ (.boolean ⟨"member", .isTrue, [], .some⟩) n =
        ⟨false, n.warn w, rfl⟩ := by
    simp only [PropertyTest.run, PropertyTest.propertyId, member]
    rfl
  have set (n : Metadata) :
      memberships.segments[0].conditionSet.toCondition.run memberships ⟨[]⟩ n =
        ⟨false, n.warn w, rfl⟩ := by
    change (Condition.set .or [.property _]).run memberships ⟨[]⟩ n = _
    simp [Condition.run_set, firstDeciding, Condition.run_property, test, SetOperator.decisive,
      SetOperator.conclude]
  have asked (op : SegmentOperator) {n : Metadata} (new : n.cached? "members" = none)
      (idle : n.chain = []) :
      (Condition.segment "members" op).evaluate memberships ⟨[]⟩ n =
        (op.apply false, (n.warn w).store "members" false) := by
    obtain ⟨holds, metadata⟩ := @Segment.run_of_not_mem_chain memberships ⟨[]⟩ n
      memberships.segments[0] (.head _) new (by simp [idle])
    rw [Condition.evaluate, Condition.run_segment op members]
    simp only [holds, metadata, set]
    simp [Metadata.enter, Metadata.leave, Metadata.warn, Metadata.store, memberships]
  have again (op : SegmentOperator) {n : Metadata} (kept : n.cached? "members" = some false) :
      (Condition.segment "members" op).evaluate memberships ⟨[]⟩ n = (op.apply false, n) := by
    rw [Condition.evaluate, Condition.run_segment op members, Segment.run_of_cached kept]
  refine ⟨?_, ?_, compared.1, compared.2.1⟩
  · simp only [kept, conds, Condition.evaluateAll]
    rw [asked .isTrue rfl rfl, again .isFalse rfl]
    rfl
  · simp only [repeated, conds, Condition.evaluateAll]
    rw [asked .isTrue rfl rfl, asked .isFalse rfl rfl]
    rfl

end Specification

end FeatureFlags
