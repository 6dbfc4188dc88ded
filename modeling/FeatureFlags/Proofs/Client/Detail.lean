import FeatureFlags.Proofs.Client.Inquiry

namespace FeatureFlags.Client

def Served.evaluate (s : Served) (f : FeatureFlag) (context : Context) (now : Moment) : Detail :=
  (f.evaluate s.specification context (.fresh s.specification context now)).1

inductive Fault (served : Option Served) (now : Moment) (context : Context) (flag : String)
    (type : FlagType) : EvaluationError → Prop
  | unserved : served = none → Fault served now context flag type .specificationNotAvailable
  | missing : served = some s → s.specification.featureFlags.find? (·.name = flag) = none →
    Fault served now context flag type .flagNotFound
  | mistyped : served = some s → s.specification.featureFlags.find? (·.name = flag) = some f →
    f.type ≠ type → Fault served now context flag type .wrongType
  | illTyped : served = some s → s.specification.featureFlags.find? (·.name = flag) = some f →
    f.type = type → (s.evaluate f context now).value.flagType ≠ type →
      Fault served now context flag type .wrongType

structure Explains (c : Config) (served : Option Served) (now : Moment) (context : Context)
    (flag : String) (type : FlagType) (a : Answer (Except TypeMismatch Detail)) : Prop where
  typed : ∀ d, a.result = .ok d → d.value.flagType = type
  mismatch : ∀ m, a.result = .error m ↔ c.typeMismatchPolicy = .error ∧
    ∃ s f, served = some s ∧ s.specification.featureFlags.find? (·.name = flag) = some f ∧
      f.type ≠ type ∧ m = ⟨flag, type, f.type⟩
  reason : ∀ d, a.result = .ok d → ∀ e, d.reason = .error e ↔ Fault served now context flag type e
  evaluated : ∀ d, a.result = .ok d → (∀ e, d.reason ≠ .error e) →
    ∃ s f, served = some s ∧ s.specification.featureFlags.find? (·.name = flag) = some f ∧
      d = s.evaluate f context now
  byName : ∀ d e v, a.result = .ok d → d.reason = .error e →
    e = .specificationNotAvailable ∨ e = .flagNotFound → c.fallbacksByName.lookup flag = some v →
      v.flagType = type → d.value = v
  byType : ∀ d e, a.result = .ok d → d.reason = .error e →
    (e = .wrongType ∨ ∀ v, c.fallbacksByName.lookup flag = some v → v.flagType ≠ type) →
      d.value = c.fallbacksByType.value type
  tells : ∀ d e, a.result = .ok d → d.reason = .error e →
    ∃ ws : List Warning, a.events = ws.map (.warning flag) ++ [.fallbackUsed flag type e d.value]
  silent : (∀ d e, a.result = .ok d → d.reason ≠ .error e) →
    ∃ ws : List Warning, a.events = ws.map (.warning flag)

/-- An evaluation of a flag, also for its value alone, is answered at an instant from the
specification that it gets; before, it tells nobody anything. -/
structure Explained (c : Client) (inTurn : Bool) (context : Context) (flag : String)
    (type : FlagType) : Prop where
  detail : ∀ p r, Evaluating c inTurn (.detail flag type context) p → p.1.reply? = some r →
    ∃ d served, ∃ a : Answer _, Steps c d ∧ Gets c d served ∧
      Explains c.config served d.timeOfDay context flag type a ∧ r = .detail a.result ∧
      p.2 = d.dispatch inTurn a.events
  value : ∀ p r, Evaluating c inTurn (.value flag type context) p → p.1.reply? = some r →
    ∃ d served, ∃ a : Answer _, Steps c d ∧ Gets c d served ∧
      Explains c.config served d.timeOfDay context flag type a ∧
      r = .value (a.result.map (·.value)) ∧ p.2 = d.dispatch inTurn a.events
  begins : ∀ q, (c.begin inTurn (.evaluate q)).1.reply? = none →
    (c.begin inTurn (.evaluate q)).2 = c.joinLoad.2
  waits : ∀ q p, ∀ d : Client, Evaluating c inTurn q p → p.1.reply? = none →
    (d.poll p.1).1.reply? = none → d.poll p.1 = (p.1, d)
  runs : ∀ q r, (c.runOne (.evaluate q)).1.reply = some r →
    ∃ p, Evaluating c true q p ∧ p.1.reply? = some r

theorem flagType_eq_iff {v : FlagValue} {type : FlagType} : v.hasType type ↔ v.flagType = type := by
  simp [FlagValue.hasType]

theorem reason_evaluate_ne_error {S : Specification} {f : FeatureFlag} {context : Context}
    {m : Metadata} {e : EvaluationError} : (f.evaluate S context m).1.reason ≠ .error e := by
  unfold FeatureFlag.evaluate
  split
  · split <;> simp
  · simp

namespace Config

variable (c : Config) {name : String} {type : FlagType}

theorem flagType_byType (f : TypeFallbacks) (type : FlagType) : (f.value type).flagType = type := by
  cases type <;> rfl

theorem fallback_of_named {v : FlagValue} (named : c.fallbacksByName.lookup name = some v)
    (typed : v.flagType = type) : c.fallback name type true = v := by
  simp [fallback, named, Option.filter, FlagValue.hasType, typed]

theorem fallback_of_unnamed {byName : Bool}
    (unnamed : byName = false ∨ ∀ v, c.fallbacksByName.lookup name = some v → v.flagType ≠ type) :
    c.fallback name type byName = c.fallbacksByType.value type := by
  unfold fallback
  rcases unnamed with rfl | other
  · rfl
  · cases named : c.fallbacksByName.lookup name with
    | none => simp
    | some v => cases byName <;> simp [Option.filter, FlagValue.hasType, other v named]

theorem flagType_fallback (name : String) (type : FlagType) (byName : Bool) :
    (c.fallback name type byName).flagType = type := by
  by_cases named : byName = true ∧ ∃ v, c.fallbacksByName.lookup name = some v ∧ v.flagType = type
  · obtain ⟨rfl, v, named, typed⟩ := named
    rw [c.fallback_of_named named typed, typed]
  · rw [c.fallback_of_unnamed, flagType_byType]
    cases byName with
    | false => exact .inl rfl
    | true => exact .inr fun v found typed => named ⟨rfl, v, found, typed⟩

theorem valueAs_of_flagType {d : Detail} (typed : d.value.flagType = type) :
    c.valueAs type d = d.value := by
  subst typed
  unfold valueAs
  cases d.value <;> rfl

end Config

theorem Fault.unique {served : Option Served} {now : Moment} {context : Context} {flag : String}
    {type : FlagType} {e e' : EvaluationError} (h : Fault served now context flag type e)
    (g : Fault served now context flag type e') : e = e' := by
  cases h <;> cases g <;> grind

section

variable {c : Config} {served : Option Served} {now : Moment} {context : Context} {flag : String}
  {type : FlagType}

theorem explains_fallBack {e : EvaluationError} (fault : Fault served now context flag type e)
    (agrees : c.typeMismatchPolicy = .error → ∀ s f, served = some s →
      s.specification.featureFlags.find? (·.name = flag) = some f → f.type = type)
    (ws : List Warning) :
    Explains c served now context flag type
      { result := .ok (c.fallBack flag type e).result,
        events := ws.map (.warning flag) ++ (c.fallBack flag type e).events } := by
  unfold Config.fallBack
  constructor
  · rintro _ ⟨⟩
    exact c.flagType_fallback flag type _
  · intro m
    constructor
    · rintro ⟨⟩
    rintro ⟨strict, s, f, supplied, found, differs, -⟩
    exact absurd (agrees strict s f supplied found) differs
  · rintro _ ⟨⟩ e'
    constructor
    · rintro ⟨⟩
      exact fault
    · intro fault'
      rw [fault.unique fault']
  · rintro _ ⟨⟩ sound
    exact absurd rfl (sound e)
  · rintro _ _ v ⟨⟩ ⟨⟩ cause named typed
    rcases cause with rfl | rfl
    · exact c.fallback_of_named named typed
    · exact c.fallback_of_named named typed
  · rintro _ _ ⟨⟩ ⟨⟩ cause
    refine c.fallback_of_unnamed (cause.imp_left ?_)
    rintro rfl
    rfl
  · rintro _ _ ⟨⟩ ⟨⟩
    exact ⟨ws, rfl⟩
  · intro sound
    exact absurd rfl (sound _ e rfl)

theorem explains_mismatch {s : Served} {f : FeatureFlag} (supplied : served = some s)
    (found : s.specification.featureFlags.find? (·.name = flag) = some f) (differs : f.type ≠ type)
    (strict : c.typeMismatchPolicy = .error) :
    Explains c served now context flag type { result := .error ⟨flag, type, f.type⟩ } := by
  constructor
  · rintro _ ⟨⟩
  · intro m
    constructor
    · rintro ⟨⟩
      exact ⟨strict, s, f, supplied, found, differs, rfl⟩
    · rintro ⟨-, s', f', supplied', found', -, rfl⟩
      obtain rfl := Option.some.inj (supplied.symm.trans supplied')
      obtain rfl := Option.some.inj (found.symm.trans found')
      rfl
  · rintro _ ⟨⟩
  · rintro _ ⟨⟩
  · rintro _ _ _ ⟨⟩
  · rintro _ _ ⟨⟩
  · rintro _ _ ⟨⟩
  · exact fun _ => ⟨[], rfl⟩

theorem explains_evaluated {s : Served} {f : FeatureFlag} (supplied : served = some s)
    (found : s.specification.featureFlags.find? (·.name = flag) = some f) (same : f.type = type)
    (typed : (s.evaluate f context now).value.flagType = type) (ws : List Warning) :
    Explains c served now context flag type
      { result := .ok (s.evaluate f context now), events := ws.map (.warning flag) } := by
  have sound (e : EvaluationError) : (s.evaluate f context now).reason ≠ .error e :=
    reason_evaluate_ne_error
  constructor
  · rintro _ ⟨⟩
    exact typed
  · intro m
    constructor
    · rintro ⟨⟩
    rintro ⟨-, s', f', supplied', found', differs, -⟩
    obtain rfl := Option.some.inj (supplied.symm.trans supplied')
    obtain rfl := Option.some.inj (found.symm.trans found')
    exact absurd same differs
  · rintro _ ⟨⟩ e
    refine ⟨fun reason => absurd reason (sound e), fun fault => ?_⟩
    cases fault <;> grind
  · rintro _ ⟨⟩ -
    exact ⟨s, f, supplied, found, rfl⟩
  · rintro _ e _ ⟨⟩ reason
    exact absurd reason (sound e)
  · rintro _ e ⟨⟩ reason
    exact absurd reason (sound e)
  · rintro _ e ⟨⟩ reason
    exact absurd reason (sound e)
  · exact fun _ => ⟨ws, rfl⟩

theorem explains_detail (c : Config) (served : Option Served) (now : Moment) (context : Context)
    (flag : String) (type : FlagType) :
    Explains c served now context flag type (c.detail served now flag type context) := by
  cases served with
  | none =>
    refine explains_fallBack (.unserved rfl) ?_ []
    rintro - _ _ ⟨⟩
  | some s =>
    change Explains c _ now context flag type (c.detailIn s.specification now flag type context)
    rw [Config.detailIn, Specification.flagNamed?_eq_find?]
    cases found : s.specification.featureFlags.find? (·.name = flag) with
    | none =>
      refine explains_fallBack (.missing rfl found) ?_ []
      rintro - _ f ⟨⟩ found'
      cases found.symm.trans found'
    | some f =>
      dsimp only
      by_cases same : f.type = type
      · rw [if_pos same]
        have agrees : c.typeMismatchPolicy = .error → ∀ s' f', some s = some s' →
            s'.specification.featureFlags.find? (·.name = flag) = some f' → f'.type = type := by
          rintro - _ f' ⟨⟩ found'
          obtain rfl := Option.some.inj (found.symm.trans found')
          exact same
        split
        · next typed => exact explains_evaluated rfl found same (flagType_eq_iff.1 typed) _
        · next untyped =>
          exact explains_fallBack (.illTyped rfl found same (mt flagType_eq_iff.2 untyped)) agrees _
      · rw [if_neg same]
        split
        · next strict => exact explains_mismatch rfl found same strict
        · next lenient =>
          refine explains_fallBack (.mistyped rfl found same) ?_ []
          intro strict
          cases lenient.symm.trans strict

end

theorem explained_of_reachable {c : Client} (reachable : Reachable c) (inTurn : Bool)
    (context : Context) (flag : String) (type : FlagType) :
    Explained c inTurn context flag type := by
  have flight := reachable.flight
  constructor
  · intro p r evaluating replied
    obtain ⟨d, served, steps, gets, rfl⟩ := evaluating.answered flight replied
    have explains := explains_detail d.config served d.timeOfDay context flag type
    cases replied
    exact ⟨d, served, _, steps, gets, (setup_of_steps steps).1 ▸ explains, rfl, rfl⟩
  · intro p r evaluating replied
    obtain ⟨d, served, steps, gets, rfl⟩ := evaluating.answered flight replied
    have explains := explains_detail d.config served d.timeOfDay context flag type
    cases replied
    refine ⟨d, served, _, steps, gets, (setup_of_steps steps).1 ▸ explains, ?_, rfl⟩
    cases result : (d.config.detail served d.timeOfDay flag type context).result with
    | error m => rfl
    | ok detail => simp [Except.map, d.config.valueAs_of_flagType (explains.typed detail result)]
  · exact fun q => begin_evaluate_of_undone
  · exact fun q p d evaluating => evaluating.waits flight
  · exact fun q r => evaluating_runOne reachable.registered

def plans : Specification where
  schemaVersion := 1
  featureFlags := [⟨"first", "plan", none, .boolean, .boolean true, false, []⟩,
    ⟨"second", "plan", none, .string, .string "gold", false, []⟩]
  segments := Specification.empty.segments
  properties := Specification.empty.properties

def planning : Client :=
  let loader : Loader := fun _ => { deed := .serve (.json plans.toJson) }
  (build { skipValidation := true } loader none ⟨0, 0⟩ true).loadTimes 3

theorem reachable_planning : Reachable planning := by
  unfold planning
  exact Reachable.loadTimes ⟨_, _, _, _, _, _, .refl⟩ 3

theorem explained_planning : Explained planning true .empty "plan" .string ∧
    planning.state.specification.isSome ∧
      (planning.begin true (.evaluate (.detail "plan" .string .empty))).1.reply?.isSome :=
  ⟨explained_of_reachable reachable_planning true .empty "plan" .string, by decide +kernel,
    by decide +kernel⟩

end FeatureFlags.Client
