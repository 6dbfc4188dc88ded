import FeatureFlags.Proofs.Client.Detail
import Mathlib.Data.String.Basic

namespace FeatureFlags.Client

structure Collects (c : Config) (served : Option Served) (now : Moment) (context : Context)
    (values : List (String × FlagValue)) : Prop where
  sorted : ∀ s, served = some s → (values.map (·.1)).Pairwise (· < ·)
  names : ∀ s, served = some s → ∀ name, name ∈ values.map (·.1) ↔
    ∃ f ∈ s.specification.featureFlags, f.name = name
  /-- With the first and the last flag of a name the entry follows from the detail of either. -/
  entry : ∀ s name f g, served = some s →
    s.specification.featureFlags.find? (·.name = name) = some f →
    s.specification.featureFlags.reverse.find? (·.name = name) = some g →
      ∃ d, (c.detail served now name (if c.typeMismatchPolicy = .error then f.type else g.type)
        context).result = .ok d ∧ values.lookup name = some d.value
  /-- It is the value that an evaluation of one flag finds only where the types allow it. -/
  agrees : ∀ s name f g, served = some s →
    s.specification.featureFlags.find? (·.name = name) = some f →
    s.specification.featureFlags.reverse.find? (·.name = name) = some g →
      ∃ d, (c.detail served now name f.type context).result = .ok d ∧
        (values.lookup name = some d.value ↔ c.typeMismatchPolicy = .error ∨ g.type = f.type)
  distinct : ∀ s, served = some s → (s.specification.featureFlags.map (·.name)).Nodup →
    ∀ f ∈ s.specification.featureFlags, ∃ d,
      (c.detail served now f.name f.type context).result = .ok d ∧
        values.lookup f.name = some d.value
  unserved : served = none → values.map (·.1) = c.fallbacksByName.map (·.1) ∧
    ∀ name, values.lookup name = c.fallbacksByName.lookup name

theorem lookup_cons_eq_ite (name key : String) (a : α) (entries : List (String × α)) :
    ((name, a) :: entries).lookup key = if key = name then some a else entries.lookup key := by
  by_cases same : key = name
  · simp [same]
  · simp [same, List.lookup_cons, beq_false_of_ne same]

theorem lookup_setByName (name key : String) (a : α) (entries : List (String × α)) :
    (setByName name a entries).lookup key = if key = name then some a else entries.lookup key := by
  induction entries with
  | nil => exact lookup_cons_eq_ite ..
  | cons entry rest ih =>
    obtain ⟨k, b⟩ := entry
    rw [setByName]
    split
    · exact lookup_cons_eq_ite ..
    · split
      · next replaced => grind [lookup_cons_eq_ite]
      · next other => grind [lookup_cons_eq_ite]

theorem mem_keys_setByName (name key : String) (a : α) (entries : List (String × α)) :
    key ∈ (setByName name a entries).map (·.1) ↔ key = name ∨ key ∈ entries.map (·.1) := by
  induction entries with
  | nil => simp [setByName]
  | cons entry rest ih =>
    rw [setByName]
    split
    · simp
    · split
      · next replaced => simp [replaced]
      · rw [List.map_cons, List.mem_cons, ih, List.map_cons, List.mem_cons, or_left_comm]

theorem pairwise_setByName {name : String} {a : α} {entries : List (String × α)}
    (sorted : (entries.map (·.1)).Pairwise (· < ·)) :
    ((setByName name a entries).map (·.1)).Pairwise (· < ·) := by
  induction entries with
  | nil => simp [setByName]
  | cons entry rest ih =>
    obtain ⟨k, b⟩ := entry
    obtain ⟨least, sorted⟩ := List.pairwise_cons.1 sorted
    rw [setByName]
    split
    · next less =>
      refine List.pairwise_cons.2 ⟨fun key hk => ?_, List.pairwise_cons.2 ⟨least, sorted⟩⟩
      rcases List.mem_cons.1 hk with rfl | hk
      · exact less
      · exact lt_trans less (least key hk)
    · next notLess =>
      split
      · next replaced => exact List.pairwise_cons.2 ⟨replaced ▸ least, sorted⟩
      · next other =>
        have greater : k < name := lt_of_le_of_ne (not_lt.1 notLess) (Ne.symm other)
        refine List.pairwise_cons.2 ⟨fun key hk => ?_, ih sorted⟩
        rcases (mem_keys_setByName ..).1 hk with rfl | hk
        · exact greater
        · exact least key hk

theorem lookup_map_entries (h : String → α → β) (key : String) (entries : List (String × α)) :
    (entries.map fun (k, a) => (k, h k a)).lookup key = (entries.lookup key).map (h key) := by
  induction entries with
  | nil => rfl
  | cons entry rest ih =>
    obtain ⟨k, a⟩ := entry
    rw [List.map_cons, lookup_cons_eq_ite, lookup_cons_eq_ite, ih]
    split
    · next same => rw [same, Option.map_some]
    · rfl

theorem findSome?_eq_some_of_unique {h : α → Option β} {as : List α} {a : α} {b : β} (ha : a ∈ as)
    (found : h a = some b) (unique : ∀ x ∈ as, ∀ y, h x = some y → y = b) :
    as.findSome? h = some b := by
  cases first : as.findSome? h with
  | none =>
    rw [List.findSome?_eq_none_iff] at first
    cases (first a ha).symm.trans found
  | some y =>
    obtain ⟨x, hx, same⟩ := List.exists_of_findSome?_eq_some first
    rw [unique x hx y same]

theorem findSome?_guard {p : α → Bool} {h : α → Option β} {as : List α}
    (total : ∀ a ∈ as, p a → (h a).isSome) :
    (as.findSome? fun a => if p a then h a else none) = (as.find? p).bind h := by
  induction as with
  | nil => rfl
  | cons a as ih =>
    have rest := ih fun x hx => total x (.tail _ hx)
    by_cases holds : p a
    · obtain ⟨b, found⟩ := Option.isSome_iff_exists.1 (total a (.head _) holds)
      simp [holds, found]
    · simp [holds, rest]

section

variable (c : Config) (S : Specification) (now : Moment) (context : Context)

def Config.entry? (f : FeatureFlag) : Option FlagValue :=
  (c.detailIn S now f.name f.type context).result.toOption.map (·.value)

theorem result_allIn_cons (values : List (String × FlagValue)) (f : FeatureFlag)
    (fs : List FeatureFlag) : (c.allIn S now context values (f :: fs)).result =
      (c.allIn S now context (match c.entry? S now context f with
        | some v => setByName f.name v values
        | none => values) fs).result := by
  rw [Config.allIn, Config.entry?]
  cases (c.detailIn S now f.name f.type context).result <;> rfl

theorem lookup_allIn (key : String) (fs : List FeatureFlag) (values : List (String × FlagValue)) :
    (c.allIn S now context values fs).result.lookup key =
      (fs.reverse.findSome? fun f =>
        if f.name = key then c.entry? S now context f else none).or (values.lookup key) := by
  induction fs generalizing values with
  | nil => rfl
  | cons f fs ih =>
    rw [result_allIn_cons, ih, List.reverse_cons, List.findSome?_append, Option.or_assoc]
    congr 1
    cases entry : c.entry? S now context f with
    | none => simp [entry]
    | some v =>
      simp only [lookup_setByName, List.findSome?_singleton, entry]
      by_cases same : f.name = key
      · simp [same]
      · simp [same, Ne.symm same]

theorem mem_keys_allIn (key : String) (fs : List FeatureFlag) (values : List (String × FlagValue)) :
    key ∈ (c.allIn S now context values fs).result.map (·.1) ↔
      key ∈ values.map (·.1) ∨ ∃ f ∈ fs, f.name = key ∧ (c.entry? S now context f).isSome := by
  induction fs generalizing values with
  | nil => simp [Config.allIn]
  | cons f fs ih =>
    rw [result_allIn_cons, ih]
    cases entry : c.entry? S now context f with
    | none => simp [entry]
    | some v =>
      rw [mem_keys_setByName]
      simp only [List.exists_mem_cons_iff, entry, Option.isSome_some, and_true, eq_comm]
      tauto

theorem pairwise_allIn (fs : List FeatureFlag) {values : List (String × FlagValue)}
    (sorted : (values.map (·.1)).Pairwise (· < ·)) :
    ((c.allIn S now context values fs).result.map (·.1)).Pairwise (· < ·) := by
  induction fs generalizing values with
  | nil => exact sorted
  | cons f fs ih =>
    rw [result_allIn_cons]
    cases c.entry? S now context f with
    | none => exact ih sorted
    | some v => exact ih (pairwise_setByName sorted)

end

section

variable (c : Config) {s : Served} (now : Moment) (context : Context) {name : String}
  {f g : FeatureFlag}

theorem detail_isOk_iff (found : s.specification.featureFlags.find? (·.name = name) = some f)
    (type : FlagType) : (∃ d, (c.detail (some s) now name type context).result = .ok d) ↔
      c.typeMismatchPolicy ≠ .error ∨ f.type = type := by
  have explains := explains_detail c (some s) now context name type
  cases result : (c.detail (some s) now name type context).result with
  | ok d =>
    refine ⟨fun _ => ?_, fun _ => ⟨d, rfl⟩⟩
    by_contra strict
    obtain ⟨strict, differs⟩ := not_or.1 strict
    have refused := (explains.mismatch _).2 ⟨not_not.1 strict, s, f, rfl, found, differs, rfl⟩
    cases result.symm.trans refused
  | error m =>
    refine ⟨by rintro ⟨_, ⟨⟩⟩, fun lenient => ?_⟩
    obtain ⟨strict, s', f', supplied, found', differs, -⟩ := (explains.mismatch m).1 result
    cases supplied
    obtain rfl := Option.some.inj (found.symm.trans found')
    exact absurd lenient (by simp [strict, differs])

theorem entry?_eq_some_iff (named : g.name = name) {v : FlagValue} :
    c.entry? s.specification now context g = some v ↔
      ∃ d, (c.detail (some s) now name g.type context).result = .ok d ∧ d.value = v := by
  subst named
  change (c.detail (some s) now g.name g.type context).result.toOption.map (·.value) = some v ↔ _
  cases (c.detail (some s) now g.name g.type context).result <;> simp [Except.toOption]

theorem entry_allIn (found : s.specification.featureFlags.find? (·.name = name) = some f)
    (last : s.specification.featureFlags.reverse.find? (·.name = name) = some g) :
    ∃ d, (c.detail (some s) now name (if c.typeMismatchPolicy = .error then f.type else g.type)
      context).result = .ok d ∧
      (c.all (some s) now context).result.lookup name = some d.value := by
  have named : f.name = name := by simpa using List.find?_some found
  have looked : (c.all (some s) now context).result.lookup name =
      s.specification.featureFlags.reverse.findSome? fun f =>
        if f.name = name then c.entry? s.specification now context f else none := by
    rw [Config.all, lookup_allIn, List.lookup_nil, Option.or_none]
  rw [looked]
  split
  · next strict =>
    obtain ⟨d, result⟩ := (detail_isOk_iff c now context found f.type).2 (.inr rfl)
    refine ⟨d, result, ?_⟩
    apply findSome?_eq_some_of_unique (List.mem_reverse.2 (List.mem_of_find?_eq_some found))
    · rw [if_pos named]
      exact (entry?_eq_some_iff c now context named).2 ⟨d, result, rfl⟩
    · intro x _ v entry
      split at entry
      · next same =>
        -- a flag of another type has no detail
        obtain ⟨d', result', rfl⟩ := (entry?_eq_some_iff c now context same).1 entry
        have type := ((detail_isOk_iff c now context found x.type).1 ⟨d', result'⟩).resolve_left
          (not_not.2 strict)
        rw [← type, result] at result'
        cases result'
        rfl
      · cases entry
  · next lenient =>
    obtain ⟨d, result⟩ := (detail_isOk_iff c now context found g.type).2 (.inl lenient)
    have same : g.name = name := by simpa using List.find?_some last
    refine ⟨d, result, ?_⟩
    have total : ∀ x ∈ s.specification.featureFlags.reverse, decide (x.name = name) = true →
        (c.entry? s.specification now context x).isSome := by
      intro x _ named
      obtain ⟨d, result⟩ := (detail_isOk_iff c now context found x.type).2 (.inl lenient)
      exact Option.isSome_of_eq_some
        ((entry?_eq_some_iff c now context (of_decide_eq_true named)).2 ⟨d, result, rfl⟩)
    have first := findSome?_guard total
    simp only [decide_eq_true_eq] at first
    rw [first, last]
    exact (entry?_eq_some_iff c now context same).2 ⟨d, result, rfl⟩

end

theorem names_all (c : Config) (s : Served) (now : Moment) (context : Context) (name : String) :
    name ∈ (c.all (some s) now context).result.map (·.1) ↔
      ∃ f ∈ s.specification.featureFlags, f.name = name := by
  rw [Config.all, mem_keys_allIn]
  simp only [List.map_nil, List.not_mem_nil, false_or]
  constructor
  · rintro ⟨f, hf, named, -⟩
    exact ⟨f, hf, named⟩
  · rintro ⟨x, hx, rfl⟩
    obtain ⟨f, found⟩ : ∃ f, s.specification.featureFlags.find? (·.name = x.name) = some f :=
      Option.isSome_iff_exists.1 (List.find?_isSome.2 ⟨x, hx, by simp⟩)
    have named : f.name = x.name := by simpa using List.find?_some found
    obtain ⟨d, result⟩ := (detail_isOk_iff c now context found f.type).2 (.inr rfl)
    exact ⟨f, List.mem_of_find?_eq_some found, named,
      Option.isSome_of_eq_some ((entry?_eq_some_iff c now context named).2 ⟨d, result, rfl⟩)⟩

theorem find?_reverse_of_nodup {fs : List FeatureFlag} (distinct : (fs.map (·.name)).Nodup)
    {f : FeatureFlag} (hf : f ∈ fs) : fs.reverse.find? (·.name = f.name) = some f := by
  apply find?_eq_some_of_nodup _ (List.mem_reverse.2 hf)
  rw [List.map_reverse]
  exact List.nodup_reverse.2 distinct

theorem collects_all (c : Config) (served : Option Served) (now : Moment) (context : Context) :
    Collects c served now context (c.all served now context).result := by
  constructor
  · rintro s rfl
    exact pairwise_allIn c s.specification now context _ List.Pairwise.nil
  · rintro s rfl name
    exact names_all c s now context name
  · rintro s name f g rfl found last
    exact entry_allIn c now context found last
  · rintro s name f g rfl found last
    obtain ⟨d, result⟩ := (detail_isOk_iff c now context found f.type).2 (.inr rfl)
    obtain ⟨d', result', entry⟩ := entry_allIn c now context found last
    have typed := (explains_detail c (some s) now context name f.type).typed d result
    have typed' := (explains_detail c (some s) now context name _).typed d' result'
    refine ⟨d, result, ?_⟩
    rw [entry, Option.some_inj]
    split at result'
    · next strict =>
      cases result.symm.trans result'
      simp [strict]
    · next lenient =>
      constructor
      · intro same
        rw [if_neg lenient, same, typed] at typed'
        exact .inr typed'.symm
      · intro same
        rw [same.resolve_left lenient, result] at result'
        cases result'
        rfl
  · rintro s rfl distinct f hf
    have found := find?_eq_some_of_nodup distinct hf
    obtain ⟨d, result, entry⟩ :=
      entry_allIn c now context found (find?_reverse_of_nodup distinct hf)
    rw [ite_self] at result
    exact ⟨d, result, entry⟩
  · rintro rfl
    rw [Config.all]
    refine ⟨by simp, fun name => ?_⟩
    have entries := lookup_map_entries (fun name value =>
      (c.fallBack name value.flagType .specificationNotAvailable).result.value) name
        c.fallbacksByName
    simp only [List.map_map, Function.comp_def]
    rw [entries]
    cases named : c.fallbacksByName.lookup name with
    | none => rfl
    | some v => exact congrArg some (c.fallback_of_named named rfl)

theorem collects_of_evaluating {c : Client} (reachable : Reachable c) {inTurn : Bool}
    {context : Context} {p : Task × Client} (evaluating : Evaluating c inTurn (.all context) p)
    {r : Reply} (replied : p.1.reply? = some r) :
    ∃ d served values, Steps c d ∧ Gets c d served ∧
      Collects c.config served d.timeOfDay context values ∧ r = .all values := by
  obtain ⟨d, served, steps, gets, rfl⟩ := evaluating.answered reachable.flight replied
  cases replied
  have collects := collects_all d.config served d.timeOfDay context
  exact ⟨d, served, _, steps, gets, (setup_of_steps steps).1 ▸ collects, rfl⟩

theorem collects_planning : Reachable planning ∧ ∃ p r,
    Evaluating planning true (.all .empty) p ∧ p.1.reply? = some r ∧
      ∃ d served values, Steps planning d ∧ Gets planning d served ∧
        Collects planning.config served d.timeOfDay .empty values ∧ r = .all values := by
  obtain ⟨r, replied⟩ : ∃ r, (planning.begin true (.evaluate (.all .empty))).1.reply? = some r :=
    Option.isSome_iff_exists.1 (by decide +kernel)
  exact ⟨reachable_planning, _, r, .begin, replied,
    collects_of_evaluating reachable_planning .begin replied⟩

/-- Of the two plans an evaluation of one flag finds the first, and that of all flags keeps the
second, for which a fallback stands in. -/
theorem plans_disagree :
    let config : Config := { skipValidation := true }
    let served : Option Served := some ⟨plans, 1⟩
    ∃ f d, plans.flagNamed? "plan" = some f ∧
      (config.detail served .epoch "plan" f.type .empty).result = .ok d ∧
      d.value = .boolean true ∧
      (config.all served .epoch .empty).result = [("plan", .string "")] ∧
      (config.all served .epoch .empty).result.lookup "plan" ≠ some d.value := by
  intro config served
  have found : plans.flagNamed? "plan" =
      some ⟨"first", "plan", none, .boolean, .boolean true, false, []⟩ := by
    rw [Specification.flagNamed?_eq_find?]
    rfl
  have all : (config.all served .epoch .empty).result = [("plan", .string "")] := by
    change (config.allIn plans .epoch .empty [] plans.featureFlags).result = _
    simp only [plans, Config.allIn, Config.detailIn] at found ⊢
    rw [found]
    rfl
  refine ⟨_, ⟨.boolean true, .targetingDisabled⟩, found, ?_, rfl, all, ?_⟩
  · change (config.detailIn plans .epoch "plan" .boolean .empty).result = _
    rw [Config.detailIn, found]
    rfl
  · rw [all]
    decide

end FeatureFlags.Client
