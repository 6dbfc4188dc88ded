import FeatureFlags.Property
import Mathlib.Logic.Basic

namespace FeatureFlags

namespace Json

inductive Leads : Json → List String → Json → Prop
  | here (j : Json) : Leads j [] j
  | into : members.lookup key = some j → Leads j path target →
    Leads (.object members) (key :: path) target

inductive Breaks : Json → List String → Prop
  | missing : members.lookup key = none → Breaks (.object members) (key :: path)
  | noObject : j.object? = none → Breaks j (key :: path)
  | into : members.lookup key = some j → Breaks j path → Breaks (.object members) (key :: path)

theorem follow_eq_some_iff {j target : Json} {path : List String} :
    j.follow path = some target ↔ j.Leads path target := by
  constructor
  · intro h
    induction path generalizing j with
    | nil =>
      cases j <;> cases h <;> exact .here _
    | cons key path ih =>
      cases j with
      | object members =>
        obtain ⟨k, found, h⟩ := Option.bind_eq_some_iff.1 h
        exact .into found (ih h)
      | _ => cases h
  · intro h
    induction h with
    | here j => cases j <;> rfl
    | into found _ ih => exact Option.bind_eq_some_iff.2 ⟨_, found, ih⟩

theorem follow_eq_none_iff {j : Json} {path : List String} :
    j.follow path = none ↔ j.Breaks path := by
  constructor
  · intro h
    induction path generalizing j with
    | nil => cases j <;> cases h
    | cons key path ih =>
      cases j with
      | object members =>
        cases found : members.lookup key with
        | none => exact .missing found
        | some k => exact .into found (ih (by simpa [follow, found] using h))
      | _ => exact .noObject rfl
  · intro h
    induction h with
    | missing missing => simp [follow, missing]
    | @noObject j _ _ other =>
      cases j with
      | object members => cases other
      | _ => rfl
    | into found _ ih => simp [follow, found, ih]

theorem follow_nil (j : Json) : j.follow [] = some j := by
  cases j <;> rfl

theorem follow_append (j : Json) (p q : List String) :
    j.follow (p ++ q) = (j.follow p).bind (·.follow q) := by
  induction p generalizing j with
  | nil => rw [follow_nil, List.nil_append, Option.bind_some]
  | cons key p ih =>
    cases j with
    | object members =>
      cases found : members.lookup key with
      | none => simp [follow, found]
      | some k => simp [follow, found, ih]
    | _ => rfl

end Json

namespace Context

variable {c : Context} {path : List String} {j : Json}

theorem valueAt_of_ne_nil (given : path ≠ []) :
    c.valueAt path = (c.toJson.follow path).filter fun j => !j.isNull := by
  cases path with
  | nil => exact absurd rfl given
  | cons key path => rfl

theorem valueAt_eq_some_iff :
    c.valueAt path = some j ↔ path ≠ [] ∧ c.toJson.Leads path j ∧ j ≠ .null := by
  have notNull : j.isNull = false ↔ j ≠ .null := by cases j <;> simp [Json.isNull]
  cases path with
  | nil => simp [valueAt]
  | cons key path =>
    rw [valueAt_of_ne_nil (List.cons_ne_nil _ _), Option.filter_eq_some_iff,
      Json.follow_eq_some_iff]
    simp [notNull]

theorem valueAt_eq_none_iff : c.valueAt path = none ↔
    path = [] ∨ c.toJson.Breaks path ∨ c.toJson.Leads path .null := by
  cases path with
  | nil => simp [valueAt]
  | cons key path =>
    rw [valueAt_of_ne_nil (List.cons_ne_nil _ _), ← Json.follow_eq_none_iff,
      ← Json.follow_eq_some_iff]
    cases c.toJson.follow (key :: path) with
    | none => simp
    | some j => cases j <;> simp [Json.isNull, Option.filter]

theorem valueAt_append {p q : List String} (hp : p ≠ []) (hq : q ≠ []) :
    c.valueAt (p ++ q) = ((c.valueAt p).bind ofJson?).bind (·.valueAt q) := by
  rw [valueAt_of_ne_nil (List.append_ne_nil_of_left_ne_nil hp q), Json.follow_append,
    valueAt_of_ne_nil hp]
  cases c.toJson.follow p with
  | none => rfl
  | some j =>
    obtain ⟨key, q, rfl⟩ := List.exists_cons_of_ne_nil hq
    cases j <;> rfl

structure Nested (c : Context) : Prop where
  into : ∀ p q members, p ≠ [] → q ≠ [] → c.valueAt p = some (.object members) →
    c.valueAt (p ++ q) = valueAt ⟨members⟩ q
  astray : ∀ p q, p ≠ [] → q ≠ [] → (∀ members, c.valueAt p ≠ some (.object members)) →
    c.valueAt (p ++ q) = none

theorem nested (c : Context) : c.Nested := by
  constructor
  · intro p q members hp hq found
    rw [valueAt_append hp hq, found]
    rfl
  · intro p q hp hq astray
    rw [valueAt_append hp hq]
    cases found : c.valueAt p with
    | none => rfl
    | some j =>
      cases j with
      | object members => exact absurd found (astray members)
      | _ => rfl

end Context

/-- A value has a type, and what it is read as holds all that is in it. -/
inductive PropertyType.Reads : PropertyType → Json → PropertyValue → Prop
  | boolean (b : Bool) : Reads .boolean (.boolean b) (.boolean b)
  | number (n : Json.Number) : Reads .number (.number n) (.number n.toDouble)
  | string (s : String) : Reads .string (.string s) (.string s)
  | booleanArray (bs : List Bool) :
    Reads .booleanArray (.array (bs.map .boolean)) (.booleanArray bs)
  | numberArray (ns : List Json.Number) :
    Reads .numberArray (.array (ns.map .number)) (.numberArray (ns.map (·.toDouble)))
  | stringArray (ss : List String) : Reads .stringArray (.array (ss.map .string)) (.stringArray ss)

theorem mapM_eq_some_iff {f : α → Option β} {g : γ → α} {h : γ → β}
    (one : ∀ a b, f a = some b ↔ ∃ c, a = g c ∧ h c = b) {as : List α} {bs : List β} :
    as.mapM f = some bs ↔ ∃ cs : List γ, as = cs.map g ∧ cs.map h = bs := by
  induction as generalizing bs with
  | nil => simp [eq_comm]
  | cons a as ih =>
    simp only [List.mapM_cons, Option.bind_eq_bind, Option.bind_eq_some_iff, Option.pure_def,
      Option.some.injEq, ih, one]
    constructor
    · rintro ⟨b, ⟨c, rfl, rfl⟩, bs, ⟨cs, rfl, rfl⟩, rfl⟩
      exact ⟨c :: cs, rfl, rfl⟩
    · rintro ⟨_ | ⟨c, cs⟩, same, rfl⟩
      · cases same
      · cases same
        exact ⟨h c, ⟨c, rfl, rfl⟩, cs.map h, ⟨cs, rfl, rfl⟩, rfl⟩

namespace Json

variable {j : Json}

theorem boolean?_eq_some_iff {b : Bool} : j.boolean? = some b ↔ j = .boolean b := by
  cases j <;> simp [boolean?]

theorem double?_eq_some_iff {d : Double} :
    j.double? = some d ↔ ∃ n, j = .number n ∧ n.toDouble = d := by
  cases j <;> simp [double?]

theorem string?_eq_some_iff {s : String} : j.string? = some s ↔ j = .string s := by
  cases j <;> simp [string?]

theorem array?_eq_some_iff {js : List Json} : j.array? = some js ↔ j = .array js := by
  cases j <;> simp [array?]

theorem mapM_boolean?_eq_some_iff {js : List Json} {bs : List Bool} :
    js.mapM boolean? = some bs ↔ js = bs.map .boolean := by
  simpa using mapM_eq_some_iff (g := Json.boolean) (h := id) fun j b => by
    simp [boolean?_eq_some_iff]

theorem mapM_double?_eq_some_iff {js : List Json} {ds : List Double} :
    js.mapM double? = some ds ↔ ∃ ns : List Number, js = ns.map .number ∧ ns.map (·.toDouble) = ds :=
  mapM_eq_some_iff fun _ _ => double?_eq_some_iff

theorem mapM_string?_eq_some_iff {js : List Json} {ss : List String} :
    js.mapM string? = some ss ↔ js = ss.map .string := by
  simpa using mapM_eq_some_iff (g := Json.string) (h := id) fun j s => by
    simp [string?_eq_some_iff]

end Json

theorem PropertyType.read?_eq_some_iff {type : PropertyType} {j : Json} {v : PropertyValue} :
    type.read? j = some v ↔ type.Reads j v := by
  constructor
  · intro h
    cases type <;> simp only [read?, Option.map_eq_some_iff, Option.bind_eq_bind,
      Option.bind_eq_some_iff, Option.pure_def, Option.some.injEq, Json.boolean?_eq_some_iff,
      Json.double?_eq_some_iff, Json.string?_eq_some_iff, Json.array?_eq_some_iff,
      Json.mapM_boolean?_eq_some_iff, Json.mapM_double?_eq_some_iff,
      Json.mapM_string?_eq_some_iff] at h
    case boolean =>
      obtain ⟨b, rfl, rfl⟩ := h
      exact .boolean b
    case number =>
      obtain ⟨_, ⟨n, rfl, rfl⟩, rfl⟩ := h
      exact .number n
    case string =>
      obtain ⟨s, rfl, rfl⟩ := h
      exact .string s
    case booleanArray =>
      obtain ⟨_, rfl, bs, rfl, rfl⟩ := h
      exact .booleanArray bs
    case numberArray =>
      obtain ⟨_, rfl, _, ⟨ns, rfl, rfl⟩, rfl⟩ := h
      exact .numberArray ns
    case stringArray =>
      obtain ⟨_, rfl, ss, rfl, rfl⟩ := h
      exact .stringArray ss
  · intro h
    cases h with
    | boolean b => rfl
    | number n => rfl
    | string s => rfl
    | booleanArray bs =>
      simp [read?, Json.array?, Json.mapM_boolean?_eq_some_iff.2 rfl]
    | numberArray ns =>
      simp [read?, Json.array?, Json.mapM_double?_eq_some_iff.2 ⟨ns, rfl, rfl⟩]
    | stringArray ss =>
      simp [read?, Json.array?, Json.mapM_string?_eq_some_iff.2 rfl]

namespace Property

structure Classified (p : Property) (c : Context) : Prop where
  resolved : ∀ v, p.resolve c = .ok v ↔
    ∃ j, c.toJson.Leads p.path j ∧ j ≠ .null ∧ p.type.Reads j v
  notFound : p.resolve c = .error .notFound ↔
    p.path = [] ∨ c.toJson.Breaks p.path ∨ c.toJson.Leads p.path .null
  incorrectDataType : p.resolve c = .error .incorrectDataType ↔
    p.path ≠ [] ∧ ∃ j, c.toJson.Leads p.path j ∧ j ≠ .null ∧ ∀ v, ¬ p.type.Reads j v

variable {p : Property} {c : Context}

theorem resolve_eq_ok_iff {v : PropertyValue} :
    p.resolve c = .ok v ↔ ∃ j, c.valueAt p.path = some j ∧ p.type.read? j = some v := by
  unfold resolve
  cases c.valueAt p.path with
  | none => simp
  | some j => cases read : p.type.read? j <;> simp [read]

theorem resolve_eq_notFound_iff : p.resolve c = .error .notFound ↔ c.valueAt p.path = none := by
  unfold resolve
  cases c.valueAt p.path with
  | none => simp
  | some j => cases read : p.type.read? j <;> simp [read]

theorem resolve_eq_incorrectDataType_iff : p.resolve c = .error .incorrectDataType ↔
    ∃ j, c.valueAt p.path = some j ∧ p.type.read? j = none := by
  unfold resolve
  cases c.valueAt p.path with
  | none => simp
  | some j => cases read : p.type.read? j <;> simp [read]

theorem classified (p : Property) (c : Context) : p.Classified c := by
  constructor
  · intro v
    simp only [resolve_eq_ok_iff, Context.valueAt_eq_some_iff, PropertyType.read?_eq_some_iff]
    constructor
    · rintro ⟨j, ⟨-, leads, given⟩, reads⟩
      exact ⟨j, leads, given, reads⟩
    · rintro ⟨j, leads, given, reads⟩
      refine ⟨j, ⟨?_, leads, given⟩, reads⟩
      -- the context itself, at the empty path, has no type
      intro none
      rw [none] at leads
      cases leads
      generalize p.type = type at reads
      cases reads
  · rw [resolve_eq_notFound_iff, Context.valueAt_eq_none_iff]
  · simp only [resolve_eq_incorrectDataType_iff, Context.valueAt_eq_some_iff,
      Option.eq_none_iff_forall_ne_some, ne_eq, PropertyType.read?_eq_some_iff]
    constructor
    · rintro ⟨j, ⟨path, leads, given⟩, mistyped⟩
      exact ⟨path, j, leads, given, mistyped⟩
    · rintro ⟨path, j, leads, given, mistyped⟩
      exact ⟨j, ⟨path, leads, given⟩, mistyped⟩

end Property

/-- Every property is resolved in every context by following its path, and what a longer path leads
to is found in the object that the first part of it leads to. -/
theorem resolves_along_paths :
    (∀ (p : Property) (c : Context), p.Classified c) ∧ ∀ c : Context, c.Nested :=
  ⟨Property.classified, Context.nested⟩

end FeatureFlags
