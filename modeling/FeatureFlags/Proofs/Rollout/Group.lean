import FeatureFlags.Rollout
import FeatureFlags.Specification
import FeatureFlags.Proofs.Resolution
import FeatureFlags.Proofs.Text
import FeatureFlags.Proofs.Rollout.Hash
import FeatureFlags.Proofs.Rollout.Permutation
import Mathlib.Data.List.Forall2
import Mathlib.Data.List.Nodup

namespace FeatureFlags

namespace Decimal

theorem positional_ne_empty (whole : String) (d : Decimal) : d.positional whole ≠ "" := by
  have digits : Nat.toDigits 10 d.digits ≠ [] := Nat.toDigits_ne_nil
  unfold positional
  simp only [ne_eq, ← String.toList_inj]
  split
  · simp [digits]
  split <;> simp

end Decimal

namespace Double

theorem display_ne_empty (d : Double) : d.display ≠ "" := by
  unfold display
  split
  · decide
  split
  · simp
  · simp [Decimal.positional_ne_empty]

theorem isNegative_ofRatio (num den : Nat) : (ofRatio false num den).isNegative = false := by
  have small := lt_signBit_of_le (nearestMagnitude_le (num * unitsInOne) den)
  rw [isNegative, ofRatio, toNat_bits_ofMagnitude small]
  simpa using small

end Double

namespace PropertyValue

theorem numberKey_of_equal {a b : Double} (h : a.equal b) : numberKey a = numberKey b := by
  rcases (Double.equal_iff.1 h).2.2 with rfl | ⟨za, zb⟩
  · rfl
  · have zero {d : Double} (h : d.magnitude = 0) : d.equal .zero := by
      apply Double.equal_iff.2
      refine ⟨?_, rfl, .inr ⟨h, rfl⟩⟩
      simp [Double.isNaN, h]
    simp [numberKey, zero za, zero zb]

theorem rolloutKey_eq_empty_iff {v : PropertyValue} :
    v.rolloutKey = "" ↔ ∃ s, v = .string s ∧ ∀ c ∈ s.toList, Text.isBlank c := by
  have bracketed_ne (parts : List String) : bracketed parts ≠ "" := by
    simp [bracketed, ← String.toList_inj]
  cases v with
  | boolean b => cases b <;> simp [rolloutKey]
  | number d =>
    simp only [rolloutKey, numberKey]
    split <;> simp [Double.display_ne_empty]
  | string s => simp [rolloutKey, Text.trim_eq_empty_iff]
  | booleanArray bs => simp [rolloutKey, bracketed_ne]
  | numberArray ds => simp [rolloutKey, bracketed_ne]
  | stringArray ss => simp [rolloutKey, bracketed_ne]

end PropertyValue

namespace Property

inductive Tells (p : Property) (c : Context) : String × String → Prop
  | key {v : PropertyValue} : p.resolve c = .ok v → v.rolloutKey ≠ "" → Tells p c (p.id, v.rolloutKey)

inductive Silent (p : Property) (c : Context) : Prop
  | missing : c.valueAt p.path = none → Silent p c
  | mistyped {j : Json} : c.valueAt p.path = some j → p.type.read? j = none → Silent p c
  | blank {s : String} : c.valueAt p.path = some (.string s) → p.type = .string →
    (∀ ch ∈ s.toList, Text.isBlank ch) → Silent p c

def contribution? (p : Property) (c : Context) : Option (String × String) :=
  match p.resolve c with
  | .ok v => if v.rolloutKey = "" then none else some (p.id, v.rolloutKey)
  | .error _ => none

variable {p : Property} {c d : Context}

theorem contribution?_eq_some_iff {pair : String × String} :
    p.contribution? c = some pair ↔ p.Tells c pair := by
  unfold contribution?
  constructor
  · intro h
    split at h
    · next v resolved =>
      split at h
      · cases h
      · next nonempty =>
        cases h
        exact .key resolved nonempty
    · cases h
  · rintro ⟨resolved, nonempty⟩
    simp [resolved, nonempty]

theorem contribution?_eq_none_iff : p.contribution? c = none ↔ p.Silent c := by
  unfold contribution? resolve
  constructor
  · intro h
    cases found : c.valueAt p.path with
    | none => exact .missing found
    | some j =>
      cases read : p.type.read? j with
      | none => exact .mistyped found read
      | some v =>
        simp only [found, read, ite_eq_left_iff, reduceCtorEq, imp_false, not_not] at h
        obtain ⟨s, rfl, blank⟩ := PropertyValue.rolloutKey_eq_empty_iff.1 h
        generalize type : p.type = t at read
        cases PropertyType.read?_eq_some_iff.1 read
        exact .blank found type blank
  · rintro (missing | ⟨found, mistyped⟩ | ⟨found, type, blank⟩)
    · simp [missing]
    · simp [found, mistyped]
    · have empty := Text.trim_eq_empty_iff.2 blank
      simp [found, type, PropertyType.read?, Json.string?, PropertyValue.rolloutKey, empty]

end Property

/-- One value spelled in two ways: white space around a text; a number of either form and, if it is
zero, of either sign, also inside an array. -/
inductive Json.Respells : Json → Json → Prop
  | refl (j : Json) : Respells j j
  | symm {j k : Json} : Respells j k → Respells k j
  | surround {before after : List Char} (s : String) : (∀ c ∈ before, Text.isBlank c) →
    (∀ c ∈ after, Text.isBlank c) →
    Respells (.string s) (.string (String.ofList before ++ s ++ String.ofList after))
  | number {m n : Json.Number} : m.toDouble.equal n.toDouble → Respells (.number m) (.number n)
  | numbers {ms ns : List Json.Number} :
    List.Forall₂ (fun m n => m.toDouble.equal n.toDouble) ms ns →
    Respells (.array (ms.map .number)) (.array (ns.map .number))

def PropertyType.key? (type : PropertyType) (j : Json) : Option String :=
  (type.read? j).map (·.rolloutKey)

namespace Json.Respells

theorem key?_numbers (ns : List Json.Number) :
    PropertyType.numberArray.key? (.array (ns.map .number)) =
      some (PropertyValue.bracketed (ns.map (PropertyValue.numberKey ·.toDouble))) := by
  rw [PropertyType.key?, PropertyType.read?_eq_some_iff.2 (.numberArray ns)]
  simp [PropertyValue.rolloutKey, Function.comp_def]

theorem key?_eq {j k : Json} (h : j.Respells k) (type : PropertyType) :
    type.key? j = type.key? k := by
  induction h with
  | refl j => rfl
  | symm _ ih => exact ih.symm
  | surround s before after =>
    cases type
    case string =>
      simp [PropertyType.key?, PropertyType.read?, Json.string?, PropertyValue.rolloutKey,
        Text.trim_surround s before after]
    all_goals rfl
  | number equal =>
    cases type
    case number =>
      simp [PropertyType.key?, PropertyType.read?, Json.double?, PropertyValue.rolloutKey,
        PropertyValue.numberKey_of_equal equal]
    all_goals rfl
  | @numbers ms ns equal =>
    have keys : ms.map (PropertyValue.numberKey ·.toDouble) =
        ns.map (PropertyValue.numberKey ·.toDouble) := by
      induction equal with
      | nil => rfl
      | cons equal _ ih => simp [PropertyValue.numberKey_of_equal equal, ih]
    cases type
    case numberArray =>
      rw [key?_numbers, key?_numbers, keys]
    case boolean => rfl
    case number => rfl
    case string => rfl
    -- an array of numbers that is one of another type is empty
    all_goals cases equal <;> rfl

end Json.Respells

namespace Property

variable {p : Property} {c d : Context}

inductive Respelled (p : Property) (c d : Context) : Prop
  | silent : p.Silent c → p.Silent d → Respelled p c d
  | value {j k : Json} : c.valueAt p.path = some j → d.valueAt p.path = some k → j.Respells k →
    Respelled p c d

theorem Respelled.contribution?_eq (h : p.Respelled c d) :
    p.contribution? c = p.contribution? d := by
  cases h with
  | silent inC inD =>
    rw [contribution?_eq_none_iff.2 inC, contribution?_eq_none_iff.2 inD]
  | @value j k inC inD same =>
    have keys := same.key?_eq p.type
    unfold PropertyType.key? at keys
    unfold contribution? resolve
    rw [inC, inD]
    cases readJ : p.type.read? j <;> cases readK : p.type.read? k <;> simp_all

theorem silent_iff : p.Silent c ↔ ∀ pair, ¬ p.Tells c pair := by
  simp only [← contribution?_eq_none_iff, ← contribution?_eq_some_iff, Option.eq_none_iff_forall_ne_some,
    ne_eq]

end Property

namespace Rollout

def discriminators (S : Specification) : List Property :=
  S.properties.filter (·.rolloutDiscriminator)

inductive Pairs (S : Specification) (c : Context) (pair : String × String) : Prop
  | of {p : Property} : p ∈ discriminators S → p.Tells c pair → Pairs S c pair

def sortedPairs (S : Specification) (c : Context) : List (String × String) :=
  ((discriminators S).mergeSort precedes).filterMap (·.contribution? c)

variable {S T : Specification} {c d : Context}

theorem mem_sortedPairs {pair : String × String} : pair ∈ sortedPairs S c ↔ Pairs S c pair := by
  simp only [sortedPairs, List.mem_filterMap, List.mem_mergeSort,
    Property.contribution?_eq_some_iff]
  exact ⟨fun ⟨p, hp, tells⟩ => .of hp tells, fun ⟨hp, tells⟩ => ⟨_, hp, tells⟩⟩

theorem join_filterMap (f : α → Option String) (as : List α) :
    String.join (as.filterMap f) = String.join (as.map fun a => (f a).getD "") := by
  induction as with
  | nil => rfl
  | cons a as ih => cases h : f a <;> simp [h, ih]

theorem key_eq_join (S : Specification) (c : Context) :
    key S.properties c = String.join ((sortedPairs S c).map (·.2)) := by
  have added (p : Property) : ((p.resolve c).toOption.map (·.rolloutKey)).getD "" =
      ((p.contribution? c).map (·.2)).getD "" := by
    unfold Property.contribution?
    cases p.resolve c with
    | error e => rfl
    | ok v => by_cases empty : v.rolloutKey = "" <;> simp [Except.toOption, empty]
  rw [key, sortedPairs, List.map_filterMap, join_filterMap, join_filterMap]
  simp only [added]
  rfl

theorem pairwise_sortedPairs (S : Specification) (c : Context) :
    (sortedPairs S c).Pairwise fun a b => (compare a.1 b.1).isLE := by
  have isLE (p q : Property) : precedes p q = (compare p.id q.id).isLE := by
    unfold precedes
    cases compare p.id q.id <;> rfl
  have sorted := fun trans total => @List.pairwise_mergeSort _ precedes trans total (discriminators S)
  simp only [isLE] at sorted
  apply List.Pairwise.filterMap (R := fun p q => (compare p.id q.id).isLE)
  · intro p q le a ha b hb
    cases Property.contribution?_eq_some_iff.1 ha
    cases Property.contribution?_eq_some_iff.1 hb
    exact le
  · apply sorted
    · exact fun a b c => Std.TransOrd.isLE_trans
    · intro p q
      rw [Std.OrientedOrd.eq_swap (a := p.id)]
      cases compare q.id p.id <;> rfl

theorem nodup_sortedPairs (distinct : ((discriminators S).map (·.id)).Nodup) :
    ((sortedPairs S c).map (·.1)).Nodup := by
  rw [List.Nodup, List.pairwise_map]
  apply List.Pairwise.filterMap (R := fun p q : Property => p.id ≠ q.id)
  · intro p q differ a ha b hb
    cases Property.contribution?_eq_some_iff.1 ha
    cases Property.contribution?_eq_some_iff.1 hb
    exact differ
  · rw [← List.pairwise_map]
    exact ((List.mergeSort_perm (discriminators S) precedes).map (·.id)).nodup_iff.2 distinct

theorem sortedPairs_of_pairs (distinctS : ((discriminators S).map (·.id)).Nodup)
    (distinctT : ((discriminators T).map (·.id)).Nodup)
    (same : ∀ pair, Pairs S c pair ↔ Pairs T d pair) : sortedPairs S c = sortedPairs T d := by
  have members (pair : String × String) : pair ∈ sortedPairs S c ↔ pair ∈ sortedPairs T d := by
    rw [mem_sortedPairs, mem_sortedPairs, same]
  have nodupS : ((sortedPairs S c).map (·.1)).Nodup := nodup_sortedPairs distinctS
  have nodupT : ((sortedPairs T d).map (·.1)).Nodup := nodup_sortedPairs distinctT
  apply @List.Perm.eq_of_pairwise _ fun a b : String × String => (compare a.1 b.1).isLE
  · intro a b ha hb ab ba
    have sameId : a.1 = b.1 := Std.LawfulEqOrd.eq_of_compare (Std.OrientedCmp.isLE_antisymm ab ba)
    exact List.inj_on_of_nodup_map nodupS ha ((members b).2 hb) sameId
  · exact pairwise_sortedPairs S c
  · exact pairwise_sortedPairs T d
  · exact (List.perm_ext_iff_of_nodup nodupS.of_map nodupT.of_map).2 members

theorem key_eq_empty_iff : key S.properties c = "" ↔ ∀ p ∈ discriminators S, p.Silent c := by
  have silent : sortedPairs S c = [] ↔ ∀ p ∈ discriminators S, p.Silent c := by
    simp [sortedPairs, List.filterMap_eq_nil_iff, List.mem_mergeSort,
      Property.contribution?_eq_none_iff]
  rw [← silent, key_eq_join]
  cases pairs : sortedPairs S c with
  | nil => simp
  | cons pair rest =>
    obtain ⟨-, -, nonempty⟩ := mem_sortedPairs.1 (pairs ▸ List.mem_cons_self : pair ∈ sortedPairs S c)
    simp [nonempty]

theorem group_of_key (S : Specification) (c : Context) : group S.properties c =
    if key S.properties c = "" then unknownGroup
    else .ofRatio false (Hash.within 10000 (key S.properties c)).toNat 100 := by
  simp [group]

theorem group_eq_unknownGroup_iff :
    group S.properties c = unknownGroup ↔ ∀ p ∈ discriminators S, p.Silent c := by
  rw [group_of_key, ← key_eq_empty_iff]
  refine ⟨fun unknown => ?_, fun empty => if_pos empty⟩
  by_contra nonempty
  rw [if_neg nonempty] at unknown
  have sign : unknownGroup.isNegative = true := by decide +kernel
  rw [← unknown, Double.isNegative_ofRatio] at sign
  cases sign

theorem exists_group_eq (known : group S.properties c ≠ unknownGroup) :
    ∃ k ≤ 10000, group S.properties c = .ofRatio false k 100 := by
  rw [group_of_key] at known ⊢
  split at known
  · exact absurd rfl known
  · next nonempty =>
    rw [if_neg nonempty]
    exact ⟨_, Hash.toNat_within_le 10000 _, rfl⟩

theorem group_of_pairs (distinctS : ((discriminators S).map (·.id)).Nodup)
    (distinctT : ((discriminators T).map (·.id)).Nodup)
    (same : ∀ pair, Pairs S c pair ↔ Pairs T d pair) :
    group S.properties c = group T.properties d := by
  rw [group_of_key, group_of_key, key_eq_join, key_eq_join,
    sortedPairs_of_pairs distinctS distinctT same]

/-- What the group of a context goes by: which discriminators have a key, and these keys. -/
structure GoesByPairs (S : Specification) (c : Context) : Prop where
  same : ∀ T d, ((discriminators T).map (·.id)).Nodup →
    (∀ pair, Pairs S c pair ↔ Pairs T d pair) → group S.properties c = group T.properties d
  respelled : ∀ d, (∀ p ∈ discriminators S, p.Respelled c d) →
    group S.properties c = group S.properties d
  silent : ∀ T, ((discriminators T).map (·.id)).Nodup →
    (∀ p, ¬ p.Silent c → (p ∈ discriminators S ↔ p ∈ discriminators T)) →
    group S.properties c = group T.properties c
  unknown : group S.properties c = unknownGroup ↔ ∀ pair, ¬ Pairs S c pair
  known : (∃ pair, Pairs S c pair) → ∃ k ≤ 10000, group S.properties c = .ofRatio false k 100

theorem goesByPairs {S : Specification} (distinct : ((discriminators S).map (·.id)).Nodup)
    (c : Context) : GoesByPairs S c := by
  have unknown : group S.properties c = unknownGroup ↔ ∀ pair, ¬ Pairs S c pair := by
    rw [group_eq_unknownGroup_iff]
    constructor
    · rintro silent pair ⟨hp, tells⟩
      exact Property.silent_iff.1 (silent _ hp) pair tells
    · intro none p hp
      exact Property.silent_iff.2 fun pair tells => none pair (.of hp tells)
  constructor
  · exact fun T d distinctT same => group_of_pairs distinct distinctT same
  · intro d respelled
    apply group_of_pairs distinct distinct
    have tells {p : Property} (hp : p ∈ discriminators S) (pair : String × String) :
        p.Tells c pair ↔ p.Tells d pair := by
      simp only [← Property.contribution?_eq_some_iff, (respelled p hp).contribution?_eq]
    exact fun pair => ⟨fun ⟨hp, h⟩ => .of hp ((tells hp pair).1 h),
      fun ⟨hp, h⟩ => .of hp ((tells hp pair).2 h)⟩
  · intro T distinctT same
    apply group_of_pairs distinct distinctT
    have speaks {p : Property} {pair : String × String} (h : p.Tells c pair) : ¬ p.Silent c :=
      fun silent => Property.silent_iff.1 silent pair h
    exact fun pair => ⟨fun ⟨hp, h⟩ => .of ((same _ (speaks h)).1 hp) h,
      fun ⟨hp, h⟩ => .of ((same _ (speaks h)).2 hp) h⟩
  · exact unknown
  · rintro ⟨pair, h⟩
    exact exists_group_eq fun h' => unknown.1 h' pair h

def cohort : Specification := { Specification.empty with
  properties := [⟨"z", "organisation", ["org"], .string, true⟩,
    ⟨"a", "user", ["user", "id"], .number, true⟩, ⟨"m", "levels", ["levels"], .numberArray, true⟩,
    ⟨"b", "plan", ["plan"], .string, true⟩]
  propertiesById := .ofKeys ["z", "a", "m", "b"]
  propertiesById_eq := rfl }

def member : Context :=
  ⟨[("levels", .array [.nat 0, .nat 3]), ("org", .string "acme"), ("plan", .string " "),
    ("user", .object [("id", .nat 42)])]⟩

def memberRespelled : Context :=
  ⟨[("levels", .array [.double Double.zero.neg, .double (.ofInt 3)]), ("org", .string " acme "),
    ("plan", .nat 7), ("user", .object [("id", .double (.ofInt 42))])]⟩

theorem goesByPairs_cohort : ((discriminators cohort).map (·.id)).Nodup ∧
    group cohort.properties member = group cohort.properties memberRespelled := by
  have distinct : ((discriminators cohort).map (·.id)).Nodup := by decide
  refine ⟨distinct, (goesByPairs distinct member).respelled memberRespelled ?_⟩
  have blank : ∀ ch ∈ [' '], Text.isBlank ch := List.forall_mem_singleton.2 rfl
  intro p hp
  simp only [discriminators, cohort, List.filter_cons_of_pos, List.filter_nil, List.mem_cons,
    List.not_mem_nil, or_false] at hp
  rcases hp with rfl | rfl | rfl | rfl
  · exact .value rfl rfl (.surround "acme" blank blank)
  · exact .value rfl rfl (.number (by decide +kernel))
  · refine .value rfl rfl (@Json.Respells.numbers [.integer 0, .integer 3]
      [.double Double.zero.neg, .double (.ofInt 3)] ?_)
    exact .cons (by decide +kernel) (.cons (by decide +kernel) .nil)
  · exact .silent (.blank rfl rfl blank) (.mistyped rfl rfl)

end Rollout

end FeatureFlags
