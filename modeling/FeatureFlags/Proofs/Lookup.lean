import FeatureFlags.Evaluation.Condition

namespace FeatureFlags

theorem find?_eq_some_of_nodup [DecidableEq κ] {as : List α} {keyOf : α → κ} {a : α}
    (distinct : (as.map keyOf).Nodup) (h : a ∈ as) : as.find? (keyOf · = keyOf a) = some a := by
  induction as with
  | nil => cases h
  | cons b as ih =>
    obtain ⟨new, distinct⟩ := List.nodup_cons.1 distinct
    rcases List.mem_cons.1 h with rfl | h
    · simp
    · have : keyOf b ≠ keyOf a := fun same => new (same ▸ List.mem_map.2 ⟨a, h, rfl⟩)
      simp [this, ih distinct h]

namespace Index

theorem getElem?_addFrom (index : Index) (position : Nat) (keys : List String) (key : String) :
    (addFrom index position keys)[key]? =
      (index[key]?).or ((keys.findIdx? (· = key)).map (position + ·)) := by
  induction keys generalizing index position with
  | nil => simp [addFrom]
  | cons k keys ih =>
    simp only [addFrom, ih, Std.HashMap.getElem?_insertIfNew]
    by_cases same : k = key
    · subst same
      by_cases present : k ∈ index
      · simp [present]
      · simp [present, List.findIdx?_cons]
    · simp [same, List.findIdx?_cons, Function.comp_def, Nat.add_comm, Nat.add_left_comm]

theorem getElem?_ofKeys (keys : List String) (key : String) :
    (ofKeys keys)[key]? = keys.findIdx? (· = key) := by
  simp [ofKeys, getElem?_addFrom]

theorem bind_getElem?_ofKeys (as : List α) (keyOf : α → String) (key : String) :
    (ofKeys (as.map keyOf))[key]?.bind (as[·]?) = as.find? (keyOf · = key) := by
  rw [getElem?_ofKeys]
  induction as with
  | nil => rfl
  | cons a as ih =>
    by_cases same : keyOf a = key
    · simp [List.findIdx?_cons, same]
    · simp [List.findIdx?_cons, same, ← ih, Option.bind_map, Function.comp_def]

end Index

structure IsFirst (keyOf : α → String) (key : String) (as : List α) (position : Nat) (a : α) :
    Prop where
  stands : as[position]? = some a
  keyed : keyOf a = key
  first : ∀ (earlier : Nat) (b : α), earlier < position → as[earlier]? = some b → keyOf b ≠ key

namespace Index

structure Locates (index : Index) (find : String → Option α) (as : List α) (keyOf : α → String) :
    Prop where
  inside : ∀ (key : String) (position : Nat), index[key]? = some position →
    ∃ h : position < as.length, find key = some as[position]
  stored : ∀ (key : String) (position : Nat), index[key]? = some position ↔
    ∃ a, IsFirst keyOf key as position a
  found : ∀ (key : String) (a : α), find key = some a ↔ ∃ position, IsFirst keyOf key as position a
  missing : ∀ key, find key = none ↔ ∀ a ∈ as, keyOf a ≠ key

theorem getElem?_ofKeys_eq_some_iff {as : List α} {keyOf : α → String} {key : String}
    {position : Nat} :
    (ofKeys (as.map keyOf))[key]? = some position ↔ ∃ a, IsFirst keyOf key as position a := by
  rw [getElem?_ofKeys, List.findIdx?_map, List.findIdx?_eq_some_iff_getElem]
  constructor
  · rintro ⟨inside, keyed, first⟩
    refine ⟨as[position], List.getElem?_eq_getElem inside, by simpa using keyed, ?_⟩
    rintro earlier b less stands
    obtain ⟨_, rfl⟩ := List.getElem?_eq_some_iff.1 stands
    simpa using first earlier less
  · rintro ⟨a, stands, keyed, first⟩
    obtain ⟨inside, rfl⟩ := List.getElem?_eq_some_iff.1 stands
    refine ⟨inside, by simpa using keyed, fun earlier less => ?_⟩
    simpa using first earlier _ less (List.getElem?_eq_getElem (Nat.lt_trans less inside))

theorem locates_ofKeys (as : List α) (keyOf : α → String) :
    (ofKeys (as.map keyOf)).Locates (fun key => (ofKeys (as.map keyOf))[key]?.bind (as[·]?)) as
      keyOf where
  inside key position stored := by
    obtain ⟨a, first⟩ := getElem?_ofKeys_eq_some_iff.1 stored
    obtain ⟨inside, -⟩ := List.getElem?_eq_some_iff.1 first.stands
    exact ⟨inside, by rw [stored, Option.bind_some, List.getElem?_eq_getElem]⟩
  stored _ _ := getElem?_ofKeys_eq_some_iff
  found key a := by
    rw [Option.bind_eq_some_iff]
    constructor
    · rintro ⟨position, stored, stands⟩
      obtain ⟨b, first⟩ := getElem?_ofKeys_eq_some_iff.1 stored
      obtain rfl : b = a := Option.some.inj (first.stands.symm.trans stands)
      exact ⟨position, first⟩
    · rintro ⟨position, first⟩
      exact ⟨position, getElem?_ofKeys_eq_some_iff.2 ⟨a, first⟩, first.stands⟩
  missing key := by
    rw [bind_getElem?_ofKeys, List.find?_eq_none]
    simp

end Index

namespace Specification

variable (S : Specification) (key : String)

theorem flag?_eq_find? : S.flag? key = S.featureFlags.find? (·.id = key) := by
  simp [flag?, S.flagsById_eq, Index.bind_getElem?_ofKeys]

theorem flagNamed?_eq_find? : S.flagNamed? key = S.featureFlags.find? (·.name = key) := by
  simp [flagNamed?, S.flagsByName_eq, Index.bind_getElem?_ofKeys]

theorem segment?_eq_find? : S.segment? key = S.segments.find? (·.id = key) := by
  simp [segment?, S.segmentsById_eq, Index.bind_getElem?_ofKeys]

theorem property?_eq_find? : S.property? key = S.properties.find? (·.id = key) := by
  simp [property?, S.propertiesById_eq, Index.bind_getElem?_ofKeys]

variable {S key}

theorem segment?_id {s : Segment} (h : S.segment? key = some s) : s.id = key := by
  rw [segment?_eq_find?] at h
  simpa using List.find?_some h

theorem property?_id {p : Property} (h : S.property? key = some p) : p.id = key := by
  rw [property?_eq_find?] at h
  simpa using List.find?_some h

structure Indexed (S : Specification) : Prop where
  flags : S.flagsById.Locates S.flag? S.featureFlags (·.id)
  flagNames : S.flagsByName.Locates S.flagNamed? S.featureFlags (·.name)
  segments : S.segmentsById.Locates S.segment? S.segments (·.id)
  properties : S.propertiesById.Locates S.property? S.properties (·.id)

/-- Lookups agree with the lists, however the specification came about and whether or not it is
valid. -/
theorem indexed (S : Specification) : S.Indexed := by
  obtain ⟨version, flags, segments, properties, _, _, _, _, rfl, rfl, rfl, rfl⟩ := S
  constructor
  · exact Index.locates_ofKeys flags (·.id)
  · exact Index.locates_ofKeys flags (·.name)
  · exact Index.locates_ofKeys segments (·.id)
  · exact Index.locates_ofKeys properties (·.id)

example : property? ⟨1, [], [], [⟨"p", "First", ["a"], .string, false⟩,
    ⟨"p", "Second", ["b"], .string, false⟩], _, _, _, _, rfl, rfl, rfl, rfl⟩ "p" =
      some ⟨"p", "First", ["a"], .string, false⟩ := by
  rw [property?_eq_find?]
  rfl

end Specification

end FeatureFlags
