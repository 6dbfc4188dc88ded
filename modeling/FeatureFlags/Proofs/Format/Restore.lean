import FeatureFlags.Proofs.Calendar
import FeatureFlags.Proofs.Format.Agreement
import FeatureFlags.Proofs.Json.Restore
import FeatureFlags.Proofs.Validity

namespace FeatureFlags

open Json

class LawfulNamed (α : Type) [Named α] : Prop where
  lookup_name (a : α) : (Named.table α).lookup (Named.name a) = some a

namespace Named

instance : LawfulNamed FlagType := ⟨fun t => by cases t <;> decide⟩

instance : LawfulNamed PropertyType := ⟨fun t => by cases t <;> decide⟩

instance : LawfulNamed Quantifier := ⟨fun q => by cases q <;> decide⟩

instance : LawfulNamed BooleanOperator := ⟨fun op => by cases op <;> decide⟩

instance : LawfulNamed NumberOperator := ⟨fun op => by cases op <;> decide⟩

instance : LawfulNamed StringOperator := ⟨fun op => by cases op <;> decide⟩

instance : LawfulNamed SetOperator := ⟨fun op => by cases op <;> decide⟩

instance : LawfulNamed SegmentOperator := ⟨fun op => by cases op <;> decide⟩

instance : LawfulNamed DateTimeOperator := ⟨fun op => by cases op <;> decide⟩

instance : LawfulNamed ConditionKind where
  lookup_name kind := by
    cases kind with
    | property type => cases type <;> decide
    | _ => decide

instance : LawfulNamed (ArrayOperator BooleanOperator) where
  lookup_name op := by
    cases op with
    | element op => cases op <;> decide
    | _ => decide

instance : LawfulNamed (ArrayOperator NumberOperator) where
  lookup_name op := by
    cases op with
    | element op => cases op <;> decide
    | _ => decide

instance : LawfulNamed (ArrayOperator StringOperator) where
  lookup_name op := by
    cases op with
    | element op => cases op <;> decide
    | _ => decide

section Decoder

variable {α : Type} [Named α] [LawfulNamed α]

theorem decoder_toJson (m : Medium) (a : α) : decoder m (toJson a).toFragment = .ok a :=
  Decoder.oneOf_string (LawfulNamed.lookup_name a) m

theorem restores_decoder (a : α) : decoder.Restores (toJson a) a :=
  Decoder.restores_oneOf (LawfulNamed.lookup_name a)

end Decoder

end Named

def OperandFormat.Restored [OperandFormat α] (a : α) : Prop :=
  (decoder (α := α)).Restores (toJson a) a

namespace ScalarTest

variable [Named ω] [LawfulNamed ω] [OperandFormat α]

theorem restored (t : ScalarTest ω α) (h : ∀ a ∈ t.operands, OperandFormat.Restored a) :
    record.Restored t.members t := by
  obtain ⟨propertyId, operator, operands, operandsQuantifier⟩ := t
  cases operands with
  | nil =>
    exact .present rfl (Decoder.restores_string _) <| .present rfl (Named.restores_decoder _) <|
      .absent rfl <| .present rfl (Named.restores_decoder _) <| .done _
  | cons a as =>
    exact .present rfl (Decoder.restores_string _) <| .present rfl (Named.restores_decoder _) <|
      .present rfl (Decoder.Restores.list h) <| .present rfl (Named.restores_decoder _) <| .done _

omit [LawfulNamed ω] in
theorem keys (t : ScalarTest ω α) :
    (t.members.map (·.1)).Sublist (record (ω := ω) (α := α)).names := by
  obtain ⟨propertyId, operator, operands, operandsQuantifier⟩ := t
  cases operands with
  | nil => exact .cons_cons _ <| .cons_cons _ <| .cons _ <| .refl _
  | cons a as => exact .refl _

theorem restores (t : ScalarTest ω α) (h : ∀ a ∈ t.operands, OperandFormat.Restored a) :
    record.decode.Restores (.object t.members) t :=
  (t.restored h).restores nodup_names t.keys

end ScalarTest

namespace ArrayTest

variable [Named ω] [LawfulNamed (ArrayOperator ω)] [OperandFormat α]

theorem restored (t : ArrayTest ω α) (h : ∀ a ∈ t.operands, OperandFormat.Restored a) :
    record.Restored t.members t := by
  have operator : (Decoder.oneOf (Named.table (ArrayOperator ω)) true).Restores
      (Named.toJson t.operator) t.operator :=
    Decoder.restores_oneOf (LawfulNamed.lookup_name t.operator)
  obtain ⟨propertyId, op, arrayQuantifier, operands, operandsQuantifier⟩ := t
  cases operands with
  | nil =>
    exact .present rfl (Decoder.restores_string _) <| .present rfl operator <|
      .present rfl (Named.restores_decoder _) <| .absent rfl <|
      .present rfl (Named.restores_decoder _) <| .done _
  | cons a as =>
    exact .present rfl (Decoder.restores_string _) <| .present rfl operator <|
      .present rfl (Named.restores_decoder _) <| .present rfl (Decoder.Restores.list h) <|
      .present rfl (Named.restores_decoder _) <| .done _

omit [LawfulNamed (ArrayOperator ω)] in
theorem keys (t : ArrayTest ω α) :
    (t.members.map (·.1)).Sublist (record (ω := ω) (α := α)).names := by
  obtain ⟨propertyId, operator, arrayQuantifier, operands, operandsQuantifier⟩ := t
  cases operands with
  | nil => exact .cons_cons _ <| .cons_cons _ <| .cons_cons _ <| .cons _ <| .refl _
  | cons a as => exact .refl _

theorem restores (t : ArrayTest ω α) (h : ∀ a ∈ t.operands, OperandFormat.Restored a) :
    record.decode.Restores (.object t.members) t :=
  (t.restored h).restores nodup_names t.keys

end ArrayTest

theorem DateTimeTest.restores (t : DateTimeTest) (whole : t.timeZoneOffset.IsWholeMinutes) :
    decoder.Restores t.toJson t := by
  have offset : (Offset.parse t.timeZoneOffset.text).toOption = some t.timeZoneOffset := by
    rw [Offset.parse_text whole]
    rfl
  have restored : record.Restored t.members t :=
    .present rfl (Named.restores_decoder _) <|
      .present rfl ((Decoder.restores_string _).filterMap (Date.parse?_text _)) <|
      .present rfl ((Decoder.restores_string _).filterMap (Time.parse?_text _)) <|
      .present rfl ((Decoder.restores_string _).filterMap offset) <| .done _
  exact restored.restores (by decide) (.refl _)

/-- What JSON text can tell of a condition: it has no numbers but finite ones, and no seconds in
offsets. -/
def Condition.Expressible : Condition → Prop
  | .property (.number t) => ∀ d ∈ t.operands, d.isFinite
  | .property (.numberArray t) => ∀ d ∈ t.operands, d.isFinite
  | .dateTime t => t.timeZoneOffset.IsWholeMinutes
  | _ => True

instance : (c : Condition) → Decidable c.Expressible
  | .alwaysTrue => isTrue trivial
  | .property (.boolean _) => isTrue trivial
  | .property (.number t) => inferInstanceAs (Decidable (∀ d ∈ t.operands, d.isFinite))
  | .property (.string _) => isTrue trivial
  | .property (.booleanArray _) => isTrue trivial
  | .property (.numberArray t) => inferInstanceAs (Decidable (∀ d ∈ t.operands, d.isFinite))
  | .property (.stringArray _) => isTrue trivial
  | .segment _ _ => isTrue trivial
  | .set _ _ => isTrue trivial
  | .dateTime t => inferInstanceAs (Decidable t.timeZoneOffset.IsWholeMinutes)

theorem PropertyTest.restores (t : PropertyTest) (h : (Condition.property t).Expressible) :
    (decoder t.expects).Restores (.object t.members) t := by
  cases t with
  | boolean t => exact (t.restores fun b _ => Decoder.restores_boolean b).map _
  | number t => exact (t.restores fun d hd => Decoder.restores_number (h d hd)).map _
  | string t => exact (t.restores fun s _ => Decoder.restores_string s).map _
  | booleanArray t => exact (t.restores fun b _ => Decoder.restores_boolean b).map _
  | numberArray t => exact (t.restores fun d hd => Decoder.restores_number (h d hd)).map _
  | stringArray t => exact (t.restores fun s _ => Decoder.restores_string s).map _

theorem PropertyTest.type_not_mem_keys (t : PropertyTest) : "type" ∉ t.members.map (·.1) := by
  intro h
  cases t with
  | boolean t | number t | string t =>
    have name := t.keys.subset h
    simp [ScalarTest.record, Record.names] at name
  | booleanArray t | numberArray t | stringArray t =>
    have name := t.keys.subset h
    simp [ArrayTest.record, Record.names] at name

namespace Condition

theorem listToJson_eq_map (cs : List Condition) : listToJson cs = cs.map toJson := by
  induction cs with
  | nil => rfl
  | cons c cs ih => rw [listToJson, ih, List.map_cons]

end Condition

theorem ConditionSet.restores {condition : Decoder Condition} (s : ConditionSet)
    (h : ∀ c ∈ s.conditions, condition.Restores c.toJson c) :
    (record condition).decode.Restores s.toJson s := by
  have conditions : condition.list.Restores (.array (Condition.listToJson s.conditions))
      s.conditions := by
    rw [Condition.listToJson_eq_map]
    exact .list h
  have restored : (record condition).Restored
      [("operator", Named.toJson s.operator), ("conditions", _)] s :=
    .present rfl (Named.restores_decoder _) <| .present rfl conditions <| .done _
  exact restored.restores (nodup_names_record condition) (.refl _)

namespace Condition

def members : Condition → List (String × Json)
  | .alwaysTrue => []
  | .property t => t.members
  | .segment id op => [("segmentId", .string id), ("operator", Named.toJson op)]
  | .set op cs => [("conditionSet", (ConditionSet.mk op cs).toJson)]
  | .dateTime t => t.members

theorem toJson_eq_tagged (c : Condition) : c.toJson = tagged c.kind c.members := by
  cases c <;> rfl

theorem tagged_restores {c : Condition} {bound : Nat}
    (h : (fields (decoderWithin bound) c.kind).Restores (.object c.members) c)
    (untagged : "type" ∉ c.members.map (·.1)) :
    (decoderWithin (bound + 1)).Restores c.toJson c := by
  rw [toJson_eq_tagged]
  have distinct := List.nodup_cons.2 ⟨untagged, h.lossless.1⟩
  constructor
  · exact ⟨distinct, trivial, h.lossless.2⟩
  · intro m outside
    have chosen := Tagged.decode_of_lookup (LawfulNamed.lookup_name c.kind) distinct outside
    have decoded := h.decodes .held rfl
    simp only [decoderWithin, tagged, Named.toJson, chosen]
    exact decoded

theorem depth_lt_of_mem {op : SetOperator} {cs : List Condition} {c : Condition} (h : c ∈ cs) :
    c.toJson.toFragment.depth < (set op cs).toJson.toFragment.depth := by
  have item : c.toJson.toFragment ∈ itemsToFragments (listToJson cs) := by
    rw [listToJson_eq_map, itemsToFragments_eq_map, List.map_map]
    exact List.mem_map_of_mem h
  have inner := Fragment.le_depthOfItems item
  simp only [toJson, tagged, toFragment, membersToFragments, Fragment.depth,
    Fragment.depthOfMembers]
  omega

theorem restores_decoderWithin {c : Condition} (h : ∀ d ∈ c.nested, d.Expressible) {bound : Nat}
    (deep : c.toJson.toFragment.depth ≤ bound) :
    (decoderWithin (bound + 1)).Restores c.toJson c := by
  have self := h c (mem_nested_self c)
  induction c generalizing bound with
  | alwaysTrue => exact tagged_restores ⟨⟨.nil, trivial⟩, fun _ _ => rfl⟩ List.not_mem_nil
  | property t => exact tagged_restores ((t.restores self).map _) t.type_not_mem_keys
  | segment id op =>
    have restored : segmentRecord.Restored (members (.segment id op)) (.segment id op) :=
      .present rfl (Decoder.restores_string _) <| .present rfl (Named.restores_decoder _) <| .done _
    exact tagged_restores (restored.restores (by decide) (.refl _)) (by simp [members])
  | set op cs ih =>
    have conditions : ∀ c ∈ cs, (decoderWithin bound).Restores c.toJson c := by
      intro c hc
      have nested : ∀ d ∈ c.nested, d.Expressible := by
        intro d hd
        apply h d
        rw [nested]
        exact .tail _ (mem_nestedIn.2 ⟨c, hc, hd⟩)
      have shallower : c.toJson.toFragment.depth < (set op cs).toJson.toFragment.depth :=
        depth_lt_of_mem hc
      obtain ⟨k, rfl⟩ : ∃ k, bound = k + 1 := ⟨bound - 1, by omega⟩
      exact ih c hc nested (by omega) (nested c (mem_nested_self c))
    have inner := ConditionSet.restores ⟨op, cs⟩ conditions
    have restored :
        (setRecord (decoderWithin bound)).Restored (members (.set op cs)) (.set op cs) :=
      .present rfl inner <| .done _
    exact tagged_restores (restored.restores (nodup_names_setRecord _) (.refl _))
      (by simp [members])
  | dateTime t =>
    exact tagged_restores ((t.restores self).map _) (by simp [members, DateTimeTest.members])

theorem restores {c : Condition} (h : ∀ d ∈ c.nested, d.Expressible) :
    decoder.Restores c.toJson c := by
  have within := restores_decoderWithin h (Nat.le_refl _)
  exact ⟨within.lossless, fun m outside => within.decodes m outside⟩

end Condition

def ConditionSet.Expressible (s : ConditionSet) : Prop := ∀ c, s.Contains c → c.Expressible

theorem ConditionSet.Expressible.restores {s : ConditionSet} (h : s.Expressible) :
    decoder.Restores s.toJson s := by
  refine ConditionSet.restores s fun c hc => Condition.restores fun d hd => h d ?_
  exact Condition.mem_nestedIn_iff.1 (Condition.mem_nestedIn.2 ⟨c, hc, hd⟩)

theorem Property.restores (p : Property) : decoder.Restores p.toJson p := by
  have steps : Decoder.string.list.Restores (Json.strings p.path) p.path :=
    .list fun s _ => Decoder.restores_string s
  obtain ⟨id, name, path, type, rolloutDiscriminator⟩ := p
  cases rolloutDiscriminator with
  | false =>
    have restored : record.Restored [("id", .string id), ("name", .string name), ("path", _),
        ("type", Named.toJson type)] ⟨id, name, path, type, false⟩ :=
      .present rfl (Decoder.restores_string _) <| .present rfl (Decoder.restores_string _) <|
        .present rfl steps <| .present rfl (Named.restores_decoder _) <| .absent rfl <| .done _
    exact restored.restores (by decide)
      (.cons_cons _ <| .cons_cons _ <| .cons_cons _ <| .cons_cons _ <| .cons _ <| .refl _)
  | true =>
    have restored : record.Restored [("id", .string id), ("name", .string name), ("path", _),
        ("type", Named.toJson type), ("rolloutDiscriminator", .boolean true)]
        ⟨id, name, path, type, true⟩ :=
      .present rfl (Decoder.restores_string _) <| .present rfl (Decoder.restores_string _) <|
        .present rfl steps <| .present rfl (Named.restores_decoder _) <|
        .present rfl (Decoder.restores_boolean _) <| .done _
    exact restored.restores (by decide) (.refl _)

def FlagValue.Expressible : FlagValue → Prop
  | .number d => d.isFinite
  | _ => True

instance : (v : FlagValue) → Decidable v.Expressible
  | .boolean _ => isTrue trivial
  | .number d => inferInstanceAs (Decidable d.isFinite)
  | .string _ => isTrue trivial

theorem FlagValue.decoder_toJson (m : Medium) (v : FlagValue) :
    decoder m v.toJson.toFragment = .ok v := by
  cases v <;> rfl

theorem FlagValue.restores {v : FlagValue} (h : v.Expressible) : decoder.Restores v.toJson v := by
  refine ⟨?_, fun m _ => decoder_toJson m v⟩
  cases v with
  | boolean b => trivial
  | number d => exact h
  | string s => trivial

theorem RolloutEntry.restores {e : RolloutEntry} (value : e.value.Expressible)
    (percentage : e.rolloutPercentage.isFinite) : decoder.Restores e.toJson e := by
  have restored : record.Restored [("value", _), ("rolloutPercentage", _)] e :=
    .present rfl (FlagValue.restores value) <|
      .present rfl (Decoder.restores_number percentage) <| .done _
  exact restored.restores (by decide) (.refl _)

theorem Rule.restores {r : Rule} (conditionSet : r.conditionSet.Expressible)
    (values : ∀ e ∈ r.valuesOnMatch, e.value.Expressible ∧ e.rolloutPercentage.isFinite) :
    record.decode.Restores r.toJson r := by
  have entries : RolloutEntry.decoder.list.Restores (.array (r.valuesOnMatch.map (·.toJson)))
      r.valuesOnMatch :=
    .list fun e he => RolloutEntry.restores (values e he).1 (values e he).2
  have restored : record.Restored
      [("enabled", _), ("conditionSet", _), ("valuesOnMatch", _)] r :=
    .present rfl (Decoder.restores_boolean _) <| .present rfl conditionSet.restores <|
      .present rfl entries <| .done _
  exact restored.restores (by decide) (.refl _)

theorem Targeting.restores {t : Targeting}
    (h : ∀ r ∈ t.rules, Rule.record.decode.Restores r.toJson r) :
    record.decode.Restores t.toJson t := by
  have rules : Rule.record.decode.list.Restores (.array (t.rules.map (·.toJson))) t.rules := .list h
  have restored : record.Restored [("enabled", _), ("rules", _)] t :=
    .present rfl (Decoder.restores_boolean _) <| .present rfl rules <| .done _
  exact restored.restores (by decide) (.refl _)

theorem FeatureFlag.restores {f : FeatureFlag} (defaultValue : f.defaultValue.Expressible)
    (targeting : Targeting.record.decode.Restores f.targeting.toJson f.targeting) :
    decoder.Restores f.toJson f := by
  obtain ⟨id, name, description, type, default, targeting'⟩ := f
  cases description with
  | none =>
    have restored : record.Restored [("id", _), ("name", _), ("type", _), ("defaultValue", _),
        ("targeting", _)] ⟨id, name, none, type, default, targeting'⟩ :=
      .present rfl (Decoder.restores_string _) <| .present rfl (Decoder.restores_string _) <|
        .absent rfl <| .present rfl (Named.restores_decoder _) <|
        .present rfl (FlagValue.restores defaultValue) <| .present rfl targeting <| .done _
    exact restored.restores (by decide) (.cons_cons _ <| .cons_cons _ <| .cons _ <| .refl _)
  | some description =>
    have restored : record.Restored [("id", _), ("name", _), ("description", _), ("type", _),
        ("defaultValue", _), ("targeting", _)]
        ⟨id, name, some description, type, default, targeting'⟩ :=
      .present rfl (Decoder.restores_string _) <| .present rfl (Decoder.restores_string _) <|
        .present rfl ((Decoder.restores_string description).optional rfl) <|
        .present rfl (Named.restores_decoder _) <|
        .present rfl (FlagValue.restores defaultValue) <| .present rfl targeting <| .done _
    exact restored.restores (by decide) (.refl _)

theorem Segment.restores {s : Segment} (conditionSet : s.conditionSet.Expressible) :
    decoder.Restores s.toJson s := by
  obtain ⟨id, name, description, set⟩ := s
  cases description with
  | none =>
    have restored : record.Restored [("id", _), ("name", _), ("conditionSet", _)]
        ⟨id, name, none, set⟩ :=
      .present rfl (Decoder.restores_string _) <| .present rfl (Decoder.restores_string _) <|
        .absent rfl <| .present rfl conditionSet.restores <| .done _
    exact restored.restores (by decide) (.cons_cons _ <| .cons_cons _ <| .cons _ <| .refl _)
  | some description =>
    have restored : record.Restored [("id", _), ("name", _), ("description", _),
        ("conditionSet", _)] ⟨id, name, some description, set⟩ :=
      .present rfl (Decoder.restores_string _) <| .present rfl (Decoder.restores_string _) <|
        .present rfl ((Decoder.restores_string description).optional rfl) <|
        .present rfl conditionSet.restores <| .done _
    exact restored.restores (by decide) (.refl _)

namespace Specification

/-- What JSON text can tell of a specification: its numbers are finite, its fixed offsets are whole
minutes, and its version has 32 bits. -/
structure Expressible (S : Specification) : Prop where
  schemaVersion : S.schemaVersion < UInt32.size
  defaults : ∀ f ∈ S.featureFlags, f.defaultValue.Expressible
  values : ∀ f ∈ S.featureFlags, ∀ r ∈ f.targeting.rules, ∀ e ∈ r.valuesOnMatch,
    e.value.Expressible ∧ e.rolloutPercentage.isFinite
  conditions : ∀ c, S.Contains c → c.Expressible

theorem forall_contains_iff {S : Specification} {P : Condition → Prop} :
    (∀ c, S.Contains c → P c) ↔
      (∀ f ∈ S.featureFlags, ∀ r ∈ f.targeting.rules, ∀ c ∈ r.conditionSet.nested, P c) ∧
        ∀ s ∈ S.segments, ∀ c ∈ s.conditionSet.nested, P c := by
  simp only [ConditionSet.mem_nested_iff]
  constructor
  · intro h
    exact ⟨fun f hf r hr c hc => h c (.rule hf hr hc), fun s hs c hc => h c (.segment hs hc)⟩
  · rintro ⟨rules, segments⟩ c hc
    cases hc with
    | rule hf hr hc => exact rules _ hf _ hr c hc
    | segment hs hc => exact segments _ hs c hc

theorem Expressible.restores {S : Specification} (h : S.Expressible) :
    decoder.Restores S.toJson S := by
  have rules {f : FeatureFlag} (hf : f ∈ S.featureFlags) {r : Rule} (hr : r ∈ f.targeting.rules) :
      Rule.record.decode.Restores r.toJson r :=
    Rule.restores (fun c hc => h.conditions c (.rule hf hr hc)) (h.values f hf r hr)
  have flags : FeatureFlag.decoder.list.Restores (.array (S.featureFlags.map (·.toJson)))
      S.featureFlags :=
    .list fun f hf => FeatureFlag.restores (h.defaults f hf) (Targeting.restores fun r => rules hf)
  have segments : Segment.decoder.list.Restores (.array (S.segments.map (·.toJson))) S.segments :=
    .list fun s hs => Segment.restores fun c hc => h.conditions c (.segment hs hc)
  have properties : Property.decoder.list.Restores (.array (S.properties.map (·.toJson)))
      S.properties :=
    .list fun p _ => p.restores
  have version : (Decoder.natural (UInt32.size - 1)).Restores (.nat S.schemaVersion)
      S.schemaVersion :=
    Decoder.restores_natural (Nat.le_pred_of_lt h.schemaVersion)
      (Nat.lt_trans h.schemaVersion (by decide))
  obtain ⟨v, fs, ss, ps, _, _, _, _, rfl, rfl, rfl, rfl⟩ := S
  have restored : record.Restored [("schemaVersion", _), ("featureFlags", _), ("segments", _),
      ("properties", _)] ⟨v, fs, ss, ps, _, _, _, _, rfl, rfl, rfl, rfl⟩ :=
    .present rfl version <| .present rfl flags <| .present rfl segments <|
      .present rfl properties <| .done _
  exact restored.restores (by decide) (.refl _)

end Specification

end FeatureFlags
