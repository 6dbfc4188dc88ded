import FeatureFlags.Client.Loader
import FeatureFlags.Proofs.Json.Tagged

namespace FeatureFlags

open Json

theorem Named.steady_decoder [Named α] : Decoder.Steady (Named.decoder (α := α)) :=
  Decoder.steady_oneOf

namespace FlagValue

theorem steady_decoder : Decoder.Steady decoder := by
  intro f g m n alike agree
  have left : Decoder.hold m f = .ok () :=
    (Decoder.hold_eq_ok_iff ..).2 ⟨alike.isSome_left, agree.left⟩
  have right : Decoder.hold n g = .ok () :=
    (Decoder.hold_eq_ok_iff ..).2 ⟨alike.isSome_right, alike.depth_eq ▸ agree.right⟩
  simp only [decoder, left, right]
  cases alike <;> rfl

end FlagValue

class SteadyOperands (α : Type) [OperandFormat α] : Prop where
  steady : Decoder.Steady (OperandFormat.decoder (α := α))

instance : SteadyOperands Bool := ⟨Decoder.steady_boolean⟩

instance : SteadyOperands Double := ⟨Decoder.steady_number⟩

instance : SteadyOperands String := ⟨Decoder.steady_string⟩

theorem ScalarTest.nodup_names [Named ω] [OperandFormat α] :
    (record (ω := ω) (α := α)).names.Nodup := by
  simp [record, Record.names]

theorem ScalarTest.steady_record [Named ω] [OperandFormat α] [SteadyOperands α] :
    (record (ω := ω) (α := α)).Steady :=
  ⟨Decoder.steady_string, Named.steady_decoder, SteadyOperands.steady.list, Named.steady_decoder,
    trivial⟩

theorem ArrayTest.nodup_names [Named ω] [OperandFormat α] :
    (record (ω := ω) (α := α)).names.Nodup := by
  simp [record, Record.names]

theorem ArrayTest.steady_record [Named ω] [OperandFormat α] [SteadyOperands α] :
    (record (ω := ω) (α := α)).Steady :=
  ⟨Decoder.steady_string, Decoder.steady_oneOf, Named.steady_decoder, SteadyOperands.steady.list,
    Named.steady_decoder, trivial⟩

theorem DateTimeTest.steady_decoder : Decoder.Steady decoder := by
  apply Record.Steady.decode
  · exact ⟨Named.steady_decoder, Decoder.steady_string.filterMap _,
      Decoder.steady_string.filterMap _, Decoder.steady_string.filterMap _, trivial⟩
  · decide

theorem PropertyTest.steady_decoder (type : PropertyType) : Decoder.Steady (decoder type) := by
  cases type with
  | boolean | number | string =>
    exact (ScalarTest.steady_record.decode ScalarTest.nodup_names).map _
  | booleanArray | numberArray | stringArray =>
    exact (ArrayTest.steady_record.decode ArrayTest.nodup_names).map _

theorem ConditionSet.nodup_names_record (condition : Decoder Condition) :
    (record condition).names.Nodup := by
  simp [record, Record.names]

theorem ConditionSet.steady_record {condition : Decoder Condition} (h : condition.Steady) :
    (record condition).Steady :=
  ⟨Named.steady_decoder, h.list, trivial⟩

namespace Condition

theorem nodup_names_setRecord (condition : Decoder Condition) :
    (setRecord condition).names.Nodup := by
  simp [setRecord, Record.names]

theorem steady_bare : Decoder.Steady bare := by
  intro f g m n alike agree
  cases alike with
  | array items => cases items <;> rfl
  | _ => rfl

theorem steady_fields {condition : Decoder Condition} (h : condition.Steady) (kind : ConditionKind) :
    Decoder.Steady (fields condition kind) := by
  cases kind with
  | property type => exact (PropertyTest.steady_decoder type).map _
  | alwaysTrue => exact steady_bare
  | segment =>
    exact Record.Steady.decode ⟨Decoder.steady_string, Named.steady_decoder, trivial⟩ (by decide)
  | set =>
    have set : (ConditionSet.record condition).decode.Steady :=
      (ConditionSet.steady_record h).decode (ConditionSet.nodup_names_record condition)
    exact Record.Steady.decode ⟨set, trivial⟩ (nodup_names_setRecord condition)
  | dateTime => exact DateTimeTest.steady_decoder.map _

/-- What is inside a set is steady if what is nested less deep is. -/
theorem steady_decoderWithin (bound : Nat) : Decoder.Steady (decoderWithin bound) := by
  induction bound with
  | zero =>
    intro f g m n alike agree
    rfl
  | succ bound ih =>
    intro f g m n alike agree
    have chosen : Option.Rel Tagged.Alike
        (Tagged.decode (Named.table ConditionKind) "type" m f).toOption
        (Tagged.decode (Named.table ConditionKind) "type" n g).toOption :=
      Tagged.alike_decode alike agree
    simp only [decoderWithin, toOption_bind]
    generalize (Tagged.decode (Named.table ConditionKind) "type" m f).toOption = x,
      (Tagged.decode (Named.table ConditionKind) "type" n g).toOption = y at chosen
    cases chosen with
    | none => rfl
    | @some s t same =>
      simp only [Option.bind_some, same.1]
      exact steady_fields ih t.tag same.2 ⟨.rfl, trivial, trivial⟩

theorem steady_decoder : Decoder.Steady decoder := by
  intro f g m n alike agree
  simp only [decoder, alike.depth_eq]
  exact steady_decoderWithin _ alike agree

end Condition

theorem ConditionSet.steady_decoder : Decoder.Steady decoder :=
  (steady_record Condition.steady_decoder).decode (nodup_names_record _)

theorem Property.steady_decoder : Decoder.Steady decoder :=
  Record.Steady.decode ⟨Decoder.steady_string, Decoder.steady_string, Decoder.steady_string.list,
    Named.steady_decoder, Decoder.steady_boolean, trivial⟩ (by decide)

theorem RolloutEntry.steady_decoder : Decoder.Steady decoder :=
  Record.Steady.decode ⟨FlagValue.steady_decoder, Decoder.steady_number, trivial⟩ (by decide)

theorem Rule.steady_decoder : Decoder.Steady record.decode :=
  Record.Steady.decode ⟨Decoder.steady_boolean, ConditionSet.steady_decoder,
    RolloutEntry.steady_decoder.list, trivial⟩ (by decide)

theorem Targeting.steady_decoder : Decoder.Steady record.decode :=
  Record.Steady.decode ⟨Decoder.steady_boolean, Rule.steady_decoder.list, trivial⟩ (by decide)

theorem FeatureFlag.steady_decoder : Decoder.Steady decoder :=
  Record.Steady.decode ⟨Decoder.steady_string, Decoder.steady_string,
    Decoder.steady_string.optional, Named.steady_decoder, FlagValue.steady_decoder,
    Targeting.steady_decoder, trivial⟩ (by decide)

theorem Segment.steady_decoder : Decoder.Steady decoder :=
  Record.Steady.decode ⟨Decoder.steady_string, Decoder.steady_string,
    Decoder.steady_string.optional, ConditionSet.steady_decoder, trivial⟩ (by decide)

theorem Specification.steady_decoder : Decoder.Steady decoder :=
  Record.Steady.decode ⟨Decoder.steady_natural _, FeatureFlag.steady_decoder.list,
    Segment.steady_decoder.list, Property.steady_decoder.list, trivial⟩ (by decide)

namespace Payload

inductive FareAlike : Except Rejection Specification → Except Rejection Specification → Prop
  | accepted (S : Specification) : FareAlike (.ok S) (.ok S)
  | violation (v : Violation) : FareAlike (.error (.violation v)) (.error (.violation v))
  | fault (e e' : Json.Fault) : FareAlike (.error (.fault e)) (.error (.fault e'))

theorem FareAlike.refl (outcome : Except Rejection Specification) : FareAlike outcome outcome := by
  cases outcome with
  | ok S => exact .accepted S
  | error r =>
    cases r with
    | violation v => exact .violation v
    | fault e => exact .fault e e

theorem fareAlike_accept {t : String} {j : Json}
    (h : (Specification.decoder.ofText t).toOption = (Specification.decoder.ofJson j).toOption)
    (skipValidation : Bool) :
    FareAlike (accept (.text t) skipValidation) (accept (.json j) skipValidation) := by
  simp only [accept, read]
  cases asText : Specification.decoder.ofText t with
  | error e =>
    cases asValue : Specification.decoder.ofJson j with
    | error e' => exact .fault e e'
    | ok S =>
      rw [asText, asValue] at h
      cases h
  | ok S =>
    have asValue : Specification.decoder.ofJson j = .ok S := by
      rwa [asText, eq_comm, toOption_ok, toOption_eq_some_iff] at h
    rw [asValue]
    exact .refl _

/-- A text in which no object repeats a key and the value it stands for are one specification or
none, whichever of them is decoded, and no validator tells them apart. -/
theorem text_fares_as_value {t : String} {j : Json} (distinct : (Json.read t).1.Distinct)
    (reads : Decoder.json.ofText t = .ok j) :
    (∀ S, Specification.decoder.ofText t = .ok S ↔ Specification.decoder.ofJson j = .ok S) ∧
    ∀ v : Client.Validator,
      FareAlike (v.validate (.text t)).outcome (v.validate (.json j)).outcome := by
  have same := Specification.steady_decoder.toOption_ofText distinct reads
  constructor
  · intro S
    rw [← toOption_eq_some_iff, same, toOption_eq_some_iff]
  · intro v
    exact fareAlike_accept same v.skipValidation

/-- A text whose records are arrays, but for a condition set and a condition. The operator of the
condition is the key of an object, its tag comes after its fields, and one member is no field. -/
@[irreducible]
def spelled : String :=
  "[1,[],[[\"s\",\"t\",null,\x7b\"conditions\":[\x7b\"operator\":\x7b\"isTrue\":null\x7d," ++
  "\"segmentId\":\"u\",\"type\":\"segment\",\"x\":0\x7d],\"operator\":\"or\"\x7d]],[]]"

theorem spelled_decodes : (Json.read spelled).1.Distinct ∧
    (Decoder.json.ofText spelled).toOption.isSome ∧
      (Specification.decoder.ofText spelled).toOption.isSome := by
  decide +kernel

theorem spelled_fares_as_value : (Json.read spelled).1.Distinct ∧ ∃ j S,
    Decoder.json.ofText spelled = .ok j ∧ Specification.decoder.ofText spelled = .ok S ∧
      Specification.decoder.ofJson j = .ok S := by
  obtain ⟨distinct, reads, decodes⟩ := spelled_decodes
  obtain ⟨j, reads⟩ := Option.isSome_iff_exists.1 reads
  obtain ⟨S, decodes⟩ := Option.isSome_iff_exists.1 decodes
  have reads := toOption_eq_some_iff.1 reads
  have decodes := toOption_eq_some_iff.1 decodes
  have decoded := ((text_fares_as_value distinct reads).1 S).1 decodes
  exact ⟨distinct, j, S, reads, decodes, decoded⟩

end Payload

end FeatureFlags
