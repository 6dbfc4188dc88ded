import FeatureFlags.Proofs.Format.Restore
import FeatureFlags.Proofs.Json.Print

/-!
Round trips: a specification is decoded from the value that it is written as, and from every text that
says this value. Which texts do is up to the text layer: not all of them read back every number.
-/

namespace FeatureFlags

open Json

namespace Json

/-- What writes values as texts, compact or indented, and tells what texts say. -/
structure TextLayer where
  write : (pretty : Bool) → Json → String
  read : String → Fragment × Option (List Char)

namespace TextLayer

def ReadsBack (L : TextLayer) (j : Json) : Prop :=
  ∀ pretty, L.read (L.write pretty j) = (j.toFragment, some [])

def plain : TextLayer := ⟨fun pretty j => if pretty then j.pretty "" else j.compact, Json.read⟩

theorem readsBack_plain {j : Json} (h : j.isLegible) : plain.ReadsBack j
  | true => read_pretty h
  | false => read_compact h

end TextLayer

/-- Sixteen nines are read as one, as the quotient of two numbers that were rounded before. -/
example : Decimal.toDouble? false ⟨9999999999999999, -16⟩ = some (.ofInt 1) := by decide +kernel

end Json

mutual

theorem Condition.equal_self : (c : Condition) → c.equal c
  | .alwaysTrue => rfl
  | .property t => by simp [Condition.equal]
  | .segment id op => by simp [Condition.equal]
  | .set op cs => by simp [Condition.equal, Condition.equalIn_self cs]
  | .dateTime t => by simp [Condition.equal]

theorem Condition.equalIn_self : (cs : List Condition) → Condition.equalIn cs cs
  | [] => rfl
  | c :: cs => by simp [Condition.equalIn, Condition.equal_self c, Condition.equalIn_self cs]

end

instance : ReflBEq Condition := ⟨fun {c} => c.equal_self⟩

deriving instance ReflBEq for ConditionSet, Rule, Targeting, FeatureFlag, Segment, Property

namespace Specification

instance : ReflBEq Specification where
  rfl {S} := by
    change (S.schemaVersion == S.schemaVersion && S.featureFlags == S.featureFlags &&
      S.segments == S.segments && S.properties == S.properties) = true
    simp

def document (S : Specification) : Json := S.toJson.sorted

section Expressible

variable {S : Specification}

theorem Expressible.alike (h : S.Expressible) : S.toJson.toFragment.Alike S.document.toFragment :=
  h.restores.lossless.alike_sorted

theorem Expressible.decodes (h : S.Expressible) {m : Medium} (other : m ≠ .held)
    (fits : m.Admits S.document.toFragment.depth) :
    decoder m S.document.toFragment = .ok S ∧ decoder m S.toJson.toFragment = .ok S := by
  have held : m = .held ↔ m = .held := .rfl
  have fits' : m.Admits S.toJson.toFragment.depth := h.alike.depth_eq ▸ fits
  -- the medium does not matter, nor does the order of the members
  have document : (decoder .value S.toJson.toFragment).toOption =
      (decoder m S.document.toFragment).toOption :=
    steady_decoder h.alike ⟨by simp [other], trivial, h.alike.depth_eq ▸ fits⟩
  have written : (decoder m S.toJson.toFragment).toOption =
      (decoder m S.document.toFragment).toOption :=
    steady_decoder h.alike ⟨.rfl, fits', fits'⟩
  rw [h.restores.decodes .value rfl] at document
  exact ⟨toOption_eq_some_iff.1 document.symm,
    toOption_eq_some_iff.1 (written.trans document.symm)⟩

/-- The outcome is a specification that equals `S` and is written as the same value. -/
def Regains (S : Specification) (outcome : Except Fault Specification) : Prop :=
  ∃ T, outcome = .ok T ∧ T = S ∧ T == S ∧ T.toJson = S.toJson ∧ T.document = S.document

theorem regains_ok (S : Specification) : S.Regains (.ok S) :=
  ⟨S, rfl, rfl, beq_self_eq_true S, rfl, rfl⟩

variable {L : TextLayer}

theorem ofSaid_of_readsBack {j : Json} (reads : L.ReadsBack j)
    (decodes : decoder (.text Decoder.textLevels) j.toFragment = .ok S) (pretty : Bool) :
    decoder.ofSaid (L.read (L.write pretty j)) = .ok S := by
  rw [Decoder.ofSaid_eq_ok_iff, reads pretty]
  exact ⟨decodes, [], rfl, rfl⟩

/-- A specification is regained from the value it is written as. From its text and the text of that
value it is too, if they are read back and nest no deeper than text may. -/
theorem Expressible.round_trip (h : S.Expressible) :
    S.Regains (decoder.ofJson S.document) ∧
    ∀ L : TextLayer,
      (∀ j ∈ [S.toJson, S.document], j.toFragment.depth ≤ Decoder.textLevels → L.ReadsBack j) →
      S.document.toFragment.depth ≤ Decoder.textLevels → ∀ pretty,
        S.Regains (decoder.ofSaid (L.read (L.write pretty S.toJson))) ∧
        S.Regains (decoder.ofSaid (L.read (L.write pretty S.document))) := by
  refine ⟨?_, fun L reads shallow pretty => ?_⟩
  · rw [Decoder.ofJson, (h.decodes (m := .value) (by simp) trivial).1]
    exact S.regains_ok
  · obtain ⟨document, written⟩ := h.decodes (m := .text Decoder.textLevels) (by simp) shallow
    have shallow' : S.toJson.toFragment.depth ≤ Decoder.textLevels := h.alike.depth_eq ▸ shallow
    rw [ofSaid_of_readsBack (reads _ (.head _) shallow') written pretty,
      ofSaid_of_readsBack (reads _ (.tail _ (.head _)) shallow) document pretty]
    exact ⟨S.regains_ok, S.regains_ok⟩

theorem Expressible.roundTrips (h : S.Expressible) (legible : S.toJson.isLegible)
    (shallow : S.document.toFragment.depth ≤ Decoder.textLevels) (pretty : Bool) :
    S.roundTrips pretty := by
  obtain ⟨-, written⟩ := h.decodes (m := .text Decoder.textLevels) (by simp) shallow
  have text : decoder.ofText (S.text pretty) = .ok S :=
    ofSaid_of_readsBack (TextLayer.readsBack_plain legible) written pretty
  rw [Specification.roundTrips, text]
  exact beq_self_eq_true S

end Expressible

def sample : Specification where
  schemaVersion := 1
  featureFlags := [
    { id := "f", name := "flag", description := some "\t\"d\"", type := .number,
      defaultValue := .number ⟨0x3FB999999999999A⟩,
      targeting := {
        enabled := true
        rules := [
          { enabled := false
            conditionSet := ⟨.and, [.alwaysTrue, .set .nor [.set .or [], .property (.number {
              propertyId := "p", operator := .isLessThan, operands := [⟨0xC202A05F20000000⟩]
              operandsQuantifier := .notAny })], .segment "s" .isFalse]⟩
            valuesOnMatch := [⟨.string "on", ⟨0x4059000000000000⟩⟩, ⟨.boolean true, ⟨0⟩⟩] }] } }]
  segments := [
    { id := "s", name := "segment", description := none
      conditionSet := ⟨.or, [.dateTime {
        operator := .before, date := ⟨-1, 2, 28, by decide⟩
        time := ⟨86399, 1500000000, by decide, by decide⟩
        timeZoneOffset := .fixed (-19800) (by decide) }, .property (.stringArray {
          propertyId := "q", operator := .element .isBlank, arrayQuantifier := .every
          operands := [], operandsQuantifier := .some })]⟩ }]
  properties := [
    ⟨"p", "number", ["a", "b"], .number, true⟩, ⟨"q", "strings", [], .stringArray, false⟩]

theorem sample_expressible : sample.Expressible where
  schemaVersion := by decide
  defaults := by decide
  values := by decide
  conditions := forall_contains_iff.2 (by decide)

theorem sample_round_trip : sample.Expressible ∧
    sample.document.toFragment.depth ≤ Decoder.textLevels ∧
    (∀ j ∈ [sample.toJson, sample.document], TextLayer.plain.ReadsBack j) ∧
    sample.Regains (decoder.ofJson sample.document) ∧
    ∀ pretty, sample.Regains (decoder.ofSaid (read (sample.text pretty))) := by
  have shallow : sample.document.toFragment.depth ≤ Decoder.textLevels := by
    rw [← sample_expressible.alike.depth_eq]
    decide
  have legible : ∀ j ∈ [sample.toJson, sample.document], j.isLegible := by decide +kernel
  have reads (j : Json) (hj : j ∈ [sample.toJson, sample.document]) :
      TextLayer.plain.ReadsBack j := TextLayer.readsBack_plain (legible j hj)
  obtain ⟨value, texts⟩ := Expressible.round_trip sample_expressible
  have regained := texts .plain (fun j hj _ => reads j hj) shallow
  exact ⟨sample_expressible, shallow, reads, value, fun pretty => (regained pretty).1⟩

end Specification

end FeatureFlags
