import FeatureFlags.Flag

namespace FeatureFlags

namespace Condition

inductive Within (cond : Condition) : List Condition → Prop
  | here : cond ∈ cs → Within cond cs
  | inside : .set op ds ∈ cs → Within cond ds → Within cond cs

variable {cond : Condition}

theorem mem_nestedIn {cs : List Condition} : cond ∈ nestedIn cs ↔ ∃ c ∈ cs, cond ∈ c.nested := by
  induction cs with
  | nil => simp [nestedIn]
  | cons c cs ih => simp [nestedIn, ih]

theorem mem_nested_self (c : Condition) : c ∈ c.nested := by
  cases c <;> simp [nested]

@[elab_as_elim, induction_eliminator]
protected theorem induction {motive : Condition → Prop} (alwaysTrue : motive .alwaysTrue)
    (property : ∀ test, motive (.property test)) (segment : ∀ id op, motive (.segment id op))
    (set : ∀ op cs, (∀ c ∈ cs, motive c) → motive (.set op cs))
    (dateTime : ∀ test, motive (.dateTime test)) : ∀ cond, motive cond
  | .alwaysTrue => alwaysTrue
  | .property test => property test
  | .segment id op => segment id op
  | .set op cs => set op cs fun c _ =>
    Condition.induction alwaysTrue property segment set dateTime c
  | .dateTime test => dateTime test

theorem Within.of_mem_nested {c : Condition} {cs : List Condition} (standing : c ∈ cs)
    (h : cond ∈ c.nested) : cond.Within cs := by
  induction c generalizing cs with
  | alwaysTrue => exact .here (by simp_all [nested])
  | property test => exact .here (by simp_all [nested])
  | segment id op => exact .here (by simp_all [nested])
  | dateTime test => exact .here (by simp_all [nested])
  | set op ds ih =>
    rcases List.mem_cons.1 (by simpa only [nested] using h) with rfl | h
    · exact .here standing
    · obtain ⟨d, hd, h⟩ := mem_nestedIn.1 h
      exact .inside standing (ih d hd hd h)

theorem mem_nestedIn_iff {cs : List Condition} : cond ∈ nestedIn cs ↔ cond.Within cs := by
  constructor
  · intro h
    obtain ⟨c, hc, h⟩ := mem_nestedIn.1 h
    exact .of_mem_nested hc h
  · intro h
    induction h with
    | here h => exact mem_nestedIn.2 ⟨cond, h, mem_nested_self cond⟩
    | inside h _ ih => exact mem_nestedIn.2 ⟨_, h, by simp [nested, ih]⟩

end Condition

def ConditionSet.Contains (s : ConditionSet) (cond : Condition) : Prop := cond.Within s.conditions

theorem ConditionSet.mem_nested_iff {s : ConditionSet} {cond : Condition} :
    cond ∈ s.nested ↔ s.Contains cond :=
  Condition.mem_nestedIn_iff

theorem Segment.mem_references_iff {s : Segment} {id : String} :
    id ∈ s.references ↔ ∃ op, s.conditionSet.Contains (.segment id op) := by
  simp only [references, List.mem_filterMap, ConditionSet.mem_nested_iff]
  constructor
  · rintro ⟨cond, h, same⟩
    cases cond with
    | segment id' op =>
      obtain rfl : id' = id := by simpa [Condition.segmentReference] using same
      exact ⟨op, h⟩
    | _ => cases same
  · rintro ⟨op, h⟩
    exact ⟨_, h, rfl⟩

end FeatureFlags
