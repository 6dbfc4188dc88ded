import FeatureFlags.Validation
import FeatureFlags.Proofs.Nesting
import FeatureFlags.Proofs.Lookup
import Mathlib.Order.WellFounded
import Mathlib.Data.List.Chain
import Mathlib.Logic.Relation

/-!
References between segments. The depth-first walk finds nothing exactly when the references have no
cycle, and what it finds lies on one. Paths of references that meet are none of its concern.
-/

namespace FeatureFlags

namespace Segment

def Refers (segments : List Segment) (a b : String) : Prop :=
  ∃ s ∈ segments, s.id = a ∧ ∃ op, s.conditionSet.Contains (.segment b op)

def Follows (segments : List Segment) (a b : String) : Prop :=
  ∃ s, segments.find? (·.id = a) = some s ∧ b ∈ s.references

variable {segments : List Segment}

theorem refers_iff {a b : String} :
    Refers segments a b ↔ ∃ s ∈ segments, s.id = a ∧ b ∈ s.references := by
  simp only [Refers, mem_references_iff]

theorem Refers.declared {a b : String} (h : Refers segments a b) : a ∈ segments.map (·.id) := by
  obtain ⟨s, declared, rfl, -⟩ := h
  exact List.mem_map_of_mem declared

theorem follows_eq_refers (distinct : (segments.map (·.id)).Nodup) :
    Follows segments = Refers segments := by
  funext a b
  apply propext
  simp only [Follows, Refers, mem_references_iff]
  constructor
  · rintro ⟨s, found, refers⟩
    exact ⟨s, List.mem_of_find?_eq_some found, by simpa using List.find?_some found, refers⟩
  · rintro ⟨s, declared, rfl, refers⟩
    exact ⟨s, find?_eq_some_of_nodup distinct declared, refers⟩

theorem transGen_of_walk_eq_error {active ids done : List String} {id : String}
    (h : walk segments active ids done = .error id)
    (path : ∀ a ∈ active, ∀ b ∈ ids, Relation.TransGen (Follows segments) a b) :
    Relation.TransGen (Follows segments) id id := by
  fun_induction walk segments active ids done with
  | case1 => cases h
  | case2 active id' ids done seen ih => exact ih h fun a ha b hb => path a ha b (.tail _ hb)
  | case3 active id' ids done unseen again =>
    cases h
    exact path _ again _ (.head _)
  | case4 active id' ids done unseen fresh missing ih =>
    exact ih h fun a ha b hb => path a ha b (.tail _ hb)
  | case5 active ids done s done' inner unseen fresh found less ihInner ih =>
    exact ih h fun a ha b hb => path a ha b (.tail _ hb)
  | case6 active ids done s id' inner unseen fresh found less ih =>
    cases h
    apply ih inner
    intro a ha b hb
    have step : Follows segments s.id b := ⟨s, found, hb⟩
    rcases List.mem_cons.1 ha with rfl | ha
    · exact .single step
    · exact .tail (path a ha s.id (.head _)) step

abbrev Grounded (segments : List Segment) : String → Prop :=
  Acc fun b a => Follows segments a b

/-- What a walk has done with reaches no cycle: every reference from it was done with before. -/
theorem grounded_of_walk_eq_ok {active ids done all : List String}
    (h : walk segments active ids done = .ok all) (grounded : ∀ id ∈ done, Grounded segments id) :
    (∀ id ∈ all, Grounded segments id) ∧ ids ⊆ all ∧ done ⊆ all := by
  fun_induction walk segments active ids done generalizing all with
  | case1 =>
    cases h
    exact ⟨grounded, by simp, by simp⟩
  | case2 active id ids done seen ih =>
    obtain ⟨all', rest, old⟩ := ih h grounded
    exact ⟨all', List.cons_subset.2 ⟨old seen, rest⟩, old⟩
  | case3 => cases h
  | case4 active id ids done unseen fresh missing ih =>
    have leaf : Grounded segments id := by
      constructor
      rintro b ⟨s, found, -⟩
      simp_all
    obtain ⟨all', rest, old⟩ := ih h (List.forall_mem_cons.2 ⟨leaf, grounded⟩)
    have := List.cons_subset.1 old
    exact ⟨all', List.cons_subset.2 ⟨this.1, rest⟩, this.2⟩
  | case5 active ids done s done' inner unseen fresh found less ihInner ih =>
    obtain ⟨inner', references, kept⟩ := ihInner inner grounded
    have node : Grounded segments s.id := by
      constructor
      rintro b ⟨t, found', hb⟩
      obtain rfl : s = t := Option.some.inj (found.symm.trans found')
      exact inner' b (references hb)
    obtain ⟨all', rest, old⟩ := ih h (List.forall_mem_cons.2 ⟨node, inner'⟩)
    have := List.cons_subset.1 old
    exact ⟨all', List.cons_subset.2 ⟨this.1, rest⟩, List.Subset.trans kept this.2⟩
  | case6 => cases h

theorem transGen_of_onCycle? {id : String} (h : onCycle? segments = some id) :
    Relation.TransGen (Follows segments) id id := by
  unfold onCycle? at h
  split at h
  · cases h
  · next id' found =>
    cases h
    exact transGen_of_walk_eq_error found (by simp)

theorem grounded_of_onCycle?_eq_none (h : onCycle? segments = none) (id : String) :
    Grounded segments id := by
  unfold onCycle? at h
  split at h
  · next all found =>
    obtain ⟨grounded, declared, -⟩ := grounded_of_walk_eq_ok found (by simp)
    -- an id that no segment has is the source of no reference
    constructor
    rintro b ⟨s, hs, hb⟩
    have same : s.id = id := by simpa using List.find?_some hs
    have : id ∈ all := declared (List.mem_map.2 ⟨s, List.mem_of_find?_eq_some hs, same⟩)
    exact (grounded id this).inv ⟨s, hs, hb⟩
  · cases h

theorem onCycle?_eq_none_iff :
    onCycle? segments = none ↔ ∀ id, ¬ Relation.TransGen (Follows segments) id id := by
  constructor
  · intro h id cycle
    have wf : WellFounded fun b a => Follows segments a b := ⟨grounded_of_onCycle?_eq_none h⟩
    exact wf.transGen.irrefl.irrefl id (Relation.transGen_swap.1 cycle)
  · intro acyclic
    cases found : onCycle? segments with
    | none => rfl
    | some id => exact absurd (transGen_of_onCycle? found) (acyclic id)

theorem onCycle?_eq_none_of_rank (rank : String → Nat)
    (lower : ∀ s ∈ segments, ∀ id ∈ s.references, rank id < rank s.id) :
    onCycle? segments = none := by
  have descends {a b : String} (path : Relation.TransGen (Follows segments) a b) :
      rank b < rank a := by
    induction path using Relation.TransGen.trans_induction_on with
    | @single a b h =>
      obtain ⟨s, found, hb⟩ := h
      obtain rfl : s.id = a := by simpa using List.find?_some found
      exact lower s (List.mem_of_find?_eq_some found) b hb
    | trans _ _ left right => exact right.trans left
  rw [onCycle?_eq_none_iff]
  intro id cycle
  exact (descends cycle).false

section Paths

variable {r : α → α → Prop}

theorem pairwise_transGen_of_isChain {path : List α} (h : path.IsChain r) :
    path.Pairwise (Relation.TransGen r) :=
  List.isChain_iff_pairwise.1 (h.imp fun _ _ => .single)

theorem acyclic_iff_forall_nodup :
    (∀ a, ¬ Relation.TransGen r a a) ↔ ∀ path : List α, path.IsChain r → path.Nodup := by
  constructor
  · intro acyclic path h
    refine (pairwise_transGen_of_isChain h).imp ?_
    rintro a _ leads rfl
    exact acyclic a leads
  · intro nodup a cycle
    obtain ⟨b, first, rest⟩ := Relation.TransGen.head'_iff.1 cycle
    obtain ⟨path, h, last⟩ := List.exists_isChain_cons_of_relationReflTransGen rest
    have again : a ∈ b :: path := last ▸ List.getLast_mem _
    exact (List.nodup_cons.1 (nodup _ (h.cons_cons first))).1 again

end Paths

structure DetectsCycles (segments : List Segment) : Prop where
  reported : (onCycle? segments).isSome ↔ ∃ id, Relation.TransGen (Refers segments) id id
  named : ∀ id, onCycle? segments = some id →
    id ∈ segments.map (·.id) ∧ Relation.TransGen (Refers segments) id id
  /-- Paths may meet in a segment. Only one that comes to a segment twice is reported. -/
  shared : onCycle? segments = none ↔
    ∀ path : List String, path.IsChain (Refers segments) → path.Nodup

/-- The search is exact on segments with distinct ids, whatever they refer to. -/
theorem detectsCycles_of_nodup (distinct : (segments.map (·.id)).Nodup) :
    DetectsCycles segments := by
  have none_iff : onCycle? segments = none ↔ ∀ id, ¬ Relation.TransGen (Refers segments) id id := by
    rw [← follows_eq_refers distinct]
    exact onCycle?_eq_none_iff
  constructor
  · rw [Option.isSome_iff_ne_none, ne_eq, none_iff, not_forall_not]
  · intro id found
    have cycle := transGen_of_onCycle? found
    rw [follows_eq_refers distinct] at cycle
    obtain ⟨b, first, -⟩ := Relation.TransGen.head'_iff.1 cycle
    exact ⟨first.declared, cycle⟩
  · rw [none_iff, acyclic_iff_forall_nodup]

def diamond : List Segment :=
  [⟨"a", "A", none, .and, [.segment "b" .isTrue, .set .nor [.segment "c" .isFalse]]⟩,
    ⟨"b", "B", none, .or, [.segment "d" .isTrue, .segment "d" .isFalse]⟩,
    ⟨"c", "C", none, .and, [.segment "d" .isTrue]⟩, ⟨"d", "D", none, .and, [.segment "e" .isTrue]⟩]

theorem detectsCycles_diamond : (diamond.map (·.id)).Nodup ∧ DetectsCycles diamond ∧
    onCycle? diamond = none ∧ ["a", "b", "d", "e"].IsChain (Refers diamond) ∧
      ["a", "c", "d", "e"].IsChain (Refers diamond) := by
  have distinct : (diamond.map (·.id)).Nodup := by decide
  have none : onCycle? diamond = none :=
    onCycle?_eq_none_of_rank
      (fun id => if id = "a" then 3 else if id = "d" then 1 else if id = "e" then 0 else 2)
      (by decide)
  have paths : ["a", "b", "d", "e"].IsChain (Refers diamond) ∧
      ["a", "c", "d", "e"].IsChain (Refers diamond) := by
    simp only [List.isChain_cons_cons, List.IsChain.singleton, refers_iff]
    decide
  exact ⟨distinct, detectsCycles_of_nodup distinct, none, paths⟩

end Segment

end FeatureFlags
