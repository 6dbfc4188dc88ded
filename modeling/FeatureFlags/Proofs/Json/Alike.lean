import FeatureFlags.Json.Decode
import Mathlib.Data.List.Nodup

namespace FeatureFlags.Json

section SortMembers

variable {key : String} {value : Json} {ms sorted : List (String × Json)}

theorem insert_perm (new : key ∉ ms.map (·.1)) :
    (insert key value ms).Perm ((key, value) :: ms) := by
  induction ms with
  | nil => exact .refl _
  | cons m ms ih =>
    obtain ⟨k, v⟩ := m
    simp only [List.map_cons, List.mem_cons, not_or] at new
    rw [insert, if_neg new.1]
    split
    · exact .refl _
    · exact ((ih new.2).cons (k, v)).trans (.swap ..)

theorem foldl_insert_perm (distinct : ((sorted ++ ms).map (·.1)).Nodup) :
    (ms.foldl (fun sorted (k, v) => insert k v sorted) sorted).Perm (sorted ++ ms) := by
  induction ms generalizing sorted with
  | nil => simp
  | cons m ms ih =>
    obtain ⟨k, v⟩ := m
    have new : k ∉ sorted.map (·.1) := by
      intro h
      simp only [List.map_append, List.map_cons, List.nodup_append, List.mem_cons] at distinct
      exact distinct.2.2 k h k (.inl rfl) rfl
    have grown : (insert k v sorted ++ ms).Perm (sorted ++ (k, v) :: ms) :=
      ((insert_perm new).append_right ms).trans List.perm_middle.symm
    exact (ih ((grown.map _).nodup_iff.2 distinct)).trans grown

theorem sortMembers_perm (distinct : (ms.map (·.1)).Nodup) : (sortMembers ms).Perm ms :=
  foldl_insert_perm distinct

end SortMembers

theorem itemsToFragments_eq_map (js : List Json) : itemsToFragments js = js.map toFragment := by
  induction js with
  | nil => rfl
  | cons j js ih => rw [itemsToFragments, ih, List.map_cons]

theorem membersToFragments_eq_map (ms : List (String × Json)) :
    membersToFragments ms = ms.map fun m => (some m.1, m.2.toFragment) := by
  induction ms with
  | nil => rfl
  | cons m ms ih =>
    obtain ⟨k, j⟩ := m
    rw [membersToFragments, ih, List.map_cons]

namespace Fragment

mutual

def Distinct : Fragment → Prop
  | .array items _ => DistinctItems items
  | .object members _ => (members.map (·.1)).Nodup ∧ DistinctMembers members
  | .misplaced f => f.Distinct
  | _ => True

def DistinctItems : List Fragment → Prop
  | [] => True
  | f :: fs => f.Distinct ∧ DistinctItems fs

def DistinctMembers : List (Option String × Fragment) → Prop
  | [] => True
  | (_, f) :: ms => f.Distinct ∧ DistinctMembers ms

end

mutual

def decidableDistinct : (f : Fragment) → Decidable f.Distinct
  | .array items _ => decidableDistinctItems items
  | .object members _ => @instDecidableAnd _ _ inferInstance (decidableDistinctMembers members)
  | .misplaced f => decidableDistinct f
  | .null | .boolean _ | .number _ | .overflow | .string _ | .malformedString | .cut =>
    isTrue trivial

def decidableDistinctItems : (fs : List Fragment) → Decidable (DistinctItems fs)
  | [] => isTrue trivial
  | f :: fs => @instDecidableAnd _ _ (decidableDistinct f) (decidableDistinctItems fs)

def decidableDistinctMembers :
    (ms : List (Option String × Fragment)) → Decidable (DistinctMembers ms)
  | [] => isTrue trivial
  | (_, f) :: ms => @instDecidableAnd _ _ (decidableDistinct f) (decidableDistinctMembers ms)

end

instance : DecidablePred Distinct := decidableDistinct

mutual

/-- Two fragments without fault say the same. -/
inductive Alike : Fragment → Fragment → Prop
  | null : Alike .null .null
  | boolean (b : Bool) : Alike (.boolean b) (.boolean b)
  | number (n : Number) : Alike (.number n) (.number n)
  | string (s : String) : Alike (.string s) (.string s)
  | array : ItemsAlike fs gs → Alike (.array fs true) (.array gs true)
  | object : MembersAlike ms ns → (ms.map (·.1)).Nodup → ns.Perm ls →
      Alike (.object ms true) (.object ls true)

inductive ItemsAlike : List Fragment → List Fragment → Prop
  | nil : ItemsAlike [] []
  | cons : Alike f g → ItemsAlike fs gs → ItemsAlike (f :: fs) (g :: gs)

inductive MembersAlike :
    List (Option String × Fragment) → List (Option String × Fragment) → Prop
  | nil : MembersAlike [] []
  | cons : Alike f g → MembersAlike ms ns → MembersAlike ((some k, f) :: ms) ((some k, g) :: ns)

end

section Whole

variable {fs : List Fragment} {ms : List (Option String × Fragment)}

theorem itemsToJson?_isSome_iff :
    (itemsToJson? fs).isSome ↔ ∀ f ∈ fs, f.toJson?.isSome := by
  induction fs with
  | nil => simp [itemsToJson?]
  | cons f fs ih =>
    rw [List.forall_mem_cons, ← ih, itemsToJson?]
    cases f.toJson? <;> cases itemsToJson? fs <;> simp

theorem membersToJson?_isSome_iff :
    (membersToJson? ms).isSome ↔ ∀ m ∈ ms, m.1.isSome ∧ m.2.toJson?.isSome := by
  induction ms with
  | nil => simp [membersToJson?]
  | cons m ms ih =>
    obtain ⟨k, f⟩ := m
    rw [List.forall_mem_cons, ← ih, membersToJson?]
    cases k <;> cases f.toJson? <;> cases membersToJson? ms <;> simp

mutual

theorem isComplete_of_toJson? : (f : Fragment) → f.toJson?.isSome → f.isComplete
  | .null, _ => rfl
  | .boolean _, _ => rfl
  | .number _, _ => rfl
  | .string _, _ => rfl
  | .array fs true, h => by
    have items : (itemsToJson? fs).isSome := by simpa [toJson?] using h
    simpa [isComplete] using areComplete_of_itemsToJson? fs items
  | .object ms true, h => by
    have members : (membersToJson? ms).isSome := by simpa [toJson?] using h
    simpa [isComplete] using haveComplete_of_membersToJson? ms members

theorem areComplete_of_itemsToJson? : (fs : List Fragment) → (itemsToJson? fs).isSome →
    areComplete fs
  | [], _ => rfl
  | f :: fs, h => by
    have h := List.forall_mem_cons.1 (itemsToJson?_isSome_iff.1 h)
    simp only [areComplete, Bool.and_eq_true]
    exact ⟨isComplete_of_toJson? f h.1,
      areComplete_of_itemsToJson? fs (itemsToJson?_isSome_iff.2 h.2)⟩

theorem haveComplete_of_membersToJson? : (ms : List (Option String × Fragment)) →
    (membersToJson? ms).isSome → haveComplete ms
  | [], _ => rfl
  | (k, f) :: ms, h => by
    have h := List.forall_mem_cons.1 (membersToJson?_isSome_iff.1 h)
    simp only [haveComplete, Bool.and_eq_true]
    exact ⟨isComplete_of_toJson? f h.1.2,
      haveComplete_of_membersToJson? ms (membersToJson?_isSome_iff.2 h.2)⟩

end

end Whole

theorem le_depthOfItems {fs : List Fragment} {f : Fragment} (h : f ∈ fs) :
    f.depth ≤ depthOfItems fs := by
  induction fs with
  | nil => cases h
  | cons g fs ih =>
    rcases List.mem_cons.1 h with rfl | h
    · exact Nat.le_max_left ..
    · exact Nat.le_trans (ih h) (Nat.le_max_right ..)

theorem le_depthOfMembers {ms : List (Option String × Fragment)} {k : Option String} {f : Fragment}
    (h : (k, f) ∈ ms) : f.depth ≤ depthOfMembers ms := by
  induction ms with
  | nil => cases h
  | cons m ms ih =>
    rcases List.mem_cons.1 h with rfl | h
    · exact Nat.le_max_left ..
    · exact Nat.le_trans (ih h) (Nat.le_max_right ..)

theorem depthOfMembers_perm {ms ns : List (Option String × Fragment)} (h : ms.Perm ns) :
    depthOfMembers ms = depthOfMembers ns := by
  induction h with
  | nil => rfl
  | cons m _ ih => rw [depthOfMembers, depthOfMembers, ih]
  | swap m n ms =>
    simp only [depthOfMembers]
    omega
  | trans _ _ ih₁ ih₂ => rw [ih₁, ih₂]

mutual

theorem Alike.depth_eq : {f g : Fragment} → f.Alike g → f.depth = g.depth
  | _, _, .null => rfl
  | _, _, .boolean _ => rfl
  | _, _, .number _ => rfl
  | _, _, .string _ => rfl
  | _, _, .array items => congrArg (· + 1) items.depth_eq
  | _, _, .object members _ perm =>
    congrArg (· + 1) (members.depth_eq.trans (depthOfMembers_perm perm))

theorem ItemsAlike.depth_eq : {fs gs : List Fragment} → ItemsAlike fs gs →
    depthOfItems fs = depthOfItems gs
  | _, _, .nil => rfl
  | _, _, .cons first rest => congrArg₂ max first.depth_eq rest.depth_eq

theorem MembersAlike.depth_eq : {ms ns : List (Option String × Fragment)} → MembersAlike ms ns →
    depthOfMembers ms = depthOfMembers ns
  | _, _, .nil => rfl
  | _, _, .cons first rest => congrArg₂ max first.depth_eq rest.depth_eq

end

mutual

theorem Alike.isSome_left : {f g : Fragment} → f.Alike g → f.toJson?.isSome
  | _, _, .null => rfl
  | _, _, .boolean _ => rfl
  | _, _, .number _ => rfl
  | _, _, .string _ => rfl
  | _, _, .array items => by simpa [toJson?] using items.isSome_left
  | _, _, .object members _ _ => by simpa [toJson?] using members.isSome_left

theorem ItemsAlike.isSome_left : {fs gs : List Fragment} → ItemsAlike fs gs →
    (itemsToJson? fs).isSome
  | _, _, .nil => rfl
  | _, _, .cons first rest => itemsToJson?_isSome_iff.2
      (List.forall_mem_cons.2 ⟨first.isSome_left, itemsToJson?_isSome_iff.1 rest.isSome_left⟩)

theorem MembersAlike.isSome_left : {ms ns : List (Option String × Fragment)} →
    MembersAlike ms ns → (membersToJson? ms).isSome
  | _, _, .nil => rfl
  | _, _, .cons first rest => membersToJson?_isSome_iff.2 (List.forall_mem_cons.2
      ⟨⟨rfl, first.isSome_left⟩, membersToJson?_isSome_iff.1 rest.isSome_left⟩)

end

mutual

theorem Alike.isSome_right : {f g : Fragment} → f.Alike g → g.toJson?.isSome
  | _, _, .null => rfl
  | _, _, .boolean _ => rfl
  | _, _, .number _ => rfl
  | _, _, .string _ => rfl
  | _, _, .array items => by simpa [toJson?] using items.isSome_right
  | _, _, .object members _ perm => by
    have whole := membersToJson?_isSome_iff.1 members.isSome_right
    have permuted := membersToJson?_isSome_iff.2 fun m hm => whole m (perm.mem_iff.2 hm)
    simpa [toJson?] using permuted

theorem ItemsAlike.isSome_right : {fs gs : List Fragment} → ItemsAlike fs gs →
    (itemsToJson? gs).isSome
  | _, _, .nil => rfl
  | _, _, .cons first rest => itemsToJson?_isSome_iff.2
      (List.forall_mem_cons.2 ⟨first.isSome_right, itemsToJson?_isSome_iff.1 rest.isSome_right⟩)

theorem MembersAlike.isSome_right : {ms ns : List (Option String × Fragment)} →
    MembersAlike ms ns → (membersToJson? ns).isSome
  | _, _, .nil => rfl
  | _, _, .cons first rest => membersToJson?_isSome_iff.2 (List.forall_mem_cons.2
      ⟨⟨rfl, first.isSome_right⟩, membersToJson?_isSome_iff.1 rest.isSome_right⟩)

end

theorem ItemsAlike.isEmpty_eq {fs gs : List Fragment} (h : ItemsAlike fs gs) :
    fs.isEmpty = gs.isEmpty := by
  cases h <;> rfl

theorem MembersAlike.keys_eq {ms ns : List (Option String × Fragment)} (h : MembersAlike ms ns) :
    ms.map (·.1) = ns.map (·.1) := by
  induction ms generalizing ns with
  | nil =>
    cases h
    rfl
  | cons m ms ih =>
    cases h with
    | cons first rest => simp [ih rest]

theorem MembersAlike.lookup {ms ns : List (Option String × Fragment)} (h : MembersAlike ms ns)
    (key : Option String) : Option.Rel Alike (ms.lookup key) (ns.lookup key) := by
  induction ms generalizing ns with
  | nil =>
    cases h
    exact .none
  | cons m ms ih =>
    cases h with
    | @cons f g _ _ k first rest =>
      rw [List.lookup_cons, List.lookup_cons]
      cases key == some k
      · exact ih rest
      · exact .some first

theorem MembersAlike.filter {ms ns : List (Option String × Fragment)} (h : MembersAlike ms ns)
    (p : Option String → Bool) :
    MembersAlike (ms.filter fun m => p m.1) (ns.filter fun m => p m.1) := by
  induction ms generalizing ns with
  | nil =>
    cases h
    exact .nil
  | cons m ms ih =>
    cases h with
    | @cons f g _ _ k first rest =>
      rw [List.filter_cons, List.filter_cons]
      cases p (some k)
      · exact ih rest
      · exact .cons first (ih rest)

theorem lookup_perm {ms ls : List (Option String × Fragment)} (h : ms.Perm ls)
    (distinct : (ms.map (·.1)).Nodup) (key : Option String) : ms.lookup key = ls.lookup key := by
  induction h with
  | nil => rfl
  | cons m _ ih =>
    rw [List.lookup_cons, List.lookup_cons, ih (List.nodup_cons.1 distinct).2]
  | swap m n ms =>
    obtain ⟨k, f⟩ := m
    obtain ⟨l, g⟩ := n
    have differ : l ≠ k := fun same => (List.nodup_cons.1 distinct).1 (by simp [same])
    by_cases hk : key = k
    · have hl : (key == l) = false := beq_eq_false_iff_ne.2 fun hl => differ (hl.symm.trans hk)
      simp only [List.lookup_cons, hl]
    · simp only [List.lookup_cons, beq_eq_false_iff_ne.2 hk]
  | trans first _ ih₁ ih₂ =>
    rw [ih₁ distinct, ih₂ ((first.map _).nodup_iff.1 distinct)]

namespace Alike

variable {ms ls : List (Option String × Fragment)}

theorem nodup_left (h : Alike (.object ms true) (.object ls true)) : (ms.map (·.1)).Nodup := by
  cases h with
  | object members distinct perm => exact distinct

theorem nodup_right (h : Alike (.object ms true) (.object ls true)) : (ls.map (·.1)).Nodup := by
  cases h with
  | object members distinct perm =>
    rw [members.keys_eq] at distinct
    exact (perm.map _).nodup_iff.1 distinct

theorem lookup (h : Alike (.object ms true) (.object ls true)) (key : Option String) :
    Option.Rel Alike (ms.lookup key) (ls.lookup key) := by
  cases h with
  | object members distinct perm =>
    rw [members.keys_eq] at distinct
    rw [← lookup_perm perm distinct]
    exact members.lookup key

theorem filter (h : Alike (.object ms true) (.object ls true)) (p : Option String → Bool) :
    Alike (.object (ms.filter fun m => p m.1) true) (.object (ls.filter fun m => p m.1) true) := by
  cases h with
  | object members distinct perm =>
    exact .object (members.filter p) (distinct.sublist (List.filter_sublist.map _)) (perm.filter _)

end Alike

theorem mem_of_toJson?_object {ms : List (Option String × Fragment)}
    (h : (Fragment.object ms true).toJson?.isSome) : ∀ m ∈ ms, m.1.isSome ∧ m.2.toJson?.isSome := by
  apply membersToJson?_isSome_iff.1
  simpa [toJson?] using h

theorem mem_of_lookup {ms : List (Option String × Fragment)} {key : Option String} {f : Fragment}
    (h : ms.lookup key = some f) : (key, f) ∈ ms := by
  obtain ⟨before, after, rfl, -⟩ := List.lookup_eq_some_iff.1 h
  exact List.mem_append_right _ (.head _)

mutual

theorem alike_of_toJson? : {f : Fragment} → {j : Json} → f.Distinct → f.toJson? = some j →
    f.Alike j.toFragment
  | .null, _, _, h => by cases h; exact .null
  | .boolean b, _, _, h => by cases h; exact .boolean b
  | .number n, _, _, h => by cases h; exact .number n
  | .string s, _, _, h => by cases h; exact .string s
  | .array fs true, _, distinct, h => by
    obtain ⟨js, items, rfl⟩ := Option.map_eq_some_iff.1 h
    exact .array (itemsAlike_of_itemsToJson? distinct items)
  | .object ms true, _, distinct, h => by
    obtain ⟨ns, members, rfl⟩ := Option.map_eq_some_iff.1 h
    have alike := membersAlike_of_membersToJson? distinct.2 members
    have keys : ((ns.map (·.1)).map some).Nodup := by
      have keys := alike.keys_eq ▸ distinct.1
      rw [membersToFragments_eq_map, List.map_map] at keys
      rwa [List.map_map]
    have sorted := sortMembers_perm keys.of_map
    refine .object alike distinct.1 ?_
    rw [membersToFragments_eq_map, membersToFragments_eq_map]
    exact (sorted.map _).symm

theorem itemsAlike_of_itemsToJson? : {fs : List Fragment} → {js : List Json} →
    DistinctItems fs → itemsToJson? fs = some js → ItemsAlike fs (itemsToFragments js)
  | [], _, _, h => by cases h; exact .nil
  | f :: fs, _, distinct, h => by
    simp only [itemsToJson?, Option.bind_eq_bind, Option.bind_eq_some_iff, Option.pure_def,
      Option.some.injEq] at h
    obtain ⟨j, first, rest, others, rfl⟩ := h
    exact .cons (alike_of_toJson? distinct.1 first) (itemsAlike_of_itemsToJson? distinct.2 others)

theorem membersAlike_of_membersToJson? : {ms : List (Option String × Fragment)} →
    {ns : List (String × Json)} → DistinctMembers ms → membersToJson? ms = some ns →
    MembersAlike ms (membersToFragments ns)
  | [], _, _, h => by cases h; exact .nil
  | (k, f) :: ms, _, distinct, h => by
    simp only [membersToJson?, Option.bind_eq_bind, Option.bind_eq_some_iff, Option.pure_def,
      Option.some.injEq] at h
    obtain ⟨k, rfl, j, first, rest, others, rfl⟩ := h
    exact .cons (alike_of_toJson? distinct.1 first)
      (membersAlike_of_membersToJson? distinct.2 others)

end

end Fragment

end FeatureFlags.Json
