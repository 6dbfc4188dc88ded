import FeatureFlags.Proofs.Json.Alike

namespace FeatureFlags.Json

namespace Medium

def Admits : Medium → Nat → Prop
  | .text levels, depth => depth ≤ levels
  | _, _ => True

structure Agree (m n : Medium) (depth : Nat) : Prop where
  held : m = .held ↔ n = .held
  left : m.Admits depth
  right : n.Admits depth

variable {m n : Medium} {depth depth' : Nat}

theorem Admits.mono (h : m.Admits depth) (le : depth' ≤ depth) : m.Admits depth' := by
  cases m with
  | text levels => exact Nat.le_trans le h
  | value => trivial
  | held => trivial

theorem Admits.enter (h : m.Admits (depth + 1)) :
    ∃ inner, m.enter = .ok inner ∧ inner.Admits depth ∧ (inner = .held ↔ m = .held) := by
  cases m with
  | text levels =>
    cases levels with
    | zero => cases h
    | succ levels => exact ⟨.text levels, rfl, Nat.le_of_succ_le_succ h, by simp⟩
  | value => exact ⟨.value, rfl, trivial, .rfl⟩
  | held => exact ⟨.held, rfl, trivial, .rfl⟩

theorem admits_succ_iff :
    m.Admits (depth + 1) ↔ ∃ inner, m.enter = .ok inner ∧ inner.Admits depth := by
  constructor
  · intro h
    obtain ⟨inner, entered, admits, -⟩ := h.enter
    exact ⟨inner, entered, admits⟩
  · rintro ⟨inner, entered, admits⟩
    cases m with
    | text levels =>
      cases levels with
      | zero => cases entered
      | succ levels =>
        cases entered
        exact Nat.succ_le_succ admits
    | value => trivial
    | held => trivial

theorem admits_max : m.Admits (max depth depth') ↔ m.Admits depth ∧ m.Admits depth' := by
  cases m with
  | text levels => exact Nat.max_le
  | value => simp [Admits]
  | held => simp [Admits]

theorem admits_zero : m.Admits 0 := by
  cases m with
  | text levels => exact Nat.zero_le _
  | value => trivial
  | held => trivial

theorem Agree.mono (h : m.Agree n depth) (le : depth' ≤ depth) : m.Agree n depth' :=
  ⟨h.held, h.left.mono le, h.right.mono le⟩

theorem Agree.enter (h : m.Agree n (depth + 1)) :
    ∃ m' n', m.enter = .ok m' ∧ n.enter = .ok n' ∧ m'.Agree n' depth := by
  obtain ⟨m', left, admits, held⟩ := h.left.enter
  obtain ⟨n', right, admits', held'⟩ := h.right.enter
  exact ⟨m', n', left, right, held.trans (h.held.trans held'.symm), admits, admits'⟩

end Medium

open Fragment

theorem bind_eq_ok_iff {x : Except Fault α} {f : α → Except Fault β} {b : β} :
    (x >>= f) = .ok b ↔ ∃ a, x = .ok a ∧ f a = .ok b := by
  cases x <;> simp [bind, Except.bind]

namespace Decoder

theorem closing_eq_ok_iff {closed : Bool} : closing closed = .ok () ↔ closed := by
  cases closed <;> simp [closing]

mutual

theorem hold_eq_ok_iff : (f : Fragment) → (m : Medium) →
    (hold m f = .ok () ↔ f.toJson?.isSome ∧ m.Admits f.depth)
  | .null, _ => by simp [hold, toJson?, depth, Medium.admits_zero]
  | .boolean _, _ => by simp [hold, toJson?, depth, Medium.admits_zero]
  | .number _, _ => by simp [hold, toJson?, depth, Medium.admits_zero]
  | .overflow, _ => by simp [hold, toJson?]
  | .string _, _ => by simp [hold, toJson?, depth, Medium.admits_zero]
  | .malformedString, _ => by simp [hold, toJson?]
  | .misplaced _, _ => by simp [hold, toJson?]
  | .cut, _ => by simp [hold, toJson?]
  | .array fs closed, m => by
    have items := holdItems_eq_ok_iff fs
    rw [hold, bind_eq_ok_iff, depth, Medium.admits_succ_iff]
    simp only [bind_eq_ok_iff, items, exists_const, closing_eq_ok_iff]
    cases closed with
    | false => simp [toJson?]
    | true => simp [toJson?, and_left_comm]
  | .object ms closed, m => by
    have members := holdMembers_eq_ok_iff ms
    rw [hold, bind_eq_ok_iff, depth, Medium.admits_succ_iff]
    simp only [bind_eq_ok_iff, members, exists_const, closing_eq_ok_iff]
    cases closed with
    | false => simp [toJson?]
    | true => simp [toJson?, and_left_comm]

theorem holdItems_eq_ok_iff : (fs : List Fragment) → (m : Medium) →
    (holdItems m fs = .ok () ↔ (itemsToJson? fs).isSome ∧ m.Admits (depthOfItems fs))
  | [], _ => by simp [holdItems, itemsToJson?, depthOfItems, Medium.admits_zero]
  | f :: fs, m => by
    have first := hold_eq_ok_iff f m
    have rest := holdItems_eq_ok_iff fs m
    rw [itemsToJson?_isSome_iff, List.forall_mem_cons, ← itemsToJson?_isSome_iff, depthOfItems,
      Medium.admits_max, holdItems, bind_eq_ok_iff]
    simp only [first, rest, exists_const]
    exact and_and_and_comm

theorem holdMembers_eq_ok_iff : (ms : List (Option String × Fragment)) → (m : Medium) →
    (holdMembers m ms = .ok () ↔ (membersToJson? ms).isSome ∧ m.Admits (depthOfMembers ms))
  | [], _ => by simp [holdMembers, membersToJson?, depthOfMembers, Medium.admits_zero]
  | (none, f) :: ms, _ => by simp [holdMembers, membersToJson?]
  | (some k, f) :: ms, m => by
    have first := hold_eq_ok_iff f m
    have rest := holdMembers_eq_ok_iff ms m
    rw [membersToJson?_isSome_iff, List.forall_mem_cons, ← membersToJson?_isSome_iff,
      depthOfMembers, Medium.admits_max, holdMembers, bind_eq_ok_iff]
    simp only [first, rest, exists_const, Option.isSome_some, true_and]
    exact and_and_and_comm

end

end Decoder

end FeatureFlags.Json
