import FeatureFlags.Proofs.Json.Alike

/-!
Records by look-up. Where no key is repeated, a record written as an object is what its fields find
under their names; where the members stand in the text makes no difference.
-/

namespace FeatureFlags.Json

@[simp]
theorem toOption_ok (a : α) : (Except.ok a : Except Fault α).toOption = some a := rfl

@[simp]
theorem toOption_error (e : Fault) : (Except.error e : Except Fault α).toOption = none := rfl

@[simp]
theorem toOption_pure (a : α) : (pure a : Except Fault α).toOption = some a := rfl

@[simp]
theorem toOption_bind (x : Except Fault α) (f : α → Except Fault β) :
    (x >>= f).toOption = x.toOption.bind fun a => (f a).toOption := by
  cases x <;> rfl

theorem toOption_eq_some_iff {x : Except Fault α} {a : α} : x.toOption = some a ↔ x = .ok a := by
  cases x <;> simp

namespace Record

def names : {α : Type} → Record α → List String
  | _, .done _ => []
  | _, .field name _ _ rest => name :: rest.names

def lookUp? (m : Medium) (ms : List (Option String × Fragment)) :
    {α : Type} → Record α → Option α
  | _, .done a => some a
  | _, .field name decode absent rest => do
    let g ← rest.lookUp? m ms
    Option.map g <| match ms.lookup (some name) with
      | some f => (decode m f).toOption
      | none => absent

variable {m : Medium} {ms : List (Option String × Fragment)}

section Field

variable {α β : Type} {name : String} {decode : Decoder β} {absent : Option β}
  {rest : Record (β → α)} {key : String} {f : Fragment}

def slots (b : Option β) (s : rest.Slots) : (field name decode absent rest).Slots := (b, s)

theorem put_of_ne (differs : key ≠ name) (b : Option β) (s : rest.Slots) :
    (field name decode absent rest).put m key f (slots b s) =
      (rest.put m key f s).map (slots b) := by
  refine (if_neg differs).trans ?_
  cases rest.put m key f s <;> rfl

theorem put_self (s : rest.Slots) :
    (field name decode absent rest).put m name f (slots none s) =
      (decode m f).map fun b => slots (some b) s := by
  refine (if_pos rfl).trans ?_
  cases decode m f <;> rfl

theorem put_of_not_mem (complete : f.isComplete) {r : Record α} (other : key ∉ r.names)
    (s : r.Slots) : r.put m key f s = .ok s := by
  induction r with
  | done a => exact if_pos complete
  | field name decode absent rest ih =>
    have differs : key ≠ name := fun same => other (same ▸ .head _)
    have other : key ∉ rest.names := fun h => other (.tail _ h)
    calc
      _ = (rest.put m key f s.2).map (slots s.1) := put_of_ne differs s.1 s.2
      _ = .ok s := by rw [ih other]; rfl

theorem toOption_putAll_cons {r : Record α} (s : r.Slots) :
    (r.putAll m ((some key, f) :: ms) s).toOption =
      (r.put m key f s).toOption.bind fun s => (r.putAll m ms s).toOption :=
  toOption_bind ..

theorem toOption_putAll_of_some (keys : ∀ p ∈ ms, p.1.isSome) (gone : some name ∉ ms.map (·.1))
    (b : β) (s : rest.Slots) :
    ((field name decode absent rest).putAll m ms (slots (some b) s)).toOption =
      (rest.putAll m ms s).toOption.map (slots (some b)) := by
  induction ms generalizing s with
  | nil => rfl
  | cons p ms ih =>
    obtain ⟨_ | key, f⟩ := p
    · cases keys _ (.head _)
    · have differs : key ≠ name := fun same => gone (same ▸ .head _)
      rw [toOption_putAll_cons, toOption_putAll_cons, put_of_ne differs]
      cases rest.put m key f s with
      | error e => rfl
      | ok s => exact ih (fun p hp => keys p (.tail _ hp)) (fun h => gone (.tail _ h)) s

theorem toOption_putAll_of_none (keys : ∀ p ∈ ms, p.1.isSome ∧ p.2.isComplete)
    (distinct : (ms.map (·.1)).Nodup) (other : name ∉ rest.names) (s : rest.Slots) :
    ((field name decode absent rest).putAll m ms (slots none s)).toOption =
      (match ms.lookup (some name) with
        | some f => (decode m f).toOption.map some
        | none => some none).bind fun b => (rest.putAll m ms s).toOption.map (slots b) := by
  induction ms generalizing s with
  | nil => rfl
  | cons p ms ih =>
    obtain ⟨_ | key, f⟩ := p
    · cases (keys _ (.head _)).1
    · have complete := (keys _ (.head _)).2
      have keys : ∀ p ∈ ms, p.1.isSome ∧ p.2.isComplete := fun p hp => keys p (.tail _ hp)
      obtain ⟨gone, distinct⟩ := List.nodup_cons.1 distinct
      rw [toOption_putAll_cons, toOption_putAll_cons]
      by_cases same : key = name
      · subst same
        rw [put_of_not_mem complete other, put_self, List.lookup_cons_self]
        dsimp only
        cases decode m f with
        | error e => rfl
        | ok b => exact toOption_putAll_of_some (fun p hp => (keys p hp).1) gone b s
      · have passed : (some name == some key) = false :=
          beq_eq_false_iff_ne.2 fun h => same (Option.some.inj h).symm
        rw [put_of_ne same, List.lookup_cons, passed]
        cases rest.put m key f s with
        | error e => exact (Option.bind_fun_none _).symm
        | ok s => exact ih keys distinct s

theorem toOption_finish_slots (b : Option β) (s : rest.Slots) :
    ((field name decode absent rest).finish (slots b s)).toOption =
      (rest.finish s).toOption.bind fun g => (b <|> absent).map g := by
  refine (toOption_bind (rest.finish s) _).trans ?_
  cases b <;> cases absent <;> rfl

end Field

theorem putAll_done {α : Type} {a : α} (keys : ∀ p ∈ ms, p.1.isSome ∧ p.2.isComplete) :
    (done a).putAll m ms () = .ok () := by
  induction ms with
  | nil => rfl
  | cons p ms ih =>
    obtain ⟨_ | key, f⟩ := p
    · cases (keys _ (.head _)).1
    · have passed : (done a).put m key f () = .ok () := if_pos (keys _ (.head _)).2
      calc
        _ = (do (done a).putAll m ms (← (done a).put m key f ())) := rfl
        _ = (done a).putAll m ms () := by rw [passed]; rfl
        _ = .ok () := ih fun p hp => keys p (.tail _ hp)

theorem toOption_finish_putAll {α : Type} {r : Record α} (names : r.names.Nodup)
    (keys : ∀ p ∈ ms, p.1.isSome ∧ p.2.isComplete) (distinct : (ms.map (·.1)).Nodup) :
    (r.putAll m ms r.empty).toOption.bind (fun s => (r.finish s).toOption) = r.lookUp? m ms := by
  induction r with
  | done a =>
    have passed : (done a).putAll m ms (done a).empty = .ok () := putAll_done keys
    rw [passed]
    rfl
  | field name decode absent rest ih =>
    obtain ⟨other, names⟩ := List.nodup_cons.1 names
    have first : (field name decode absent rest).empty = slots none rest.empty := rfl
    rw [first, toOption_putAll_of_none keys distinct other, lookUp?, ← ih names]
    cases (rest.putAll m ms rest.empty).toOption with
    | none => exact congrArg (Option.bind · _) (Option.bind_fun_none _)
    | some s =>
      simp only [Option.map_some, Option.bind_some, Option.bind_assoc, toOption_finish_slots]
      cases (rest.finish s).toOption with
      | none => exact Option.bind_fun_none _
      | some g =>
        cases ms.lookup (some name) with
        | none => cases absent <;> rfl
        | some f =>
          dsimp only
          cases decode m f <;> rfl

end Record

end FeatureFlags.Json
