import FeatureFlags.Proofs.Json.Restore

namespace FeatureFlags.Json

open Fragment

def entries (j : Json) : List (String × Json) := j.object?.getD []

def Scatters (kept : String → Bool) (ms ls : List (String × Json)) : Prop :=
  (ls.filter (·.1 ∈ ms.map (·.1))).Perm (ms.filter (kept ·.1))

theorem scatters_self (ms : List (String × Json)) : Scatters (fun _ => true) ms ms := by
  have all : ms.filter (·.1 ∈ ms.map (·.1)) = ms :=
    List.filter_eq_self.2 fun m hm => decide_eq_true (List.mem_map_of_mem hm)
  rw [Scatters, all, List.filter_true]

theorem lookup_filter_key (p : String → Bool) (ms : List (String × Json)) (key : String) :
    (ms.filter (p ·.1)).lookup key = if p key then ms.lookup key else none := by
  induction ms with
  | nil => simp
  | cons m ms ih =>
    obtain ⟨k, j⟩ := m
    by_cases same : key = k
    · subst same
      cases kept : p key with
      | false => simpa [kept] using ih
      | true => simp [kept]
    · have differs : (key == k) = false := beq_false_of_ne same
      rw [List.lookup_cons, differs, ← ih]
      cases kept : p k <;> simp [kept, List.lookup_cons, differs]

namespace Record

variable {m : Medium} {α : Type} {r : Record α}

theorem isComplete_toFragment (j : Json) : j.toFragment.isComplete :=
  isComplete_of_toJson? _ (isSome_toJson?_toFragment j)

theorem putAll_filter (ls : List (String × Json)) (s : r.Slots) :
    r.putAll m (membersToFragments ls) s =
      r.putAll m (membersToFragments (ls.filter (·.1 ∈ r.names))) s := by
  induction ls generalizing s with
  | nil => rfl
  | cons l ls ih =>
    obtain ⟨k, j⟩ := l
    have step : r.putAll m (membersToFragments ((k, j) :: ls)) s =
        (r.put m k j.toFragment s).bind fun s => r.putAll m (membersToFragments ls) s := rfl
    by_cases field : k ∈ r.names
    · have kept : ((k, j) :: ls).filter (·.1 ∈ r.names) = (k, j) :: ls.filter (·.1 ∈ r.names) := by
        simp [field]
      rw [step, kept]
      exact congrArg (Except.bind _) (funext ih)
    · have dropped : ((k, j) :: ls).filter (·.1 ∈ r.names) = ls.filter (·.1 ∈ r.names) := by
        simp [field]
      rw [step, dropped, put_of_not_mem (isComplete_toFragment j) field, ← ih]
      rfl

theorem decode_filter (ls : List (String × Json)) :
    r.decode m (object ls).toFragment =
      r.decode m (object (ls.filter (·.1 ∈ r.names))).toFragment := by
  simp only [toFragment, decode]
  congr 1
  funext inner
  rw [putAll_filter ls]

theorem lookUp?_congr {ms ls : List (Option String × Fragment)}
    (same : ∀ name, ms.lookup (some name) = ls.lookup (some name)) :
    r.lookUp? m ms = r.lookUp? m ls := by
  induction r with
  | done a => rfl
  | field name decode absent rest ih => rw [lookUp?, lookUp?, ih, same]

/-- Each field is decoded from the member under its name if that is kept, and has what stands for it
if not. -/
inductive Overlaid (m : Medium) (ms : List (String × Json)) (kept : String → Bool) :
    {α : Type} → Record α → α → Prop
  | done {α : Type} (a : α) : Overlaid m ms kept (.done a) a
  | field {α β : Type} {name : String} {decode : Decoder β} {rest : Record (β → α)} {g : β → α}
      {j : Json} {b d : β} : ms.lookup name = some j → decode m j.toFragment = .ok b →
      Overlaid m ms kept rest g →
      Overlaid m ms kept (.field name decode (some d) rest) (g (if kept name then b else d))

variable {ms ls : List (String × Json)} {kept : String → Bool} {a : α}

theorem Overlaid.lookUp? (h : r.Overlaid m ms kept a) :
    r.lookUp? m (membersToFragments (ms.filter (kept ·.1))) = some a := by
  induction h with
  | done a => rfl
  | @field _ _ name _ _ _ _ _ _ found decodes _ ih =>
    rw [Record.lookUp?, ih, lookup_membersToFragments, lookup_filter_key, found]
    cases kept name with
    | false => rfl
    | true => simp [decodes]

theorem Overlaid.decode {outer : Medium} (h : r.Overlaid m ms kept a)
    (fields : ms.map (·.1) = r.names) (distinct : r.names.Nodup) (entered : outer.enter = .ok m)
    (scattered : Scatters kept ms ls) : r.decode outer (object ls).toFragment = .ok a := by
  rw [Scatters, fields] at scattered
  -- what is no field aside, the members have distinct keys, so their order does not count
  have keys : ((ls.filter (·.1 ∈ r.names)).map (·.1)).Nodup := by
    rw [(scattered.map _).nodup_iff]
    exact (fields ▸ distinct).sublist (List.filter_sublist.map _)
  have fragments : (membersToFragments (ls.filter (·.1 ∈ r.names))).Perm
      (membersToFragments (ms.filter (kept ·.1))) := by
    rw [membersToFragments_eq_map, membersToFragments_eq_map]
    exact scattered.map _
  have distinct' : ((membersToFragments (ls.filter (·.1 ∈ r.names))).map (·.1)).Nodup := by
    rw [keys_membersToFragments]
    exact keys.map fun _ _ => Option.some.inj
  have read := toOption_decode_object (m := outer) distinct
    (isSome_toJson?_toFragment (object (ls.filter (·.1 ∈ r.names)))) distinct'
  have same : r.lookUp? m (membersToFragments (ls.filter (·.1 ∈ r.names))) =
      r.lookUp? m (membersToFragments (ms.filter (kept ·.1))) :=
    lookUp?_congr fun name => lookup_perm fragments distinct' (some name)
  rw [decode_filter, ← toOption_eq_some_iff, toFragment, read, entered, toOption_ok,
    Option.bind_some, same, h.lookUp?]

end Record

end FeatureFlags.Json
