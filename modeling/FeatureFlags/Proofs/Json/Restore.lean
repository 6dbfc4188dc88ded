import FeatureFlags.Proofs.Json.Tagged

namespace FeatureFlags.Json

open Fragment

def Number.Lossless : Number → Prop
  | .integer i => -(UInt64.size / 2 : Nat) ≤ i ∧ i < UInt64.size
  | .double d => d.isFinite

mutual

def Lossless : Json → Prop
  | .number n => n.Lossless
  | .array items => LosslessItems items
  | .object members => (members.map (·.1)).Nodup ∧ LosslessMembers members
  | _ => True

def LosslessItems : List Json → Prop
  | [] => True
  | j :: js => j.Lossless ∧ LosslessItems js

def LosslessMembers : List (String × Json) → Prop
  | [] => True
  | (_, j) :: ms => j.Lossless ∧ LosslessMembers ms

end

theorem losslessItems_iff {js : List Json} : LosslessItems js ↔ ∀ j ∈ js, j.Lossless := by
  induction js with
  | nil => simp [LosslessItems]
  | cons j js ih => simp [LosslessItems, ih]

theorem losslessMembers_iff {ms : List (String × Json)} :
    LosslessMembers ms ↔ ∀ m ∈ ms, m.2.Lossless := by
  induction ms with
  | nil => simp [LosslessMembers]
  | cons m ms ih => simp [LosslessMembers, ih]

theorem keys_membersToFragments (ms : List (String × Json)) :
    (membersToFragments ms).map (·.1) = (ms.map (·.1)).map some := by
  simp [membersToFragments_eq_map]

mutual

theorem Lossless.distinct : {j : Json} → j.Lossless → j.toFragment.Distinct
  | .null, _ => trivial
  | .boolean _, _ => trivial
  | .number _, _ => trivial
  | .string _, _ => trivial
  | .array _, h => LosslessItems.distinct h
  | .object ms, h => by
    refine ⟨?_, LosslessMembers.distinct h.2⟩
    rw [keys_membersToFragments]
    exact h.1.map fun _ _ => Option.some.inj

theorem LosslessItems.distinct : {js : List Json} → LosslessItems js →
    DistinctItems (itemsToFragments js)
  | [], _ => trivial
  | _ :: _, h => ⟨h.1.distinct, LosslessItems.distinct h.2⟩

theorem LosslessMembers.distinct : {ms : List (String × Json)} → LosslessMembers ms →
    DistinctMembers (membersToFragments ms)
  | [], _ => trivial
  | (_, _) :: _, h => ⟨h.1.distinct, LosslessMembers.distinct h.2⟩

end

mutual

theorem toJson?_toFragment : (j : Json) → j.toFragment.toJson? = some j.sorted
  | .null => rfl
  | .boolean _ => rfl
  | .number _ => rfl
  | .string _ => rfl
  | .array js => by simp [toFragment, toJson?, sorted, itemsToJson?_itemsToFragments js]
  | .object ms => by simp [toFragment, toJson?, sorted, membersToJson?_membersToFragments ms]

theorem itemsToJson?_itemsToFragments : (js : List Json) →
    itemsToJson? (itemsToFragments js) = some (sortedItems js)
  | [] => rfl
  | j :: js => by
    simp [itemsToFragments, itemsToJson?, sortedItems, toJson?_toFragment j,
      itemsToJson?_itemsToFragments js]

theorem membersToJson?_membersToFragments : (ms : List (String × Json)) →
    membersToJson? (membersToFragments ms) = some (sortedMembers ms)
  | [] => rfl
  | (k, j) :: ms => by
    simp [membersToFragments, membersToJson?, sortedMembers, toJson?_toFragment j,
      membersToJson?_membersToFragments ms]

end

theorem Lossless.alike_sorted {j : Json} (h : j.Lossless) :
    j.toFragment.Alike j.sorted.toFragment :=
  alike_of_toJson? h.distinct (toJson?_toFragment j)

theorem isSome_toJson?_toFragment (j : Json) : j.toFragment.toJson?.isSome := by
  rw [toJson?_toFragment]
  rfl

theorem Medium.enter_of_not_isText {m : Medium} (h : m.isText = false) : m.enter = .ok m := by
  cases m with
  | text levels => cases h
  | value => rfl
  | held => rfl

theorem Medium.admits_of_not_isText {m : Medium} (h : m.isText = false) (depth : Nat) :
    m.Admits depth := by
  cases m with
  | text levels => cases h
  | value => trivial
  | held => trivial

namespace Decoder

structure Restores (d : Decoder α) (j : Json) (a : α) : Prop where
  lossless : j.Lossless
  decodes : ∀ m : Medium, m.isText = false → d m j.toFragment = .ok a

theorem restores_boolean (b : Bool) : boolean.Restores (.boolean b) b :=
  ⟨trivial, fun _ _ => rfl⟩

theorem restores_string (s : String) : string.Restores (.string s) s :=
  ⟨trivial, fun _ _ => rfl⟩

theorem restores_number {d : Double} (finite : d.isFinite) : number.Restores (.double d) d :=
  ⟨finite, fun _ _ => rfl⟩

theorem natural_nat {n greatest : Nat} (le : n ≤ greatest) (m : Medium) :
    natural greatest m (nat n).toFragment = .ok n := by
  have bounds : (decide ((0 : Int) ≤ n) && decide ((n : Int) ≤ greatest)) = true := by simp [le]
  simp only [natural, nat, toFragment, integer, if_pos bounds]
  rfl

theorem restores_natural {n greatest : Nat} (le : n ≤ greatest) (small : n < UInt64.size) :
    (natural greatest).Restores (nat n) n :=
  ⟨⟨by omega, Int.ofNat_lt.2 small⟩, fun m _ => natural_nat le m⟩

section OneOf

variable {names : List (String × α)} {strict : Bool} {k : String} {a : α}

theorem oneOf_string (h : names.lookup k = some a) (m : Medium) :
    oneOf names strict m (Json.string k).toFragment = .ok a := by
  simp only [toFragment, oneOf, lookUp, h]

theorem restores_oneOf (h : names.lookup k = some a) : (oneOf names strict).Restores (.string k) a :=
  ⟨trivial, fun m _ => oneOf_string h m⟩

end OneOf

namespace Restores

variable {d : Decoder α} {j : Json} {a : α}

theorem map (h : d.Restores j a) (g : α → β) : (d.map g).Restores j (g a) := by
  refine ⟨h.lossless, fun m outside => ?_⟩
  simp only [Decoder.map, h.decodes m outside]
  rfl

theorem filterMap (h : d.Restores j a) {g : α → Option β} {b : β} (kept : g a = some b) :
    (d.filterMap g).Restores j b := by
  refine ⟨h.lossless, fun m outside => ?_⟩
  simp only [Decoder.filterMap, h.decodes m outside, bind, Except.bind, kept]

theorem optional (h : d.Restores j a) (given : j.isNull = false) :
    d.optional.Restores j (some a) := by
  refine ⟨h.lossless, fun m outside => ?_⟩
  have decoded := h.decodes m outside
  cases j with
  | null => cases given
  | _ =>
    simp only [toFragment] at decoded ⊢
    simp only [Decoder.optional, decoded]
    rfl

theorem list {toJson : α → Json} {as : List α} (h : ∀ a ∈ as, d.Restores (toJson a) a) :
    d.list.Restores (.array (as.map toJson)) as := by
  constructor
  · apply losslessItems_iff.2
    simpa using fun a ha => (h a ha).lossless
  · intro m outside
    have decoded : d.items m (itemsToFragments (as.map toJson)) = .ok as := by
      induction as with
      | nil => rfl
      | cons a as ih =>
        have first := (h a (.head _)).decodes m outside
        have rest := ih fun a ha => h a (.tail _ ha)
        simp only [List.map_cons, itemsToFragments, Decoder.items, first, rest]
        rfl
    simp only [toFragment, Decoder.list, Medium.enter_of_not_isText outside, bind, Except.bind,
      decoded]
    rfl

end Restores

end Decoder

namespace Record

inductive Restored (ms : List (String × Json)) : {α : Type} → Record α → α → Prop
  | done {α : Type} (a : α) : Restored ms (.done a) a
  | present {α β : Type} {name : String} {decode : Decoder β} {absent : Option β}
      {rest : Record (β → α)} {g : β → α} {j : Json} {b : β} :
      ms.lookup name = some j → decode.Restores j b → Restored ms rest g →
      Restored ms (.field name decode absent rest) (g b)
  | absent {α β : Type} {name : String} {decode : Decoder β} {rest : Record (β → α)} {g : β → α}
      {b : β} : ms.lookup name = none → Restored ms rest g →
      Restored ms (.field name decode (some b) rest) (g b)

variable {ms : List (String × Json)} {α : Type} {r : Record α} {a : α}

theorem lookup_membersToFragments (ms : List (String × Json)) (key : String) :
    (membersToFragments ms).lookup (some key) = (ms.lookup key).map toFragment := by
  induction ms with
  | nil => rfl
  | cons m ms ih =>
    obtain ⟨k, j⟩ := m
    have same : (some key == some k) = (key == k) := rfl
    rw [membersToFragments, List.lookup_cons, List.lookup_cons, same]
    cases key == k
    · exact ih
    · rfl

theorem Restored.lookUp? (h : r.Restored ms a) {m : Medium} (outside : m.isText = false) :
    r.lookUp? m (membersToFragments ms) = some a := by
  induction h with
  | done a => rfl
  | present found restores _ ih =>
    rw [Record.lookUp?, ih, lookup_membersToFragments, found]
    simp [restores.decodes m outside]
  | absent missing _ ih =>
    rw [Record.lookUp?, ih, lookup_membersToFragments, missing]
    rfl

theorem Restored.lossless (h : r.Restored ms a) {k : String} {j : Json} (field : k ∈ r.names)
    (found : ms.lookup k = some j) : j.Lossless := by
  induction h with
  | done a => cases field
  | present found' restores _ ih =>
    rcases List.mem_cons.1 field with rfl | field
    · obtain rfl := Option.some.inj (found.symm.trans found')
      exact restores.lossless
    · exact ih field
  | absent missing _ ih =>
    rcases List.mem_cons.1 field with rfl | field
    · cases found.symm.trans missing
    · exact ih field

theorem lookup_of_mem {ms : List (String × Json)} (distinct : (ms.map (·.1)).Nodup)
    {p : String × Json} (hp : p ∈ ms) : ms.lookup p.1 = some p.2 := by
  obtain ⟨before, after, rfl⟩ := List.append_of_mem hp
  refine List.lookup_eq_some_iff.2 ⟨before, after, rfl, fun q hq => bne_iff_ne.2 fun same => ?_⟩
  rw [List.map_append, List.nodup_append] at distinct
  exact distinct.2.2 q.1 (List.mem_map_of_mem hq) p.1 (List.mem_map_of_mem (.head _)) same.symm

theorem Restored.restores (h : r.Restored ms a) (names : r.names.Nodup)
    (keys : (ms.map (·.1)).Sublist r.names) : r.decode.Restores (.object ms) a := by
  have distinct := names.sublist keys
  have lossless : (Json.object ms).Lossless := by
    refine ⟨distinct, losslessMembers_iff.2 fun p hp => ?_⟩
    exact h.lossless (keys.subset (List.mem_map_of_mem hp)) (lookup_of_mem distinct hp)
  refine ⟨lossless, fun m outside => ?_⟩
  have read := toOption_decode_object (m := m) names (isSome_toJson?_toFragment (.object ms))
    lossless.distinct.1
  rw [← toOption_eq_some_iff, toFragment, read, Medium.enter_of_not_isText outside]
  exact h.lookUp? outside

end Record

namespace Tagged

variable {names : List (String × α)} {key k : String} {a : α} {ms : List (String × Json)}

theorem decode_of_lookup (known : names.lookup k = some a)
    (distinct : (key :: ms.map (·.1)).Nodup) {m : Medium} (outside : m.isText = false) :
    decode names key m (Json.object ((key, .string k) :: ms)).toFragment =
      .ok ⟨a, (Json.object ms).toFragment⟩ := by
  have keys : ((membersToFragments ((key, .string k) :: ms)).map (·.1)).Nodup := by
    rw [keys_membersToFragments]
    exact distinct.map fun _ _ => Option.some.inj
  have others : (membersToFragments ms).filter (·.1 != some key) = membersToFragments ms := by
    rw [List.filter_eq_self, membersToFragments_eq_map]
    intro p hp
    obtain ⟨q, hq, rfl⟩ := List.mem_map.1 hp
    refine bne_iff_ne.2 fun same => (List.nodup_cons.1 distinct).1 ?_
    rw [← Option.some.inj same]
    exact List.mem_map_of_mem hq
  have read : (decode names key m
      (.object (membersToFragments ((key, .string k) :: ms)) true)).toOption = _ :=
    toOption_decode_object (isSome_toJson?_toFragment (.object ((key, .string k) :: ms))) keys
      (Medium.admits_of_not_isText outside _)
  rw [← toOption_eq_some_iff, toFragment, read, Medium.enter_of_not_isText outside]
  simp [membersToFragments, toFragment, readTag, Decoder.lookUp, known, others]

end Tagged

end FeatureFlags.Json
