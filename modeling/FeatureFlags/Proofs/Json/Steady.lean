import FeatureFlags.Proofs.Json.Hold
import FeatureFlags.Proofs.Json.Record

namespace FeatureFlags.Json

open Fragment

@[simp]
theorem toOption_map (x : Except Fault α) (g : α → β) : (x.map g).toOption = x.toOption.map g := by
  cases x <;> rfl

def Decoder.Steady (d : Decoder α) : Prop :=
  ∀ ⦃f g : Fragment⦄ ⦃m n : Medium⦄, f.Alike g → m.Agree n f.depth →
    (d m f).toOption = (d n g).toOption

namespace Decoder

theorem steady_boolean : Steady boolean := by
  intro f g m n alike _
  cases alike <;> rfl

theorem steady_string : Steady string := by
  intro f g m n alike _
  cases alike <;> rfl

theorem steady_number : Steady number := by
  intro f g m n alike _
  cases alike <;> rfl

theorem steady_integer (least greatest : Int) : Steady (integer least greatest) := by
  intro f g m n alike _
  cases alike with
  | number k => cases k <;> rfl
  | _ => rfl

namespace Steady

variable {d : Decoder α}

theorem map (h : Steady d) (g : α → β) : Steady (d.map g) := by
  intro f f' m n alike agree
  simp only [Decoder.map, toOption_map, h alike agree]

theorem filterMap (h : Steady d) (g : α → Option β) : Steady (d.filterMap g) := by
  intro f f' m n alike agree
  simp only [Decoder.filterMap, toOption_bind, h alike agree]

theorem optional (h : Steady d) : Steady d.optional := by
  intro f g m n alike agree
  have same := congrArg (Option.map some) (h alike agree)
  rw [← toOption_map, ← toOption_map] at same
  cases alike with
  | null => rfl
  | _ => exact same

theorem items (h : Steady d) {fs gs : List Fragment} {m n : Medium} (alike : ItemsAlike fs gs)
    (agree : m.Agree n (depthOfItems fs)) :
    (d.items m fs).toOption = (d.items n gs).toOption := by
  induction fs generalizing gs with
  | nil =>
    cases alike
    rfl
  | cons f fs ih =>
    cases alike with
    | cons first rest =>
      have first := h first (agree.mono (Nat.le_max_left ..))
      have rest := ih rest (agree.mono (Nat.le_max_right ..))
      simp only [Decoder.items, toOption_bind, toOption_pure, first, rest]

theorem list (h : Steady d) : Steady d.list := by
  intro f g m n alike agree
  cases alike with
  | array items =>
    obtain ⟨m', n', left, right, agree⟩ := agree.enter
    have same := h.items items agree
    simp only [Decoder.list, left, right, toOption_bind, toOption_ok, Option.bind_some, same]
  | _ => rfl

end Steady

theorem steady_natural (greatest : Nat) : Steady (natural greatest) :=
  (steady_integer 0 greatest).map Int.toNat

section OneOf

variable {names : List (String × α)} {strict : Bool} {m : Medium} {k : String} {f : Fragment}

theorem toOption_oneOf_singleton :
    (oneOf names strict m (.object [(some k, f)] true)).toOption = m.enter.toOption.bind fun _ =>
      if blankContent (m = .held && !strict) f then (lookUp names k).toOption else none := by
  simp only [oneOf, List.isEmpty_nil, Bool.or_true, if_true, toOption_bind]
  congr 1
  funext _
  cases lookUp names k with
  | error e => cases blankContent (m = .held && !strict) f <;> rfl
  | ok a => cases blankContent (m = .held && !strict) f <;> rfl

theorem toOption_oneOf_of_length_ne {ms : List (Option String × Fragment)}
    (h : ms.length ≠ 1) : (oneOf names strict m (.object ms true)).toOption = none := by
  cases entered : m.enter with
  | error e => simp only [oneOf, entered, toOption_bind, toOption_error, Option.bind_none]
  | ok inner =>
    simp only [oneOf, entered, toOption_bind, toOption_ok, Option.bind_some]
    match ms with
    | [] => rfl
    | (none, f) :: rest => rfl
    | (some k, f) :: p :: rest =>
      dsimp only
      cases m.isText with
      | false => rfl
      | true =>
        cases lookUp names k with
        | error e => rfl
        | ok a => cases blankContent (m = .held && !strict) f <;> rfl

theorem blankContent_congr {lenient : Bool} {f g : Fragment} (h : f.Alike g) :
    blankContent lenient f = blankContent lenient g := by
  cases h with
  | @object ms ns ls members distinct perm =>
    cases members with
    | nil => rw [List.nil_perm.1 perm]
    | cons first rest =>
      cases ls with
      | nil => cases perm.eq_nil
      | cons l ls => rfl
  | _ => rfl

theorem steady_oneOf : Steady (oneOf names strict) := by
  intro f g m n alike agree
  cases alike with
  | @object ms ns ls members distinct perm =>
    obtain ⟨m', n', left, right, -⟩ := agree.enter
    cases members with
    | nil =>
      rw [List.nil_perm.1 perm, toOption_oneOf_of_length_ne (by simp),
        toOption_oneOf_of_length_ne (by simp)]
    | @cons f g ms ns k first rest =>
      cases rest with
      | nil =>
        rw [← List.singleton_perm.1 perm, toOption_oneOf_singleton, toOption_oneOf_singleton, left,
          right, blankContent_congr first]
        simp [agree.held]
      | cons second rest =>
        have several : ls.length ≠ 1 := by simp [← perm.length_eq]
        rw [toOption_oneOf_of_length_ne (by simp), toOption_oneOf_of_length_ne several]
  | string s => rfl
  | _ => cases m <;> cases n <;> rfl

end OneOf

end Decoder

namespace Record

def Steady : {α : Type} → Record α → Prop
  | _, .done _ => True
  | _, .field _ decode _ rest => decode.Steady ∧ rest.Steady

variable {m n : Medium}

theorem Steady.lookUp?_eq {ms ls : List (Option String × Fragment)}
    (alike : Alike (.object ms true) (.object ls true)) (agree : m.Agree n (depthOfMembers ms))
    {α : Type} {r : Record α} (h : r.Steady) : r.lookUp? m ms = r.lookUp? n ls := by
  induction r with
  | done a => rfl
  | field name decode absent rest ih =>
    have room (f : Fragment) (found : ms.lookup (some name) = some f) : m.Agree n f.depth :=
      agree.mono (le_depthOfMembers (mem_of_lookup found))
    have found := alike.lookup (some name)
    rw [lookUp?, lookUp?, ih h.2]
    generalize ms.lookup (some name) = f, ls.lookup (some name) = g at found room
    cases found with
    | none => rfl
    | some first => simp only [h.1 first (room _ rfl)]

theorem Steady.take {fs gs : List Fragment} (alike : ItemsAlike fs gs)
    (agree : m.Agree n (depthOfItems fs)) {α : Type} {r : Record α} (h : r.Steady) :
    Option.Rel (fun x y => x.1 = y.1 ∧ ItemsAlike x.2 y.2)
      (r.take m true fs).toOption (r.take n true gs).toOption := by
  induction r generalizing fs gs with
  | done a => exact .some ⟨rfl, alike⟩
  | field name decode absent rest ih =>
    cases alike with
    | nil =>
      have others := ih .nil agree h.2
      cases absent with
      | none => exact .none
      | some b =>
        simp only [Record.take, Decoder.closing, if_true, toOption_bind, toOption_ok,
          Option.bind_some]
        generalize (rest.take m true []).toOption = x, (rest.take n true []).toOption = y at others
        cases others with
        | none => exact .none
        | some same => exact .some ⟨congrFun same.1 b, same.2⟩
    | @cons f g fs gs first others =>
      have first := h.1 first (agree.mono (Nat.le_max_left ..))
      have others := ih others (agree.mono (Nat.le_max_right ..)) h.2
      simp only [Record.take, toOption_bind, first]
      cases (decode n g).toOption with
      | none => exact .none
      | some b =>
        simp only [Option.bind_some]
        generalize (rest.take m true fs).toOption = x, (rest.take n true gs).toOption = y at others
        cases others with
        | none => exact .none
        | some same => exact .some ⟨congrFun same.1 b, same.2⟩

theorem toOption_decode_object {ms : List (Option String × Fragment)} {α : Type} {r : Record α}
    (names : r.names.Nodup) (whole : (Fragment.object ms true).toJson?.isSome)
    (distinct : (ms.map (·.1)).Nodup) :
    (r.decode m (.object ms true)).toOption = m.enter.toOption.bind (r.lookUp? · ms) := by
  have keys : ∀ p ∈ ms, p.1.isSome ∧ p.2.isComplete := fun p hp =>
    (mem_of_toJson?_object whole p hp).imp_right (isComplete_of_toJson? p.2)
  simp only [decode, Decoder.closing, if_true, toOption_bind, toOption_ok, Option.bind_some,
    ← toOption_finish_putAll names keys distinct]

theorem toOption_decode_array {fs : List Fragment} {α : Type} {r : Record α} :
    (r.decode m (.array fs true)).toOption = m.enter.toOption.bind fun m =>
      (r.take m true fs).toOption.bind fun (a, rest) => if rest.isEmpty then some a else none := by
  simp only [decode, toOption_bind]
  congr 1
  funext m'
  congr 1
  funext x
  cases x.2.isEmpty <;> rfl

theorem Steady.decode {α : Type} {r : Record α} (h : r.Steady) (names : r.names.Nodup) :
    r.decode.Steady := by
  intro f g m n alike agree
  cases f with
  | object ms closed =>
    have whole := alike.isSome_left
    have whole' := alike.isSome_right
    cases alike with
    | @object _ ns ls members distinct perm =>
      have alike := Alike.object members distinct perm
      obtain ⟨m', n', left, right, agree⟩ := agree.enter
      rw [toOption_decode_object names whole alike.nodup_left,
        toOption_decode_object names whole' alike.nodup_right, left, right]
      exact h.lookUp?_eq alike agree
  | array fs closed =>
    cases alike with
    | array items =>
      obtain ⟨m', n', left, right, agree⟩ := agree.enter
      have taken := h.take items agree
      rw [toOption_decode_array, toOption_decode_array, left, right]
      simp only [toOption_ok, Option.bind_some]
      generalize (r.take m' true fs).toOption = x, (r.take n' true _).toOption = y at taken
      cases taken with
      | none => rfl
      | some same => simp only [Option.bind_some, same.1, same.2.isEmpty_eq]
  | _ => cases alike <;> rfl

end Record

namespace Decoder

theorem json_eq_ok {m : Medium} {f : Fragment} {j : Json} (h : json m f = .ok j) :
    f.toJson? = some j ∧ m.Admits f.depth := by
  rw [json, bind_eq_ok_iff] at h
  obtain ⟨_, held, found⟩ := h
  have fits := ((hold_eq_ok_iff f m).1 held).2
  cases stands : f.toJson? with
  | none =>
    rw [stands] at found
    cases found
  | some i =>
    rw [stands] at found
    cases found
    exact ⟨rfl, fits⟩

theorem ofSaid_eq_ok_iff {d : Decoder α} {said : Fragment × Option (List Char)} {a : α} :
    d.ofSaid said = .ok a ↔ d (.text textLevels) said.1 = .ok a ∧
      ∃ cs, said.2 = some cs ∧ Read.skip cs = [] := by
  unfold ofSaid
  simp only [bind_eq_ok_iff]
  cases said.2 with
  | none => simp
  | some cs => cases h : Read.skip cs <;> simp [h, pure, Except.pure]

theorem ofText_eq_ok_iff {d : Decoder α} {t : String} {a : α} :
    d.ofText t = .ok a ↔ d (.text textLevels) (read t).1 = .ok a ∧
      ∃ cs, (read t).2 = some cs ∧ Read.skip cs = [] :=
  ofSaid_eq_ok_iff

theorem Steady.toOption_ofText {t : String} {j : Json} {d : Decoder α} (h : d.Steady)
    (distinct : (read t).1.Distinct) (reads : json.ofText t = .ok j) :
    (d.ofText t).toOption = (d.ofJson j).toOption := by
  obtain ⟨said, whole⟩ := ofText_eq_ok_iff.1 reads
  obtain ⟨stands, fits⟩ := json_eq_ok said
  have same : (d (.text textLevels) (read t).1).toOption = (d.ofJson j).toOption :=
    h (alike_of_toJson? distinct stands) ⟨by simp, fits, trivial⟩
  rw [← same]
  apply Option.ext
  intro a
  rw [toOption_eq_some_iff, toOption_eq_some_iff, ofText_eq_ok_iff, and_iff_left whole]

end Decoder

end FeatureFlags.Json
