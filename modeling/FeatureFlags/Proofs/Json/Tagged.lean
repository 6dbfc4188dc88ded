import FeatureFlags.Proofs.Json.Steady

namespace FeatureFlags.Json

open Fragment

namespace Tagged

variable {names : List (String × α)} {key : String} {m n : Medium}
  {ms : List (Option String × Fragment)}

theorem steady_readTag : Decoder.Steady (readTag names) := by
  intro f g m n alike agree
  cases alike with
  | number k =>
    cases m with
    | held =>
      rw [agree.held.1 rfl]
    | _ =>
      cases n with
      | held => cases agree.held.2 rfl
      | _ => cases k <;> rfl
  | _ => cases m <;> cases n <;> rfl

theorem members_of_not_mem (keys : ∀ p ∈ ms, p.1.isSome ∧ Decoder.hold m p.2 = .ok ())
    (gone : some key ∉ ms.map (·.1)) (tag : Option α) :
    members names key m tag ms = .ok (tag, ms) := by
  induction ms with
  | nil => rfl
  | cons p ms ih =>
    obtain ⟨_ | k, f⟩ := p
    · cases (keys _ (.head _)).1
    · have differs : k ≠ key := fun same => gone (same ▸ .head _)
      have held := (keys _ (.head _)).2
      have keys : ∀ p ∈ ms, p.1.isSome ∧ Decoder.hold m p.2 = .ok () :=
        fun p hp => keys p (.tail _ hp)
      simp only [members, if_neg differs, held, ih keys fun h => gone (.tail _ h)]
      rfl

theorem toOption_members (keys : ∀ p ∈ ms, p.1.isSome ∧ Decoder.hold m p.2 = .ok ())
    (distinct : (ms.map (·.1)).Nodup) :
    (members names key m none ms).toOption = match ms.lookup (some key) with
      | some f => (readTag names m f).toOption.map fun a => (some a, ms.filter (·.1 != some key))
      | none => some (none, ms) := by
  induction ms with
  | nil => rfl
  | cons p ms ih =>
    obtain ⟨_ | k, f⟩ := p
    · cases (keys _ (.head _)).1
    · have held := (keys _ (.head _)).2
      have keys : ∀ p ∈ ms, p.1.isSome ∧ Decoder.hold m p.2 = .ok () :=
        fun p hp => keys p (.tail _ hp)
      obtain ⟨gone, distinct⟩ := List.nodup_cons.1 distinct
      by_cases same : k = key
      · subst same
        have others : ms.filter (·.1 != some k) = ms :=
          List.filter_eq_self.2 fun p hp => bne_iff_ne.2 fun h =>
            gone (h ▸ List.mem_map_of_mem (f := (·.1)) hp)
        simp only [members, if_pos, List.lookup_cons_self, toOption_bind, members_of_not_mem keys gone,
          List.filter_cons, bne_self_eq_false, Bool.false_eq_true, if_false, others]
        cases readTag names m f <;> rfl
      · have passed : (some key == some k) = false :=
          beq_eq_false_iff_ne.2 fun h => same (Option.some.inj h).symm
        have kept : (some k != some key) = true := bne_iff_ne.2 fun h => same (Option.some.inj h)
        simp only [members, if_neg same, held, toOption_bind, ih keys distinct, List.lookup_cons,
          passed, List.filter_cons, kept]
        cases ms.lookup (some key) with
        | none => rfl
        | some f =>
          dsimp only
          cases readTag names m f <;> rfl

theorem toOption_decode_object (whole : (Fragment.object ms true).toJson?.isSome)
    (distinct : (ms.map (·.1)).Nodup) (admits : m.Admits (Fragment.object ms true).depth) :
    (decode names key m (.object ms true)).toOption = m.enter.toOption.bind fun m =>
      (ms.lookup (some key)).bind fun f => (readTag names m f).toOption.map fun a =>
        ⟨a, .object (ms.filter (·.1 != some key)) true⟩ := by
  obtain ⟨m', entered, admits, -⟩ := admits.enter
  have keys (p : Option String × Fragment) (hp : p ∈ ms) :
      p.1.isSome ∧ Decoder.hold m' p.2 = .ok () := by
    have part := mem_of_toJson?_object whole p hp
    exact ⟨part.1, (Decoder.hold_eq_ok_iff ..).2 ⟨part.2, admits.mono (le_depthOfMembers hp)⟩⟩
  simp only [decode, toOption_bind, entered, toOption_ok, Option.bind_some, Decoder.closing, if_true,
    toOption_members keys distinct]
  cases ms.lookup (some key) with
  | none => rfl
  | some f =>
    simp only [Option.bind_some]
    cases readTag names m' f <;> rfl

def Alike (s t : Tagged α) : Prop := s.tag = t.tag ∧ s.content.Alike t.content

theorem alike_decode {f g : Fragment} (alike : f.Alike g) (agree : m.Agree n f.depth) :
    Option.Rel Alike (decode names key m f).toOption (decode names key n g).toOption := by
  cases f with
  | object ms closed =>
    have whole := alike.isSome_left
    have whole' := alike.isSome_right
    have room := alike.depth_eq ▸ agree.right
    cases alike with
    | @object _ ns ls members distinct perm =>
      have alike := Fragment.Alike.object members distinct perm
      rw [toOption_decode_object whole alike.nodup_left agree.left,
        toOption_decode_object whole' alike.nodup_right room]
      obtain ⟨m', n', left, right, agree⟩ := agree.enter
      have room (f : Fragment) (found : ms.lookup (some key) = some f) : m'.Agree n' f.depth :=
        agree.mono (le_depthOfMembers (mem_of_lookup found))
      have found := alike.lookup (some key)
      rw [left, right]
      generalize ms.lookup (some key) = f, ls.lookup (some key) = g at found room
      cases found with
      | none => exact .none
      | @some f g first =>
        have same : (readTag names m' f).toOption = (readTag names n' g).toOption :=
          steady_readTag first (room f rfl)
        simp only [toOption_ok, Option.bind_some, same]
        cases (readTag names n' g).toOption with
        | none => exact .none
        | some a => exact .some ⟨rfl, alike.filter (· != some key)⟩
  | array fs closed =>
    cases alike with
    | array items =>
      obtain ⟨m', n', left, right, agree⟩ := agree.enter
      cases items with
      | nil =>
        simp only [decode, left, right, toOption_bind, toOption_ok, Option.bind_some]
        exact .none
      | @cons f g fs gs first rest =>
        have tag : (readTag names m' f).toOption = (readTag names n' g).toOption :=
          steady_readTag first (agree.mono (Nat.le_max_left ..))
        have agree := agree.mono (Nat.le_max_right f.depth (depthOfItems fs))
        have heldLeft : Decoder.holdItems m' fs = .ok () :=
          (Decoder.holdItems_eq_ok_iff ..).2 ⟨rest.isSome_left, agree.left⟩
        have heldRight : Decoder.holdItems n' gs = .ok () :=
          (Decoder.holdItems_eq_ok_iff ..).2 ⟨rest.isSome_right, rest.depth_eq ▸ agree.right⟩
        simp only [decode, left, right, heldLeft, heldRight, tag, Decoder.closing, if_true,
          toOption_bind, toOption_ok, toOption_pure, Option.bind_some]
        cases (readTag names n' g).toOption with
        | none => exact .none
        | some a => exact .some ⟨rfl, .array rest⟩
  | _ => cases alike <;> exact .none

end Tagged

end FeatureFlags.Json
