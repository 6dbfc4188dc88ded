import FeatureFlags.Proofs.Client.Step
import FeatureFlags.Proofs.Lookup
import Mathlib.Data.List.Basic

namespace FeatureFlags.Client

variable {c d : Client}

structure Grows (c d : Client) : Prop where
  issued : c.issued ≤ d.issued
  calls : ∀ k ∈ d.calls, k.validator.serial ≤ c.issued → ∃ l ∈ c.calls, l.validator = k.validator

theorem Grows.of_calls (issued : c.issued ≤ d.issued) (calls : d.calls = c.calls) : Grows c d :=
  ⟨issued, fun k hk _ => ⟨k, calls ▸ hk, rfl⟩⟩

theorem Alike.grows (h : Alike c d) : Grows c d := .of_calls (Nat.le_of_eq h.issued.symm) h.calls

theorem Grows.trans {e : Client} (h : Grows c d) (g : Grows d e) : Grows c e := by
  refine ⟨Nat.le_trans h.issued g.issued, fun k hk old => ?_⟩
  obtain ⟨l, hl, same⟩ := g.calls k hk (Nat.le_trans old h.issued)
  rw [← same] at old ⊢
  exact h.calls l hl old

theorem grows_callLoader (c : Client) : Grows c c.callLoader := by
  refine ⟨Nat.le_succ _, fun k hk old => ?_⟩
  rcases List.mem_append.1 hk with hk | hk
  · exact ⟨k, hk, rfl⟩
  · obtain rfl := List.mem_singleton.1 hk
    exact absurd old (Nat.not_succ_le_self _)

theorem Effect.grows (h : Effect c d) : Grows c d := by
  cases h with
  | idle => exact .of_calls (Nat.le_refl _) rfl
  | join free =>
    rw [joinLoad_of_free free]
    exact .of_calls (Nat.le_refl _) rfl
  | call => exact (grows_callLoader c).trans (.of_calls (Nat.le_refl _) rfl)
  | load => exact .of_calls (Nat.le_refl _) rfl
  | rest => exact .of_calls (Nat.le_refl _) rfl
  | giveUp => exact .of_calls (Nat.le_refl _) rfl
  | @finish _ k _ _ _ parts =>
    refine ⟨Nat.le_refl _, fun l hl _ => ?_⟩
    rcases List.mem_append.1 hl with hl | hl
    · exact ⟨l, by simp [parts, hl], rfl⟩
    rcases List.mem_cons.1 hl with rfl | hl
    · exact ⟨k, by simp [parts], rfl⟩
    · exact ⟨l, by simp [parts, hl], rfl⟩
  | issue => exact .of_calls (Nat.le_succ _) rfl
  | wait => exact .of_calls (Nat.le_refl _) rfl

theorem Issued.grows {v : Validator} (h : c.Issued v) (grows : Grows c d) : d.Issued v := by
  refine ⟨h.1, Nat.le_trans h.2.1 grows.issued, fun k hk same => ?_⟩
  obtain ⟨l, hl, equal⟩ := grows.calls k hk (same ▸ h.2.1)
  rw [← equal] at same ⊢
  exact h.2.2 l hl same

theorem MayReturn.grows {r : Except LoadError Verdict} (h : c.MayReturn r) (grows : Grows c d) :
    d.MayReturn r := by
  cases h with
  | fail => exact .fail
  | panic => exact .panic
  | verdict known => exact .verdict (known.grows grows)

structure Registered (c : Client) : Prop where
  numbers : c.calls.map (·.number) = List.range' 1 c.calls.length
  skips : ∀ k ∈ c.calls, k.validator.skipValidation = c.config.skipValidation
  issued : ∀ k ∈ c.calls, c.Issued k.validator
  stashed : ∀ v ∈ c.stashed, c.Issued v.2
  endings : ∀ k ∈ c.calls, ∀ r, k.ending = some r → c.MayReturn r

namespace Registered

theorem of_calls (h : Registered c) (grows : Grows c d) (calls : d.calls = c.calls)
    (config : d.config = c.config) (stashed : d.stashed = c.stashed) : Registered d where
  numbers := by rw [calls, h.numbers]
  skips := by
    rw [calls, config]
    exact h.skips
  issued k hk := (h.issued k (calls ▸ hk)).grows grows
  stashed v hv := (h.stashed v (stashed ▸ hv)).grows grows
  endings k hk r ended := (h.endings k (calls ▸ hk) r ended).grows grows

theorem alike (h : Registered c) (same : Alike c d) : Registered d :=
  h.of_calls same.grows same.calls same.config same.stashed

theorem call? (h : Registered c) {k : Call} (hk : k ∈ c.calls) : c.call? k.number = some k := by
  apply find?_eq_some_of_nodup _ hk
  rw [h.numbers]
  exact List.nodup_range'

theorem callLoader (h : Registered c) : Registered c.callLoader where
  numbers := by
    simp [Client.callLoader, newCall, h.numbers, List.range'_1_concat, Nat.add_comm]
  skips k hk := by
    rcases List.mem_append.1 hk with hk | hk
    · exact h.skips k hk
    · obtain rfl := List.mem_singleton.1 hk
      rfl
  issued k hk := by
    rcases List.mem_append.1 hk with hk | hk
    · exact (h.issued k hk).grows (grows_callLoader c)
    · obtain rfl := List.mem_singleton.1 hk
      refine ⟨Nat.succ_pos _, Nat.le_refl _, fun l hl same => ?_⟩
      rcases List.mem_append.1 hl with hl | hl
      · have old := (h.issued l hl).2.1
        rw [same] at old
        exact absurd old (Nat.not_succ_le_self _)
      · obtain rfl := List.mem_singleton.1 hl
        rfl
  stashed v hv := (h.stashed v hv).grows (grows_callLoader c)
  endings k hk r ended := by
    rcases List.mem_append.1 hk with hk | hk
    · exact (h.endings k hk r ended).grows (grows_callLoader c)
    · obtain rfl := List.mem_singleton.1 hk
      cases ended

theorem effect (h : Registered c) (e : Effect c d) : Registered d := by
  have grows := e.grows
  cases e with
  | idle => exact h
  | join free =>
    rw [joinLoad_of_free free] at grows ⊢
    exact h.of_calls grows rfl rfl rfl
  | call => exact h.callLoader.of_calls (.of_calls (Nat.le_refl _) rfl) rfl rfl rfl
  | load => exact h.of_calls grows rfl rfl rfl
  | rest => exact h.of_calls grows rfl rfl rfl
  | giveUp => exact h.of_calls grows rfl rfl rfl
  | @finish before k after r kept parts running possible known =>
    have finished (P : Call → Prop) (old : ∀ l ∈ c.calls, P l)
        (new : P k → P { k with ending := some r }) :
        ∀ l ∈ before ++ { k with ending := some r } :: after, P l := by
      rw [parts] at old
      simp only [List.forall_mem_append, List.forall_mem_cons] at old ⊢
      exact ⟨old.1, new old.2.1, old.2.2⟩
    constructor
    · simpa [parts] using h.numbers
    · exact finished _ h.skips id
    · exact finished (fun l => Issued _ l.validator) (fun l hl => (h.issued l hl).grows grows) id
    · exact fun v hv => (known v hv).grows grows
    · apply finished (fun l => ∀ r', l.ending = some r' → MayReturn _ r')
      · exact fun l hl r' ended => (h.endings l hl r' ended).grows grows
      · intro _ r' ended
        cases ended
        exact possible.grows grows
  | issue => exact h.of_calls grows rfl rfl rfl
  | wait => exact h.of_calls grows rfl rfl rfl

theorem step (h : Registered c) (s : Step c d) : Registered d := by
  obtain ⟨e, effect, same⟩ := s.effect
  exact (h.effect effect).alike same

theorem build (config : Config) (loader : Loader) (observer : Option Observer) (epoch : Instant)
    (inTurn : Bool) (host : Host) :
    Registered (build config loader observer epoch inTurn host) := by
  have empty : Registered { config, loader, host, observer, epoch } := by
    constructor <;> simp
  unfold Client.build
  dsimp only
  split
  · exact empty.effect (.join rfl)
  · exact empty

theorem eq_of_token (h : Registered c) (few : c.issued < UInt64.size) {k : Call}
    (hk : k ∈ c.calls) {v : Validator} (known : c.Issued v)
    (same : v.token = k.validator.token) : v = k.validator := by
  have own := (h.issued k hk).2.1
  have serials : v.serial = k.validator.serial := by
    have := congrArg UInt64.toNat same
    simpa [Validator.token, Nat.mod_eq_of_lt, Nat.lt_of_le_of_lt known.2.1 few,
      Nat.lt_of_le_of_lt own few] using this
  exact (known.2.2 k hk serials.symm).symm

theorem token_eq_iff (h : Registered c) (few : c.issued < UInt64.size) {k : Call}
    (hk : k ∈ c.calls) {v : Verdict} (ended : k.ending = some (.ok v)) :
    v.token = k.validator.token ↔ ∃ p, v = k.validator.validate p := by
  constructor
  · intro same
    cases h.endings k hk _ ended with
    | @verdict w p known => exact ⟨p, by rw [h.eq_of_token few hk known same]⟩
  · rintro ⟨p, rfl⟩
    rfl

end Registered

theorem Reachable.registered (h : Reachable c) : Registered c :=
  h.invariant .build fun _ _ _ registered => registered.step

theorem of_judge_eq_ok {call : Nat} {token : UInt64} {r : Except LoadError Verdict}
    {served : Served} (h : judge call token r = .ok served) :
    ∃ v, r = .ok v ∧ v.token = token ∧ v.outcome = .ok served.specification ∧
      served.fromCall = call := by
  cases r with
  | error e => cases h
  | ok v =>
    simp only [judge] at h
    split at h
    · next same =>
      cases outcome : v.outcome with
      | ok S =>
        rw [outcome] at h
        cases h
        exact ⟨v, rfl, same, outcome, rfl⟩
      | error e =>
        rw [outcome] at h
        cases h
    · cases h

end FeatureFlags.Client
