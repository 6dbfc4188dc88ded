import FeatureFlags.Proofs.Client.Execution
import FeatureFlags.Proofs.Client.Flight
import FeatureFlags.Proofs.Validity

namespace FeatureFlags.Client

variable {c d : Client}

def FailsWith (c : Client) (s : Sequence) (e : LoadError) (payload : Option Payload) (d : Client) :
    Prop :=
  ∃ before after, c.sequences = before ++ s :: after ∧
    d = { (c.afterFailure s e payload).2 with
      sequences := before ++ (c.afterFailure s e payload).1 :: after }

structure Settled (c : Client) (call : Nat) : Prop where
  made : call ≤ c.calls.length
  unawaited : ∀ s ∈ c.sequences, ∀ token deadline, s.phase ≠ .awaiting call token deadline
  unserved : ∀ served, c.state.specification = some served → served.fromCall ≠ call

def Trusted (c : Client) : Prop :=
  c.issued < UInt64.size → ∀ served, c.state.specification = some served →
    ∃ p : Payload, p.accept c.config.skipValidation = .ok served.specification

theorem Flight.own_verdict (h : Flight c) (registered : Registered c) (few : c.issued < UInt64.size)
    {s : Sequence} (hs : s ∈ c.sequences) {call : Nat} {token : UInt64}
    {r : Except LoadError Verdict} (move : c.move? s = some (.conclude call token r))
    {served : Served} (judged : judge call token r = .ok served) :
    ∃ k ∈ c.calls, k.number = call ∧ ∃ p, r = .ok (k.validator.validate p) ∧
      p.accept c.config.skipValidation = .ok served.specification := by
  obtain ⟨-, k, hk, rfl, rfl, -⟩ := h.of_conclude hs move
  obtain ⟨v, rfl, same, outcome, -⟩ := of_judge_eq_ok judged
  obtain ⟨-, -, returned | ⟨timeout, -⟩⟩ := move?_conclude move
  · have ending : k.ending = some (.ok v) := by simpa [registered.call? hk] using returned
    cases registered.endings k hk _ ending with
    | @verdict w p known =>
      obtain rfl := registered.eq_of_token few hk known same
      refine ⟨k, hk, rfl, p, rfl, ?_⟩
      rw [← registered.skips k hk]
      exact outcome
  · cases timeout

namespace Trusted

theorem of_same (h : Trusted c) (specification : d.state.specification = c.state.specification)
    (config : d.config = c.config) (issued : c.issued ≤ d.issued) : Trusted d := by
  intro few
  rw [specification, config]
  exact h (Nat.lt_of_le_of_lt issued few)

theorem effect (h : Trusted c) (flight : Flight c) (registered : Registered c) (e : Effect c d) :
    Trusted d := by
  have issued := e.grows.issued
  cases e with
  | idle => exact h
  | join free =>
    rw [joinLoad_of_free free] at issued ⊢
    exact h.of_same rfl rfl issued
  | call => exact h.of_same rfl rfl issued
  | @load before s after call token r served parts move judged =>
    rintro few _ ⟨⟩
    obtain ⟨-, -, -, p, -, accepted⟩ :=
      flight.own_verdict registered few (by simp [parts]) move judged
    exact ⟨p, accepted⟩
  | rest => exact h.of_same rfl rfl issued
  | giveUp => exact h.of_same rfl rfl issued
  | finish => exact h.of_same rfl rfl issued
  | issue => exact h.of_same rfl rfl issued
  | wait => exact h.of_same rfl rfl issued

theorem step (h : Trusted c) (flight : Flight c) (registered : Registered c) (step : Step c d) :
    Trusted d := by
  obtain ⟨e, effect, same⟩ := step.effect
  exact (h.effect flight registered effect).of_same (by rw [same.state]) same.config
    (Nat.le_of_eq same.issued.symm)

end Trusted

theorem Reachable.trusted (h : Reachable c) : Trusted c := by
  apply h.invariant
  · intro config loader observer epoch inTurn host _ served found
    unfold build at found
    dsimp only at found
    split at found <;> cases found
  · intro c d reachable trusted
    exact trusted.step reachable.flight reachable.registered

namespace Settled

theorem replace {call : Nat} (h : Settled c call) {before after : List Sequence} {s s' : Sequence}
    (parts : c.sequences = before ++ s :: after)
    (unawaited : ∀ token deadline, s'.phase ≠ .awaiting call token deadline) :
    ∀ t ∈ before ++ s' :: after, ∀ token deadline, t.phase ≠ .awaiting call token deadline := by
  have others := h.unawaited
  rw [parts, List.forall_mem_append, List.forall_mem_cons] at others
  rw [List.forall_mem_append, List.forall_mem_cons]
  exact ⟨others.1, unawaited, others.2.2⟩

theorem effect {call : Nat} (h : Settled c call) (e : Effect c d) : Settled d call := by
  cases e with
  | idle => exact h
  | join free =>
    rw [joinLoad_of_free free]
    refine ⟨h.made, fun s hs => ?_, h.unserved⟩
    rcases List.mem_append.1 hs with hs | hs
    · exact h.unawaited s hs
    · obtain rfl := List.mem_singleton.1 hs
      simp
  | call parts =>
    refine ⟨?_, h.replace parts ?_, h.unserved⟩
    · simpa [tryNext, callLoader] using Nat.le_succ_of_le h.made
    · -- the call that is awaited now was made later
      rintro token deadline ⟨⟩
      exact absurd h.made (Nat.not_succ_le_self _)
  | @load before s after call' token r served parts move judged =>
    refine ⟨h.made, h.replace parts (by simp), ?_⟩
    rintro _ ⟨⟩ same
    obtain ⟨deadline, phase, -⟩ := move?_conclude move
    obtain ⟨-, -, -, -, rfl⟩ := of_judge_eq_ok judged
    exact h.unawaited s (by simp [parts]) token deadline (same ▸ phase)
  | rest parts => exact ⟨h.made, h.replace parts (by simp), h.unserved⟩
  | giveUp parts => exact ⟨h.made, h.replace parts (by simp), h.unserved⟩
  | finish parts => exact ⟨by simpa [parts] using h.made, h.unawaited, h.unserved⟩
  | issue => exact ⟨h.made, h.unawaited, h.unserved⟩
  | wait => exact ⟨h.made, h.unawaited, h.unserved⟩

theorem alike {call : Nat} (h : Settled c call) (same : Alike c d) : Settled d call :=
  ⟨same.calls ▸ h.made, same.sequences ▸ h.unawaited, same.state ▸ h.unserved⟩

theorem steps {call : Nat} (h : Settled c call) (steps : Steps c d) : Settled d call := by
  induction steps with
  | refl => exact h
  | tail _ step ih =>
    obtain ⟨e, effect, same⟩ := step.effect
    exact (ih.effect effect).alike same

end Settled

theorem FailsWith.state {s : Sequence} {e : LoadError} {payload : Option Payload}
    (h : c.FailsWith s e payload d) :
    d.state.specification = c.state.specification ∧ d.state.loadedAt = c.state.loadedAt := by
  obtain ⟨before, after, -, rfl⟩ := h
  unfold afterFailure
  dsimp only
  split <;> simp [giveUp, (alike_dispatch ..).state]

theorem calls_afterFailure (c : Client) (s : Sequence) (e : LoadError) (payload : Option Payload) :
    (c.afterFailure s e payload).2.calls = c.calls := by
  unfold afterFailure
  dsimp only
  split <;> simp [giveUp, (alike_dispatch ..).calls]

theorem phase_afterFailure (c : Client) (s : Sequence) (e : LoadError) (payload : Option Payload)
    (call : Nat) (token : UInt64) (deadline : Option Nat) :
    (c.afterFailure s e payload).1.phase ≠ .awaiting call token deadline := by
  unfold afterFailure
  dsimp only
  split <;> simp

section

variable {s : Sequence} {call : Nat} {token : UInt64} {r : Except LoadError Verdict} {e : LoadError}
  {payload : Option Payload}

theorem Concludes.failsWith (h : c.Concludes s call token r d) (flight : Flight c)
    (judged : judge call token r = .error (e, payload)) : c.FailsWith s e payload d := by
  obtain ⟨before, after, m, parts, move, rfl⟩ :=
    flight.of_moveSequence? h.moved h.mem (running_of_move? h.move)
  obtain rfl := Option.some.inj (h.move.symm.trans move)
  refine ⟨before, after, parts, ?_⟩
  simp only [makeMove, judged]

theorem Concludes.settled (h : c.Concludes s call token r d) (flight : Flight c)
    (fails : c.FailsWith s e payload d) : Settled d call := by
  obtain ⟨flying, k, hk, rfl, -, last, newer⟩ := flight.of_conclude h.mem h.move
  have same := fails.state.1
  obtain ⟨before, after, parts, rfl⟩ := fails
  refine ⟨?_, ?_, ?_⟩
  · exact Nat.le_of_eq (last.trans (by rw [calls_afterFailure]))
  · have others (t : Sequence) (ht : t ∈ before ++ after) (token : UInt64) (deadline : Option Nat) :
        t.phase ≠ .awaiting k.number token deadline := by
      obtain ⟨-, r, ended⟩ := flight.others parts flying ht
      simp [ended]
    rw [List.forall_mem_append] at others
    rw [List.forall_mem_append, List.forall_mem_cons]
    exact ⟨others.1, phase_afterFailure c s e payload k.number, others.2⟩
  · intro served found
    rw [same] at found
    exact Nat.ne_of_lt (newer served found)

end

structure ServesOwn (c : Client) : Prop where
  valid : c.config.skipValidation = false → ∀ served, c.state.specification = some served →
    served.specification.validate = .ok ()
  changes : ∀ d, Step c d →
    d.state.specification = c.state.specification ∧ d.state.loadedAt = c.state.loadedAt ∨
      ∃ s token, ∃ k ∈ c.calls, ∃ p S,
        c.Concludes s k.number token (.ok (k.validator.validate p)) d ∧
        (k.validator.validate p).outcome = .ok S ∧
        d.state.specification = some ⟨S, k.number⟩ ∧ d.state.loadedAt = some c.now
  foreign : ∀ s token, ∀ k ∈ c.calls, ∀ v p d, c.Issued v → v ≠ k.validator →
    c.Concludes s k.number token (.ok (v.validate p)) d →
      c.FailsWith s .contractViolation none d ∧
        d.state.specification = c.state.specification ∧ d.state.loadedAt = c.state.loadedAt
  late : ∀ s call token limit d, c.Concludes s call token (.error (.timeout limit)) d →
    ∀ e, Steps d e → ∀ served, e.state.specification = some served → served.fromCall ≠ call

theorem validate_of_accept {p : Payload} {S : Specification} (h : p.accept false = .ok S) :
    S.validate = .ok () := by
  unfold Payload.accept at h
  cases read : p.read with
  | error e =>
    rw [read] at h
    cases h
  | ok T =>
    rw [read] at h
    change (T.validate >>= fun _ => pure T) = .ok S at h
    cases validated : T.validate with
    | error e =>
      rw [validated] at h
      cases h
    | ok =>
      rw [validated] at h
      cases h
      exact validated

theorem Step.keeps_or_installs (step : Step c d) (flight : Flight c) (registered : Registered c)
    (few : c.issued < UInt64.size) :
    d.state.specification = c.state.specification ∧ d.state.loadedAt = c.state.loadedAt ∨
      ∃ s token, ∃ k ∈ c.calls, ∃ p S,
        c.Concludes s k.number token (.ok (k.validator.validate p)) d ∧
        (k.validator.validate p).outcome = .ok S ∧
        d.state.specification = some ⟨S, k.number⟩ ∧ d.state.loadedAt = some c.now := by
  rcases step.move_or_keeps with moved | kept
  · obtain ⟨before, s, after, m, parts, move, equal⟩ := of_moveSequence? moved
    have hs : s ∈ c.sequences := by simp [parts]
    cases m with
    | tryNext =>
      rw [equal]
      exact .inl ⟨rfl, rfl⟩
    | conclude call token r =>
      have concludes : c.Concludes s call token r d := ⟨moved, hs, move⟩
      cases judged : judge call token r with
      | ok served =>
        obtain ⟨k, hk, rfl, p, rfl, -⟩ := flight.own_verdict registered few hs move judged
        obtain ⟨-, ⟨⟩, -, outcome, fromCall⟩ := of_judge_eq_ok judged
        have installed : d.state = (c.install served).state := by
          rw [equal]
          simp only [makeMove, judged]
        rw [(alike_install c served).state] at installed
        refine .inr ⟨s, token, k, hk, p, served.specification, concludes, outcome, ?_, ?_⟩
        · rw [installed, ← fromCall]
        · rw [installed]
      | error failure => exact .inl (concludes.failsWith flight judged).state
  · exact .inl ⟨kept.specification, kept.loadedAt⟩

theorem Concludes.judge_foreign {s : Sequence} {k : Call} {token : UInt64} {v : Validator}
    {p : Payload} (h : c.Concludes s k.number token (.ok (v.validate p)) d) (flight : Flight c)
    (registered : Registered c) (few : c.issued < UInt64.size) (hk : k ∈ c.calls)
    (known : c.Issued v) (other : v ≠ k.validator) :
    judge k.number token (.ok (v.validate p)) = .error (.contractViolation, none) := by
  obtain ⟨-, l, hl, number, rfl, -⟩ := flight.of_conclude h.mem h.move
  have found := registered.call? hl
  rw [number, registered.call? hk] at found
  obtain rfl := Option.some.inj found
  exact if_neg fun same => other (registered.eq_of_token few hk known same)

theorem servesOwn_of_reachable (reachable : Reachable c) (few : c.issued < UInt64.size) :
    ServesOwn c := by
  have flight := reachable.flight
  have registered := reachable.registered
  constructor
  · intro validates served found
    obtain ⟨p, accepted⟩ := reachable.trusted few served found
    rw [validates] at accepted
    exact validate_of_accept accepted
  · intro d step
    exact step.keeps_or_installs flight registered few
  · intro s token k hk v p d known other concludes
    have judged := concludes.judge_foreign flight registered few hk known other
    have fails := concludes.failsWith flight judged
    exact ⟨fails, fails.state⟩
  · intro s call token limit d concludes e steps
    have fails := concludes.failsWith flight rfl
    exact ((concludes.settled flight fails).steps steps).unserved

def misled : Client :=
  let c := build {} (fun _ => { deed := .borrow true (.json .null) }) none ⟨0, 0⟩ true
  let d := c.loadStep?.getD c
  d.loadStep?.getD d

theorem servesOwn_misled : ServesOwn misled ∧ ∃ s token d,
    misled.Concludes s 1 token (.ok (Validator.validate ⟨2, true⟩ (.json .null))) d := by
  let c := build {} (fun _ => { deed := .borrow true (.json .null) }) none ⟨0, 0⟩ true
  have called : Steps c (c.loadStep?.getD c) := steps_getD_loadStep? (.build ..)
  have returned := called.trans (steps_getD_loadStep? ((Registered.build ..).steps called))
  have reachable : Reachable misled := ⟨_, _, _, _, _, _, returned⟩
  exact ⟨servesOwn_of_reachable reachable (by decide), _, _, _, rfl, .head _, rfl⟩

end FeatureFlags.Client
