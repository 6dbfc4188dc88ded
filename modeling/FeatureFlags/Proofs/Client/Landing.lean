import FeatureFlags.Proofs.Client.SingleFlight
import FeatureFlags.Proofs.Client.Trust

namespace FeatureFlags.Client

def State.land (s : State) (now : Nat) : Except LoadFailure Served → State
  | .ok served => { s with specification := some served, loadedAt := some now, inFlight := none }
  | .error _ => { s with loadFailedAt := some now, inFlight := none }

variable {c d : Client}

structure Rests (c d : Client) : Prop where
  specification : d.state.specification = c.state.specification
  loadedAt : d.state.loadedAt = c.state.loadedAt
  loadFailedAt : d.state.loadFailedAt = c.state.loadFailedAt
  inFlight : ∀ n, c.state.inFlight = some n → d.state.inFlight = some n
  results : d.result? = c.result?
  now : c.now ≤ d.now

structure Lands (c : Client) (n : Nat) (r : Except LoadFailure Served) (d : Client) : Prop where
  flying : c.state.inFlight = some n
  result : d.result? n = some r
  others : ∀ m, m ≠ n → d.result? m = c.result? m
  now : d.now = c.now
  state : d.state = c.state.land c.now r
  loaded : ∀ served, r = .ok served → c.Awaits n served.fromCall
  failed : ∀ e, r = .error e →
    e.attempts = c.config.attempts ∧ ∃ s ∈ c.sequences, s.number = n ∧ s.triesLeft = 0

theorem Alike.result? (h : Alike c d) : d.result? = c.result? := by
  funext n
  simp only [Client.result?, sequence?, h.sequences]

theorem rests_of_state (state : d.state = c.state) (results : d.result? = c.result?)
    (now : c.now ≤ d.now) : Rests c d :=
  ⟨by rw [state], by rw [state], by rw [state], by simp [state], results, now⟩

theorem Alike.rests (h : Alike c d) : Rests c d :=
  rests_of_state h.state h.result? (Nat.le_of_eq h.now.symm)

theorem Rests.trans {e : Client} (h : Rests c d) (g : Rests d e) : Rests c e :=
  ⟨g.specification.trans h.specification, g.loadedAt.trans h.loadedAt,
    g.loadFailedAt.trans h.loadFailedAt, fun n flying => g.inFlight n (h.inFlight n flying),
    g.results.trans h.results, Nat.le_trans h.now g.now⟩

theorem Lands.alike {n : Nat} {r : Except LoadFailure Served} {e : Client} (h : Lands c n r d)
    (same : Alike d e) : Lands c n r e :=
  ⟨h.flying, by rw [same.result?, h.result], by rw [same.result?]; exact h.others,
    same.now.trans h.now, same.state.trans h.state, h.loaded, h.failed⟩

namespace Flight

theorem result?_congr (h : Flight c) (g : Flight d) {n : Nat}
    (ended : ∀ s r, s.number = n → s.phase = .ended r → (s ∈ d.sequences ↔ s ∈ c.sequences)) :
    d.result? n = c.result? n := by
  apply Option.ext
  intro r
  rw [h.result?_eq_some_iff, g.result?_eq_some_iff]
  refine exists_congr fun s => ?_
  rw [and_congr_left]
  rintro ⟨number, phase⟩
  exact ended s r number phase

theorem rests_joinLoad (h : Flight c) : Rests c c.joinLoad.2 := by
  cases inFlight : c.state.inFlight with
  | some n =>
    rw [joinLoad_of_inFlight inFlight]
    exact (Alike.refl c).rests
  | none =>
    have results (n : Nat) := h.result?_congr (n := n) (h.join inFlight) fun s r _ phase => by
      rw [joinLoad_of_free inFlight, List.mem_append, List.mem_singleton, or_iff_left]
      rintro rfl
      cases phase
    rw [joinLoad_of_free inFlight] at results ⊢
    exact ⟨rfl, rfl, rfl, by simp [inFlight], funext results, Nat.le_refl _⟩

variable {before after : List Sequence} {s : Sequence} (parts : c.sequences = before ++ s :: after)

include parts

theorem rests_of_running (h : Flight c) (g : Flight d) {s' : Sequence}
    (parts' : d.sequences = before ++ s' :: after) (running : s.Running) (running' : s'.Running)
    (state : d.state = c.state) (now : d.now = c.now) : Rests c d := by
  refine rests_of_state state (funext fun n => ?_) (Nat.le_of_eq now.symm)
  apply h.result?_congr g
  intro t r _ phase
  have other : t ≠ s := fun same => running r (same ▸ phase)
  have other' : t ≠ s' := fun same => running' r (same ▸ phase)
  simp [parts, parts', other, other']

theorem lands_of_ended (h : Flight c) (g : Flight d) {r : Except LoadFailure Served}
    (parts' : d.sequences = before ++ { s with phase := .ended r } :: after) (running : s.Running)
    (state : d.state = c.state.land c.now r) (now : d.now = c.now)
    (loaded : ∀ served, r = .ok served → c.Awaits s.number served.fromCall)
    (failed : ∀ e, r = .error e → e.attempts = c.config.attempts ∧ s.triesLeft = 0) :
    Lands c s.number r d := by
  have hs : s ∈ c.sequences := by simp [parts]
  constructor
  · exact (h.fits s hs).inFlight running
  · exact g.result?_eq_some_iff.2 ⟨{ s with phase := .ended r }, by simp [parts'], rfl, rfl⟩
  · intro m other
    apply h.result?_congr g
    intro t r' number _
    have notOld : t ≠ s := fun same => other (same ▸ number).symm
    have notNew : t ≠ { s with phase := .ended r } := by
      rintro rfl
      exact other number.symm
    simp [parts, parts', notOld, notNew]
  · exact now
  · exact state
  · exact loaded
  · intro e same
    obtain ⟨attempts, left⟩ := failed e same
    exact ⟨attempts, s, hs, rfl, left⟩

end Flight

theorem Effect.rests_or_lands (effect : Effect c d) (h : Flight c) :
    Rests c d ∨ ∃ n r, Lands c n r d := by
  have g := h.effect effect
  cases effect with
  | idle => exact .inl (Alike.refl c).rests
  | join => exact .inl h.rests_joinLoad
  | call parts phase =>
    refine .inl (h.rests_of_running parts g rfl ?_ ?_ rfl rfl)
    · simp [Sequence.Running, phase]
    · simp [Sequence.Running, tryNext]
  | @load before s after call token r served parts move judged =>
    obtain ⟨deadline, phase, -⟩ := move?_conclude move
    obtain ⟨-, -, -, -, rfl⟩ := of_judge_eq_ok judged
    refine .inr ⟨s.number, .ok served, ?_⟩
    refine h.lands_of_ended parts g rfl (running_of_move? move) rfl rfl ?_ ?_
    · rintro _ ⟨⟩
      exact ⟨s, by simp [parts], rfl, token, deadline, phase⟩
    · rintro _ ⟨⟩
  | rest parts move =>
    exact .inl (h.rests_of_running parts g rfl (running_of_move? move) (by simp [Sequence.Running])
      rfl rfl)
  | @giveUp before s after call token r e payload parts move judged left =>
    refine .inr ⟨s.number, .error ⟨c.config.attempts, e⟩, ?_⟩
    refine h.lands_of_ended parts g rfl (running_of_move? move) rfl rfl ?_ ?_
    · rintro _ ⟨⟩
    · rintro _ ⟨⟩
      exact ⟨rfl, left⟩
  | finish => exact .inl (rests_of_state rfl rfl (Nat.le_refl _))
  | issue => exact .inl (rests_of_state rfl rfl (Nat.le_refl _))
  | wait x => exact .inl (rests_of_state rfl rfl (Nat.le_max_left ..))

theorem Step.rests_or_lands (step : Step c d) (h : Flight c) :
    Rests c d ∨ ∃ n r, Lands c n r d := by
  obtain ⟨e, effect, same⟩ := step.effect
  exact (effect.rests_or_lands h).imp (·.trans same.rests)
    fun ⟨n, r, lands⟩ => ⟨n, r, lands.alike same⟩

theorem Flight.lands_of_result (h : Flight c) (step : Step c d) {n : Nat}
    {r : Except LoadFailure Served} (before : c.result? n = none) (ended : d.result? n = some r) :
    Lands c n r d := by
  rcases step.rests_or_lands h with rests | ⟨m, r', lands⟩
  · rw [rests.results, before] at ended
    cases ended
  · obtain rfl : n = m := by
      by_contra other
      rw [lands.others n other, before] at ended
      cases ended
    obtain rfl := Option.some.inj (lands.result.symm.trans ended)
    exact lands

theorem Flight.lands_of_steps (h : Flight c) (steps : Steps c d) {n : Nat}
    {r : Except LoadFailure Served} (before : c.result? n = none) (ended : d.result? n = some r) :
    ∃ x y, Steps c x ∧ Step x y ∧ Lands x n r y ∧ Steps y d := by
  induction steps with
  | refl => cases before.symm.trans ended
  | @tail d e start step ih =>
    have flight := h.steps start
    cases earlier : d.result? n with
    | none => exact ⟨d, e, start, step, flight.lands_of_result step earlier ended, .refl⟩
    | some r' =>
      have kept := flight.result?_steps earlier (.single step)
      obtain rfl := Option.some.inj (kept.symm.trans ended)
      obtain ⟨x, y, first, landing, lands, rest⟩ := ih earlier
      exact ⟨x, y, first, landing, lands, rest.tail step⟩

theorem Begun.rests (h : Begun c d) (flight : Flight c) : Rests c d := by
  rcases h with same | joined
  · exact same.rests
  · exact flight.rests_joinLoad.trans joined.rests

theorem Step.rests_of_ne (step : Step c d) (h : Flight c) (still : c.moveSequence? ≠ some d) :
    Rests c d := by
  cases step with
  | begin inTurn op => exact (begun_begin c inTurn op).rests h
  | poll t => exact (alike_poll c t).rests
  | move moved => exact absurd moved still
  | finish => exact rests_of_state rfl rfl (Nat.le_refl _)
  | issue => exact rests_of_state rfl rfl (Nat.le_refl _)
  | deliver => exact (alike_deliver c).rests
  | rouse => exact (alike_rouse c _ _).rests
  | wait x => exact rests_of_state rfl rfl (Nat.le_max_left ..)

structure Dated (c : Client) : Prop where
  specification : c.state.specification.isSome = c.state.loadedAt.isSome
  loadedAt : ∀ l, c.state.loadedAt = some l → l ≤ c.now
  loadFailedAt : c.state.loadFailedAt.isSome ↔ ∃ n e, c.result? n = some (.error e)

namespace Dated

theorem rests (h : Dated c) (rests : Rests c d) : Dated d where
  specification := by rw [rests.specification, rests.loadedAt, h.specification]
  loadedAt l loaded := Nat.le_trans (h.loadedAt l (rests.loadedAt ▸ loaded)) rests.now
  loadFailedAt := by rw [rests.loadFailedAt, rests.results, h.loadFailedAt]

theorem lands (h : Dated c) (flight : Flight c) {n : Nat} {r : Except LoadFailure Served}
    (lands : Lands c n r d) : Dated d := by
  have others (m : Nat) (e : LoadFailure) :
      c.result? m = some (.error e) → d.result? m = some (.error e) := fun ended => by
    rw [lands.others m (Nat.ne_of_lt (flight.lt_of_result? ended lands.flying)), ended]
  cases r with
  | ok served =>
    refine ⟨by simp [lands.state, State.land], ?_, ?_⟩
    · intro l loaded
      rw [lands.state] at loaded
      obtain rfl := Option.some.inj loaded
      exact Nat.le_of_eq lands.now.symm
    · rw [lands.state]
      refine h.loadFailedAt.trans ⟨fun ⟨m, e, ended⟩ => ⟨m, e, others m e ended⟩, ?_⟩
      rintro ⟨m, e, ended⟩
      by_cases same : m = n
      · cases ended.symm.trans (same ▸ lands.result)
      · exact ⟨m, e, lands.others m same ▸ ended⟩
  | error e =>
    refine ⟨by rw [lands.state]; exact h.specification, ?_, ?_⟩
    · intro l loaded
      rw [lands.state] at loaded
      exact lands.now.symm ▸ h.loadedAt l loaded
    · simpa [lands.state, State.land] using ⟨n, e, lands.result⟩

theorem step (h : Dated c) (flight : Flight c) (step : Step c d) : Dated d := by
  rcases step.rests_or_lands flight with rests | ⟨n, r, lands⟩
  · exact h.rests rests
  · exact h.lands flight lands

end Dated

theorem Reachable.dated (h : Reachable c) : Dated c := by
  refine h.invariant (fun config loader observer epoch inTurn host => ?_)
    fun c d reachable dated => dated.step reachable.flight
  have empty : Dated { config, loader, host, observer, epoch } := by
    constructor <;> simp [Client.result?, sequence?]
  have flight : Flight { config, loader, host, observer, epoch } := by constructor <;> simp
  unfold build
  dsimp only
  split
  · exact empty.rests flight.rests_joinLoad
  · exact empty

theorem Flight.served_steps (h : Flight c) (steps : Steps c d)
    (served : c.state.specification.isSome) : d.state.specification.isSome := by
  induction steps with
  | refl => exact served
  | tail before step ih =>
    rcases step.rests_or_lands (h.steps before) with rests | ⟨n, r, lands⟩
    · rw [rests.specification, ih]
    · rw [lands.state]
      cases r with
      | ok served => rfl
      | error e => exact ih

theorem Flight.tries_failed (h : Flight c) {n call : Nat} {e : LoadFailure}
    (awaited : c.Awaits n call) (steps : Steps c d) (failed : d.result? n = some (.error e)) :
    ∃ x y, Steps c x ∧ x.Fails n call y ∧ Steps y d := by
  have flight := h.steps steps
  rcases awaited.steps h steps with still | ⟨served, ended⟩ | fails
  · obtain ⟨s, hs, rfl, token, deadline, phase⟩ := still
    rw [flight.result?_of_running hs (by simp [Sequence.Running, phase])] at failed
    cases failed
  · cases failed.symm.trans ended
  · exact fails

theorem afterFailure_ends (c : Client) (s : Sequence) (e : LoadError) (payload : Option Payload) :
    (c.afterFailure s e payload).1.number = s.number ∧
      ∀ served, (c.afterFailure s e payload).1.phase ≠ .ended (.ok served) := by
  unfold afterFailure
  dsimp only
  split <;> simp

theorem Flight.rests_or_lands_of_fails (h : Flight c) {n call : Nat} (fails : c.Fails n call d) :
    Rests c d ∨ ∃ e, Lands c n (.error e) d := by
  obtain ⟨s, token, r, ⟨e, payload⟩, rfl, concludes, judged⟩ := fails
  have step : Step c d := .move concludes.moved
  rcases step.rests_or_lands h with rests | ⟨m, r, lands⟩
  · exact .inl rests
  have flying := (h.fits s concludes.mem).inFlight (running_of_move? concludes.move)
  obtain rfl := Option.some.inj (flying.symm.trans lands.flying)
  cases r with
  | error e => exact .inr ⟨e, lands⟩
  | ok served =>
    -- the sequence did not end with what it loaded
    have g := h.step step
    obtain ⟨t, ht, number, phase⟩ := g.result?_eq_some_iff.1 lands.result
    obtain ⟨before, after, -, rfl⟩ := concludes.failsWith h judged
    obtain ⟨same, unloaded⟩ := afterFailure_ends c s e payload
    have found := g.sequence? ht
    rw [number, ← same, g.sequence? (List.mem_append_right _ (.head _))] at found
    exact absurd phase (Option.some.inj found ▸ unloaded served)

structure Steady (c : Client) : Prop where
  dated : c.state.specification.isSome = c.state.loadedAt.isSome
  kept : ∀ d, Steps c d → c.state.specification.isSome → d.state.specification.isSome
  changes : ∀ d, Step c d → Rests c d ∨ ∃ n r, Lands c n r d
  tries : ∀ n e, c.result? n = some (.error e) → ∀ b call, Reachable b → Steps b c →
    b.Awaits n call → ∃ x y, Steps b x ∧ x.Fails n call y ∧ Steps y c
  begins : ∀ inTurn op, Rests c (c.begin inTurn op).2
  polls : ∀ t, Rests c (c.poll t).2
  others : ∀ d, Step c d → c.moveSequence? ≠ some d → Rests c d
  fails : ∀ n call d, c.Fails n call d → Rests c d ∨ ∃ e, Lands c n (.error e) d
  abandoned : ∀ n call d, c.Fails n call d → ∀ e, Steps d e → Settled e call

theorem steady_of_reachable (reachable : Reachable c) : Steady c := by
  have h := reachable.flight
  constructor
  · exact reachable.dated.specification
  · exact fun d => h.served_steps
  · exact fun d step => step.rests_or_lands h
  · intro n e failed b call start steps awaited
    exact start.flight.tries_failed awaited steps failed
  · exact fun inTurn op => (begun_begin c inTurn op).rests h
  · exact fun t => (alike_poll c t).rests
  · exact fun d step => step.rests_of_ne h
  · exact fun n call d => h.rests_or_lands_of_fails
  · rintro n call d ⟨s, token, r, ⟨e, payload⟩, -, concludes, judged⟩ e steps
    exact (concludes.settled h (concludes.failsWith h judged)).steps steps

def loadTimes (c : Client) : Nat → Client
  | 0 => c
  | k + 1 => (c.loadStep?.getD c).loadTimes k

theorem steps_loadTimes (h : Registered c) (k : Nat) : Steps c (c.loadTimes k) := by
  induction k generalizing c with
  | zero => exact .refl
  | succ k ih =>
    have first := steps_getD_loadStep? h
    exact first.trans (ih (h.steps first))

theorem Reachable.loadTimes (h : Reachable c) (k : Nat) : Reachable (c.loadTimes k) :=
  h.steps (steps_loadTimes h.registered k)

def bare : Payload :=
  .json (.object [("schemaVersion", .nat 1), ("featureFlags", .array []), ("segments", .array []),
    ("properties", .array [])])

def dependent : Client :=
  let config : Config := { maxRetries := 0, skipValidation := true }
  let loader := Loader.ofSteps { deed := .serve bare } [{ deed := .fail "down" }]
  ((build config loader none ⟨0, 0⟩ true).loadTimes 3).waitFor 20000

theorem reachable_dependent : Reachable dependent :=
  have built : Reachable (build _ _ none ⟨0, 0⟩ true) := ⟨_, _, _, _, _, _, .refl⟩
  (built.loadTimes 3).steps (.single (.wait 20000))

theorem steady_dependent :
    let c := (dependent.begin true .load).2.loadTimes 3
    Steady c ∧ c.state.specification.isSome ∧ c.state.loadedAt = some 0 ∧
      c.state.loadFailedAt = some 20000 := by
  intro c
  have begun : Reachable (dependent.begin true .load).2 :=
    reachable_dependent.steps (.single (.begin true .load))
  have steady : Steady c := steady_of_reachable (begun.loadTimes 3)
  exact ⟨steady, by decide +kernel, by decide +kernel, by decide +kernel⟩

end FeatureFlags.Client
