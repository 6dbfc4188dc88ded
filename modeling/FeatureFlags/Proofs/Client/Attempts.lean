import FeatureFlags.Proofs.Client.Timely

/-!
The course of a load sequence. It makes one call of the loader after another until a try succeeds or
as many have failed as it may make. A try ends when its call returns or at the time limit, whichever
comes first, and the next one begins a delay later.
-/

namespace FeatureFlags.Client

/-- None of the calls that a sequence may make next returns at the very instant at which it is given
up. -/
def Untied (c : Client) : Prop :=
  0 ≤ c.config.loaderTimeout → ∀ call, c.calls.length < call →
    call ≤ c.calls.length + c.config.attempts →
      (c.loader call).delay ≠ c.config.loaderTimeout.toNat

def Call.InTime (config : Config) (k : Call) : Prop :=
  0 ≤ config.loaderTimeout → k.endsAt < k.startedAt + config.loaderTimeout.toNat

inductive Call.Yields (config : Config) (k : Call) : Nat → Except LoadError Served → Prop
  | valid : k.InTime config → k.ending = some (.ok v) → v.token = k.validator.token →
    v.outcome = .ok S → Yields config k k.endsAt (.ok ⟨S, k.number⟩)
  | invalid : k.InTime config → k.ending = some (.ok v) → v.token = k.validator.token →
    v.outcome = .error r → Yields config k k.endsAt (.error (.invalid r))
  | foreign : k.InTime config → k.ending = some (.ok v) → v.token ≠ k.validator.token →
    Yields config k k.endsAt (.error .contractViolation)
  | failed : k.InTime config → k.ending = some (.error e) → Yields config k k.endsAt (.error e)
  | timeout : 0 ≤ config.loaderTimeout →
    k.startedAt + config.loaderTimeout.toNat < k.endsAt →
    Yields config k (k.startedAt + config.loaderTimeout.toNat)
      (.error (.timeout config.loaderTimeout.toNat))

structure Attempt where
  call : Nat
  startedAt : Nat
  endedAt : Nat
  outcome : Except LoadError Served

def Attempt.MadeIn (a : Attempt) (c : Client) : Prop :=
  ∃ k ∈ c.calls, k.number = a.call ∧ k.startedAt = a.startedAt ∧
    k.endsAt = k.startedAt + (c.loader k.number).delay ∧ k.Yields c.config a.endedAt a.outcome

inductive Retries (config : Config) (start : Nat) : List Attempt → Nat → Prop
  | none : Retries config start [] start
  | next : Retries config start as t → a.startedAt = t → a.outcome = .error e →
    Retries config start (as ++ [a]) (a.endedAt + config.retryDelay)

structure Tried (b : Client) (as : List Attempt) (next : Nat) (c : Client) : Prop where
  retries : Retries b.config b.now as next
  numbers : as.map (·.call) = List.range' (b.calls.length + 1) as.length
  made : ∀ a ∈ as, a.MadeIn c

inductive Underway (b : Client) (n : Nat) (c : Client) : Prop
  | resting : s ∈ c.sequences → s.number = n → s.phase = .resting wake → Tried b as wake c →
    c.calls.length = b.calls.length + as.length →
    as.length + s.triesLeft = b.config.attempts → c.now ≤ wake →
    Underway b n c
  | trying : s ∈ c.sequences → s.number = n →
    s.phase = .awaiting k.number k.validator.token deadline → k ∈ c.calls →
    k.endsAt = k.startedAt + (c.loader k.number).delay → Tried b as k.startedAt c →
    c.calls.length = b.calls.length + as.length + 1 → k.number = c.calls.length →
    as.length + 1 + s.triesLeft = b.config.attempts →
    deadline = b.config.timeout?.map (k.startedAt + ·) → c.now ≤ k.endsAt →
    (0 ≤ b.config.loaderTimeout → c.now ≤ k.startedAt + b.config.loaderTimeout.toNat) →
    Underway b n c

structure Ends (b : Client) (as : List Attempt) (a : Attempt) (r : Except LoadFailure Served)
    (d : Client) : Prop where
  earlier : Tried b as a.startedAt d
  made : a.MadeIn d
  number : a.call = b.calls.length + as.length + 1
  calls : d.calls.length = b.calls.length + (as.length + 1)
  now : d.now = a.endedAt
  bounded : as.length + 1 ≤ min (b.config.maxRetries + 1) (UInt32.size - 1)
  result : (∃ served, a.outcome = .ok served ∧ r = .ok served) ∨
    ∃ e, a.outcome = .error e ∧ as.length + 1 = min (b.config.maxRetries + 1) (UInt32.size - 1) ∧
      r = .error ⟨as.length + 1, e⟩

inductive Begins (n : Nat) : Client → Prop
  | built (config : Config) (loader : Loader) (observer : Option Observer) (epoch : Instant)
      (inTurn : Bool) (host : Host) :
    (build config loader observer epoch inTurn host).state.inFlight = some n →
      Begins n (build config loader observer epoch inTurn host)
  | joined : Reachable c → c.state.inFlight = none → Step c b → b.state.inFlight = some n →
    Begins n b

/-- The course of a sequence that began at `b`, wherever nothing is late. -/
structure Paced (b : Client) (n : Nat) : Prop where
  /-- The tries begun are counted by the calls, and 32 bits are enough for the count. -/
  counts : ∀ c s, Timely b c → s ∈ c.sequences → s.number = n → s.Running →
    s.triesLeft ≤ b.config.attempts ∧ b.config.attempts < UInt32.size ∧
      c.calls.length = b.calls.length + (b.config.attempts - s.triesLeft)
  ends : ∀ c d r, Timely b c → Step c d → Lands c n r d → ∃ as a, Ends b as a r d
  own : ∀ c, Steps b c → c.issued < UInt64.size → ∀ k ∈ c.calls, ∀ v, k.ending = some (.ok v) →
    (v.token = k.validator.token ↔ ∃ p, v = k.validator.validate p)
  completes : ∀ c, Timely b c → c.state.inFlight = some n →
    ∃ r, LandsAt b n r (c.runOne .load).1.returnedAt ∧
      (c.runOne .load).1.reply = some (.loaded r)
  runs : ∀ ops, Timely b (b.run ops).2

variable {b c d : Client}

theorem Config.timeout?_eq (config : Config) : config.timeout? =
    if 0 ≤ config.loaderTimeout then some config.loaderTimeout.toNat else none := rfl

theorem Call.yields_of_ending {config : Config} {k : Call} {r : Except LoadError Verdict}
    (inTime : k.InTime config) (returned : k.ending = some r) :
    k.Yields config k.endsAt ((judge k.number k.validator.token r).mapError (·.1)) := by
  cases r with
  | error e => exact .failed inTime returned
  | ok v =>
    unfold judge
    dsimp only
    split
    · next own =>
      split
      · next valid => exact .valid inTime returned own valid
      · next invalid => exact .invalid inTime returned own invalid
    · next foreign => exact .foreign inTime returned foreign

theorem Call.Yields.of_unfinished {config : Config} {k : Call} {t : Nat}
    {o : Except LoadError Served} (h : k.Yields config t o) (running : k.ending = none)
    (r : Except LoadError Verdict) : { k with ending := some r }.Yields config t o := by
  cases h with
  | timeout limited late => exact .timeout limited late
  | _ => simp_all

theorem Attempt.MadeIn.step {a : Attempt} (h : a.MadeIn c) (step : Step c d) : a.MadeIn d := by
  obtain ⟨k, hk, number, started, ends, yields⟩ := h
  obtain ⟨config, loader⟩ := setup_of_steps (.single step)
  rcases step.call_mem hk with hk | ⟨running, r, hk⟩
  · exact ⟨k, hk, number, started, loader ▸ ends, config ▸ yields⟩
  · exact ⟨_, hk, number, started, loader ▸ ends, config ▸ yields.of_unfinished running r⟩

namespace Tried

variable {as : List Attempt} {t : Nat}

theorem step (h : Tried b as t c) (step : Step c d) : Tried b as t d :=
  ⟨h.retries, h.numbers, fun a ha => (h.made a ha).step step⟩

theorem next (h : Tried b as t c) {a : Attempt} {e : LoadError} (started : a.startedAt = t)
    (failed : a.outcome = .error e) (number : a.call = b.calls.length + as.length + 1)
    (made : a.MadeIn c) : Tried b (as ++ [a]) (a.endedAt + b.config.retryDelay) c := by
  refine ⟨.next h.retries started failed, ?_, ?_⟩
  · simp [h.numbers, List.range'_concat, number, Nat.add_right_comm]
  · simpa [or_imp, forall_and] using ⟨h.made, made⟩

end Tried

namespace Underway

variable {n : Nat}

theorem running (h : Underway b n c) : ∃ s ∈ c.sequences, s.number = n ∧ s.Running := by
  cases h with
  | resting hs number phase => exact ⟨_, hs, number, by simp [Sequence.Running, phase]⟩
  | trying hs number phase => exact ⟨_, hs, number, by simp [Sequence.Running, phase]⟩

theorem keeps (h : Underway b n c) (step : Step c d)
    (sequences : ∀ s ∈ c.sequences, s ∈ d.sequences) (length : d.calls.length = c.calls.length)
    (now : d.now = c.now) : Underway b n d := by
  have loader := (setup_of_steps (.single step)).2
  cases h with
  | resting hs number phase tried made left early =>
    exact .resting (sequences _ hs) number phase (tried.step step) (length ▸ made) left
      (now ▸ early)
  | @trying s limit k as hs number phase hk ends tried made last left limited early inTime =>
    rw [← length] at made last
    rw [← now] at early inTime
    rw [← loader] at ends
    rcases step.call_mem hk with hk | ⟨-, r, hk⟩
    · exact .trying (sequences _ hs) number phase hk ends (tried.step step) made last left limited
        early inTime
    · let l : Call := { k with ending := some r }
      have phase' : s.phase = .awaiting l.number l.validator.token limit := phase
      exact .trying (sequences _ hs) number phase' hk ends (tried.step step) made last left limited
        early inTime

section

variable (reachable : Reachable b) (steps : Steps b c)

include reachable steps

theorem call (h : Underway b n c) {before after : List Sequence} {s : Sequence} {wake : Nat}
    (parts : c.sequences = before ++ s :: after) (phase : s.phase = .resting wake)
    (due : wake ≤ c.now) (left : s.triesLeft ≠ 0) (step : Step c d)
    (sequences : d.sequences = before ++ (c.tryNext s).1 :: after)
    (calls : d.calls = c.calls ++ [c.newCall]) (now : d.now = c.now) : Underway b n d := by
  have hs : s ∈ c.sequences := by simp [parts]
  have running : s.Running := by simp [Sequence.Running, phase]
  have flight := (reachable.steps steps).flight
  obtain ⟨config, loader⟩ := setup_of_steps steps
  cases h with
  | trying hs' _ phase' =>
    obtain rfl := flight.eq_of_running hs hs' running (by simp [Sequence.Running, phase'])
    cases phase.symm.trans phase'
  | @resting _ wake' as hs' number phase' tried made tries early =>
    obtain rfl := flight.eq_of_running hs hs' running (by simp [Sequence.Running, phase'])
    cases phase.symm.trans phase'
    obtain rfl : c.now = wake := by omega
    refine .trying (k := c.newCall) (s := (c.tryNext s).1) (by simp [sequences]) number rfl
      (by simp [calls]) ?_ (tried.step step) ?_ ?_ ?_ ?_ ?_ ?_
    · rw [(setup_of_steps (.single step)).2]
      rfl
    · simp [calls, made]
    · simp [calls, newCall]
    · change as.length + 1 + (s.triesLeft - 1) = _
      omega
    · rw [config]
      rfl
    · exact now.trans_le (Nat.le_add_right ..)
    · exact fun _ => now.trans_le (Nat.le_add_right ..)

variable (untied : Untied b) (punctual : Punctual b c)

include untied punctual

theorem attempt (h : Underway b n c) {s : Sequence} (hs : s ∈ c.sequences) {call : Nat}
    {token : UInt64} {r : Except LoadError Verdict}
    (move : c.move? s = some (.conclude call token r)) :
    s.number = n ∧ ∃ as, ∃ a : Attempt, Tried b as a.startedAt c ∧ a.MadeIn c ∧
      a.call = b.calls.length + as.length + 1 ∧ c.calls.length = b.calls.length + (as.length + 1) ∧
      a.endedAt = c.now ∧ a.outcome = (judge call token r).mapError (·.1) ∧
      as.length + 1 + s.triesLeft = b.config.attempts := by
  have here := reachable.steps steps
  have same {t : Sequence} (ht : t ∈ c.sequences) := here.flight.eq_of_running hs ht
  obtain ⟨config, loader⟩ := setup_of_steps steps
  obtain ⟨deadline, phase, ended⟩ := move?_conclude move
  cases h with
  | resting hs' number phase' =>
    obtain rfl := same hs' (running_of_move? move) (by simp [Sequence.Running, phase'])
    cases phase.symm.trans phase'
  | @trying _ limit k as hs' number phase' hk ends tried made last left limited early inTime =>
    obtain rfl := same hs' (running_of_move? move) (by simp [Sequence.Running, phase'])
    cases phase.symm.trans phase'
    -- no call ends at its deadline, or it would depend on the order of the two which comes first
    have apart : 0 ≤ b.config.loaderTimeout →
        k.endsAt ≠ k.startedAt + b.config.loaderTimeout.toNat := by
      intro bounded tie
      refine untied bounded k.number (by omega) (by omega) ?_
      rw [← loader]
      omega
    have yields :
        k.Yields c.config c.now ((judge k.number k.validator.token r).mapError (·.1)) := by
      rw [config]
      rcases ended with returned | ⟨rfl, x, given, late⟩
      · have ending : k.ending = some r := by simpa [here.registered.call? hk] using returned
        -- calls end no earlier than they say, and nothing due was passed over
        have due : k.endsAt ≤ c.now := punctual k hk (by omega) (by simp [ending])
        have now : k.endsAt = c.now := by omega
        rw [← now]
        refine Call.yields_of_ending (fun bounded => ?_) ending
        have := apart bounded
        have := inTime bounded
        omega
      · rw [limited, Config.timeout?_eq] at given
        split at given
        · next bounded =>
          obtain rfl : k.startedAt + b.config.loaderTimeout.toNat = x := Option.some.inj given
          have := apart bounded
          have := inTime bounded
          have now : c.now = k.startedAt + b.config.loaderTimeout.toNat := by omega
          rw [now, config, Config.timeout?_eq, if_pos bounded]
          exact .timeout bounded (by omega)
        · cases given
    exact ⟨number, as, ⟨k.number, k.startedAt, c.now, _⟩, tried, ⟨k, hk, rfl, rfl, ends, yields⟩,
      last.trans made, made, rfl, rfl, left⟩

theorem rest (h : Underway b n c) {before after : List Sequence} {s : Sequence} {call : Nat}
    {token : UInt64} {r : Except LoadError Verdict} {e : LoadError} {payload : Option Payload}
    (parts : c.sequences = before ++ s :: after)
    (move : c.move? s = some (.conclude call token r))
    (judged : judge call token r = .error (e, payload)) (step : Step c d)
    (sequences : d.sequences =
      before ++ { s with phase := .resting (c.now + c.config.retryDelay) } :: after)
    (calls : d.calls = c.calls) (now : d.now = c.now) : Underway b n d := by
  obtain ⟨number, as, a, tried, made, next, length, ended, outcome, left⟩ :=
    h.attempt reachable steps untied punctual (by simp [parts]) move
  have failed : a.outcome = .error e := by rw [outcome, judged, Except.mapError]
  have again := (tried.next rfl failed next made).step step
  rw [ended, ← (setup_of_steps steps).1] at again
  refine .resting (s := { s with phase := .resting (c.now + c.config.retryDelay) })
    (by simp [sequences]) number rfl again ?_ ?_ ?_
  · simp [calls, length]
  · simpa using left
  · exact now.trans_le (Nat.le_add_right ..)

theorem ends (h : Underway b n c) {before after : List Sequence} {s : Sequence} {call : Nat}
    {token : UInt64} {r : Except LoadError Verdict} {r' : Except LoadFailure Served}
    (parts : c.sequences = before ++ s :: after)
    (move : c.move? s = some (.conclude call token r))
    (judged : (∃ served, judge call token r = .ok served ∧ r' = .ok served) ∨
      ∃ e payload, judge call token r = .error (e, payload) ∧ s.triesLeft = 0 ∧
        r' = .error ⟨c.config.attempts, e⟩)
    (step : Step c d) (sequences : d.sequences = before ++ { s with phase := .ended r' } :: after)
    (calls : d.calls = c.calls) (now : d.now = c.now) :
    d.result? n = some r' ∧ ∃ as a, Ends b as a r' d := by
  obtain ⟨number, as, a, tried, made, next, length, ended, outcome, left⟩ :=
    h.attempt reachable steps untied punctual (by simp [parts]) move
  have flight := ((reachable.steps steps).flight).step step
  refine ⟨flight.result?_eq_some_iff.2
    ⟨{ s with phase := .ended r' }, by simp [sequences], number, rfl⟩, as, a, ?_⟩
  refine ⟨tried.step step, made.step step, next, calls ▸ length, now.trans ended.symm,
    (Nat.le_add_right ..).trans_eq left, ?_⟩
  rcases judged with ⟨served, valid, rfl⟩ | ⟨e, payload, failed, none, rfl⟩
  · exact .inl ⟨served, by rw [outcome, valid, Except.mapError], rfl⟩
  · rw [none, Nat.add_zero] at left
    refine .inr ⟨e, by rw [outcome, failed, Except.mapError], left, ?_⟩
    rw [(setup_of_steps steps).1, ← left]

theorem step (h : Underway b n c) (step : Step c d) (still : d.now = c.now) :
    Underway b n d ∨ ∃ r, d.result? n = some r ∧ ∃ as a, Ends b as a r d := by
  obtain ⟨e, effect, same⟩ := step.effect
  have sequences := same.sequences
  have calls := same.calls
  cases effect with
  | idle => exact .inl (h.keeps step (fun _ hs => sequences ▸ hs) (by rw [calls]) still)
  | join free =>
    obtain ⟨s, hs, -, running⟩ := h.running
    have flying := ((reachable.steps steps).flight.fits s hs).inFlight running
    cases free.symm.trans flying
  | call parts phase due left =>
    exact .inl (h.call reachable steps parts phase due left step sequences calls still)
  | load parts move judged =>
    exact .inr ⟨_, h.ends reachable steps untied punctual parts move (.inl ⟨_, judged, rfl⟩) step
      sequences calls still⟩
  | rest parts move judged left =>
    exact .inl (h.rest reachable steps untied punctual parts move judged step sequences calls still)
  | giveUp parts move judged left =>
    exact .inr ⟨_, h.ends reachable steps untied punctual parts move
      (.inr ⟨_, _, judged, left, rfl⟩) step sequences calls still⟩
  | finish parts =>
    refine .inl (h.keeps step (fun _ hs => sequences ▸ hs) ?_ still)
    simp [calls, parts]
  | issue => exact .inl (h.keeps step (fun _ hs => sequences ▸ hs) (by rw [calls]) still)
  | wait => exact .inl (h.keeps step (fun _ hs => sequences ▸ hs) (by rw [calls]; rfl) still)

end

theorem pass (h : Underway b n c) (reachable : Reachable c) (steps : Steps b c)
    (quiet : c.loadStep? = none) {x : Nat} (first : ∀ y ∈ c.timers, x ≤ y) :
    Underway b n (c.waitFor x) := by
  have waits : Step c (c.waitFor x) := .wait x
  have still := (loadStep?_eq_none_iff.1 quiet).1
  obtain ⟨config, -⟩ := setup_of_steps steps
  have timers {s : Sequence} (hs : s ∈ c.sequences) (y : Nat) (hy : y ∈ s.timers) : x ≤ y :=
    first y (List.mem_append_left _ (List.mem_flatMap.2 ⟨s, hs, hy⟩))
  cases h with
  | @resting s wake as hs number phase tried made left early =>
    refine .resting hs number phase (tried.step waits) made left (Nat.max_le.2 ⟨early, ?_⟩)
    apply timers hs
    cases reachable.flight.fits s hs with
    | resting _ _ more => simp [Sequence.timers, Phase.timers, phase, more]
    | awaiting phase' => cases phase.symm.trans phase'
    | ended phase' => cases phase.symm.trans phase'
  | @trying s limit k as hs number phase hk ends tried made last left limited early inTime =>
    have unfinished : k.ending = none := by
      by_contra returned
      refine splitFirst_ne_none hs ?_ still
      obtain ⟨r, ending⟩ := Option.ne_none_iff_exists'.1 returned
      simp [move?, phase, reachable.registered.call? hk, ending]
    refine .trying hs number phase hk ends (tried.step waits) made last left limited
      (Nat.max_le.2 ⟨early, first _ (List.mem_append_right _ ?_)⟩)
      fun bounded => Nat.max_le.2 ⟨inTime bounded, timers hs _ ?_⟩
    · exact List.mem_flatMap.2 ⟨k, hk, by simp [Call.timers, unfinished]⟩
    · rw [Config.timeout?_eq, if_pos bounded, Option.map_some] at limited
      simp [Sequence.timers, Phase.timers, phase, limited]

theorem run (h : Underway b n b) (reachable : Reachable b) (untied : Untied b)
    (timely : Timely b c) : Underway b n c ∨ (c.result? n).isSome := by
  induction timely with
  | refl => exact .inl h
  | @step c d timely step still punctual ih =>
    rcases ih with under | ended
    · have before := punctual.of_step step still
      refine (under.step reachable timely.steps untied before step still).imp_right ?_
      rintro ⟨r, ended, -⟩
      exact Option.isSome_of_eq_some ended
    · obtain ⟨r, ended⟩ := Option.isSome_iff_exists.1 ended
      have flight := (reachable.steps timely.steps).flight
      rw [flight.result?_steps ended (.single step)]
      exact .inr rfl
  | @pass c x timely quiet first ih =>
    rcases ih with under | ended
    · exact .inl (under.pass (reachable.steps timely.steps) timely.steps quiet first)
    · exact .inr ended

end Underway

theorem Effect.joins_of_free (h : Effect c d) (free : c.state.inFlight = none) {n : Nat}
    (flying : d.state.inFlight = some n) : d = c.joinLoad.2 := by
  cases h with
  | join => rfl
  | load => cases flying
  | giveUp => cases flying
  | _ => cases free.symm.trans flying

theorem resting_joinLoad (free : c.state.inFlight = none) (same : Alike c.joinLoad.2 d) {n : Nat}
    (flying : d.state.inFlight = some n) :
    ∃ s ∈ d.sequences, s.number = n ∧ s.triesLeft = d.config.attempts ∧
      s.phase = .resting d.now := by
  rw [same.state, inFlight_joinLoad] at flying
  obtain rfl := Option.some.inj flying
  rw [same.sequences, same.config, same.now, joinLoad_of_free free]
  exact ⟨_, List.mem_append_right _ (.head _), rfl, rfl, rfl⟩

namespace Begins

variable {n : Nat}

theorem reachable (h : Begins n b) : Reachable b := by
  cases h with
  | built => exact ⟨_, _, _, _, _, _, .refl⟩
  | joined reachable _ step => exact reachable.steps (.single step)

theorem resting (h : Begins n b) : ∃ s ∈ b.sequences, s.number = n ∧
    s.triesLeft = b.config.attempts ∧ s.phase = .resting b.now := by
  cases h with
  | built _ _ _ _ _ _ flying =>
    unfold build at flying ⊢
    dsimp only at flying ⊢
    split at flying
    · next initial =>
      rw [if_pos initial]
      exact resting_joinLoad rfl (.refl _) flying
    · cases flying
  | joined _ free step flying =>
    obtain ⟨e, effect, same⟩ := step.effect
    obtain rfl := effect.joins_of_free free (same.state ▸ flying)
    exact resting_joinLoad free same flying

theorem underway (h : Begins n b) : Underway b n b := by
  obtain ⟨s, hs, number, left, phase⟩ := h.resting
  refine .resting hs number phase ⟨.none, rfl, by simp⟩ rfl ?_ (Nat.le_refl _)
  simp [left]

end Begins

theorem Effect.old_or_new (h : Effect c d) {s : Sequence} (hs : s ∈ d.sequences) :
    (∃ t ∈ c.sequences, t.number = s.number) ∨
      c.state.inFlight = none ∧ d.state.inFlight = some s.number := by
  have moved {before after : List Sequence} {t t' : Sequence}
      (parts : c.sequences = before ++ t :: after) (hs : s ∈ before ++ t' :: after)
      (same : t'.number = t.number) : ∃ t ∈ c.sequences, t.number = s.number := by
    rw [parts]
    rcases List.mem_append.1 hs with hs | hs
    · exact ⟨s, List.mem_append_left _ hs, rfl⟩
    rcases List.mem_cons.1 hs with rfl | hs
    · exact ⟨t, List.mem_append_right _ (.head _), same.symm⟩
    · exact ⟨s, List.mem_append_right _ (.tail _ hs), rfl⟩
  cases h with
  | join free =>
    rw [joinLoad_of_free free] at hs ⊢
    rcases List.mem_append.1 hs with hs | hs
    · exact .inl ⟨s, hs, rfl⟩
    · obtain rfl := List.mem_singleton.1 hs
      exact .inr ⟨free, rfl⟩
  | call parts => exact .inl (moved parts hs rfl)
  | load parts => exact .inl (moved parts hs rfl)
  | rest parts => exact .inl (moved parts hs rfl)
  | giveUp parts => exact .inl (moved parts hs rfl)
  | _ => exact .inl ⟨s, hs, rfl⟩

theorem Reachable.begins (h : Reachable c) :
    ∀ s ∈ c.sequences, ∃ b, Begins s.number b ∧ Steps b c := by
  refine h.invariant (P := fun c => ∀ s ∈ c.sequences, ∃ b, Begins s.number b ∧ Steps b c) ?_ ?_
  · intro config loader observer epoch inTurn host s hs
    refine ⟨_, .built config loader observer epoch inTurn host ?_, .refl⟩
    unfold build at hs ⊢
    dsimp only at hs ⊢
    split at hs
    · next initial =>
      rw [if_pos initial]
      obtain rfl := List.mem_singleton.1 hs
      rfl
    · cases hs
  · intro c d reachable begun step s hs
    obtain ⟨e, effect, same⟩ := step.effect
    rcases effect.old_or_new (same.sequences ▸ hs) with ⟨t, ht, number⟩ | ⟨free, flying⟩
    · obtain ⟨b, begins, steps⟩ := begun t ht
      exact ⟨b, number ▸ begins, steps.tail step⟩
    · exact ⟨d, .joined reachable free step (same.state ▸ flying), .refl⟩

theorem paced_of_begins {n : Nat} (begins : Begins n b) (untied : Untied b) : Paced b n := by
  have reachable := begins.reachable
  have registered := reachable.registered
  have flight {c : Client} (timely : Timely b c) : Flight c := (reachable.steps timely.steps).flight
  have under {c : Client} (timely : Timely b c) (flying : c.state.inFlight = some n) :
      Underway b n c := by
    refine (begins.underway.run reachable untied timely).resolve_right fun ended => ?_
    obtain ⟨r, ended⟩ := Option.isSome_iff_exists.1 ended
    exact Nat.lt_irrefl n ((flight timely).lt_of_result? ended flying)
  constructor
  · rintro c s timely hs number running
    have flying := ((flight timely).fits s hs).inFlight running
    have bounded : b.config.attempts < UInt32.size := by
      unfold Config.attempts
      exact Nat.lt_of_le_of_lt (Nat.min_le_right ..) (by decide)
    cases under timely (number ▸ flying) with
    | resting hs' _ phase _ made left =>
      obtain rfl := (flight timely).eq_of_running hs hs' running (by simp [Sequence.Running, phase])
      omega
    | trying hs' _ phase _ _ _ made _ left =>
      obtain rfl := (flight timely).eq_of_running hs hs' running (by simp [Sequence.Running, phase])
      omega
  · intro c d r timely step lands
    rcases (under timely lands.flying).step reachable timely.steps untied
      (timely.punctual registered) step lands.now with still | ⟨r', ended, course⟩
    · obtain ⟨s, hs, rfl, running⟩ := still.running
      have unfinished := ((flight timely).step step).result?_of_running hs running
      cases unfinished.symm.trans lands.result
    · obtain rfl := Option.some.inj (lands.result.symm.trans ended)
      exact course
  · intro c steps few k hk v ended
    have here := registered.steps steps
    constructor
    · intro same
      cases here.endings k hk _ ended with
      | @verdict w p known => exact ⟨p, by rw [here.eq_of_token few hk known same]⟩
    · rintro ⟨p, rfl⟩
      rfl
  · exact fun c timely flying => timely.runOne_load reachable flying
  · exact fun ops => Timely.run registered .refl ops

def retrying : Client :=
  let config : Config :=
    { loaderTimeout := 100, maxRetries := 2, retryDelay := 10, skipValidation := true }
  let loader := Loader.ofSteps { deed := .fail "down" }
    [{ delay := 500, deed := .serve bare }, { delay := 20, deed := .serve bare }]
  build config loader none ⟨0, 0⟩ true

theorem paced_retrying : Begins 1 retrying ∧ Untied retrying ∧ Paced retrying 1 := by
  have begins : Begins 1 retrying := by
    unfold retrying
    exact .built _ _ _ _ _ _ rfl
  have untied : Untied retrying := by
    intro _ call first last
    have : call ≤ 3 := last
    change 0 < call at first
    obtain rfl | rfl | rfl : call = 1 ∨ call = 2 ∨ call = 3 := by omega
    · decide +kernel
    · decide +kernel
    · decide +kernel
  exact ⟨begins, untied, paced_of_begins begins untied⟩

end FeatureFlags.Client
