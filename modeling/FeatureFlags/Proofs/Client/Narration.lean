import FeatureFlags.Proofs.Client.Attempts
import FeatureFlags.Proofs.Client.Dispatch

namespace FeatureFlags.Client

inductive Told (b : Client) : List Event → Client → Prop
  | none : Told b [] b
  | step : Told b es c → Step c d → c.Sends fs d → Told b (es ++ fs) d

inductive Call.Blames (config : Config) (now : Nat) (k : Call) (i : Nat) : LoadError → Event → Prop
  | failed : k.ending = some (.error (.loader m)) →
    Blames config now k i (.loader m) (.loaderFailure i (.loader m))
  | panicked : k.ending = some (.error .panicked) →
    Blames config now k i .panicked (.loaderFailure i .panicked)
  | timeout : k.ending = none → config.timeout? = some limit → k.startedAt + limit ≤ now →
    Blames config now k i (.timeout limit) (.loaderFailure i (.timeout limit))
  | foreign : k.ending = some (.ok v) → v.token ≠ k.validator.token →
    Blames config now k i .contractViolation (.validatorFailure i .contractViolation)
  | invalid : k.ending = some (.ok v) → v.token = k.validator.token → v.outcome = .error r →
    Blames config now k i (.invalid r) (.validationFailure i v.payload r)

inductive Reports (c : Client) (n i call : Nat) (error : LoadError) (e : Event) (d : Client) : Prop
  | of : c.Concludes s k.number k.validator.token r d → s.number = n → k ∈ c.calls →
    k.number = call → k.Blames c.config c.now i error e → c.Sends [e] d →
    Reports c n i call error e d

def Recounts (b : Client) (n : Nat) (es : List Event) (c : Client) : Prop :=
  ∀ i e, es[i]? = some e → ∃ x y error, Steps b x ∧
    x.Reports n (i + 1) (b.calls.length + (i + 1)) error e y ∧ Steps y c

def Announces (c : Client) (served : Served) (d : Client) : Prop :=
  ∃ x : Client, x.state.specification = some served ∧ x.state.inFlight = none ∧ x.sent = c.sent ∧
    d = { x.dispatch true [.loaded served] with sequences := d.sequences }

inductive Narrating (b : Client) (n : Nat) (es : List Event) (c : Client) : Prop
  | resting : s ∈ c.sequences → s.number = n → s.phase = .resting wake → Recounts b n es c →
    c.calls.length = b.calls.length + es.length → es.length + s.triesLeft = b.config.attempts →
    Narrating b n es c
  | trying : s ∈ c.sequences → s.number = n →
    s.phase = .awaiting k.number k.validator.token (b.config.timeout?.map (k.startedAt + ·)) →
    k ∈ c.calls → k.number = c.calls.length → Recounts b n es c →
    c.calls.length = b.calls.length + (es.length + 1) →
    es.length + 1 + s.triesLeft = b.config.attempts → Narrating b n es c

inductive Advances (b : Client) (n : Nat) (es : List Event) (c d : Client) : Prop
  | call : c.Sends [] d → Narrating b n es d → Advances b n es c d
  | retry : c.Reports n (es.length + 1) (b.calls.length + (es.length + 1)) error e d →
    Narrating b n (es ++ [e]) d → Advances b n es c d
  | load : c.Sends [.loaded served] d → c.Announces served d → d.result? n = some (.ok served) →
    Advances b n es c d
  | giveUp : c.Reports n (es.length + 1) (b.calls.length + (es.length + 1)) error e d →
    es.length + 1 = b.config.attempts → d.result? n = some (.error ⟨b.config.attempts, error⟩) →
    Advances b n es c d

structure Narrated (b : Client) (n : Nat) : Prop where
  told : ∀ c, Steps b c → (∃ es, Told b es c) ∧
    ∀ d fs, Step c d → c.Sends fs d → fs.length ≤ 1
  /-- Up to the end of the sequence every try has been told of but the one that is under way. -/
  running : ∀ es c, Told b es c → c.state.inFlight = some n → Recounts b n es c ∧
    (c.calls.length = b.calls.length + es.length ∧ (∀ call, ¬ c.Awaits n call) ∨
      c.calls.length = b.calls.length + (es.length + 1) ∧ c.Awaits n c.calls.length)
  fails : ∀ es c call d, Told b es c → c.Fails n call d →
    ∃ error e, c.Reports n (es.length + 1) call error e d
  /-- At the end either what was loaded is told last, or nothing after the last try that failed. -/
  ends : ∀ es c fs d r, Told b es c → Step c d → c.Sends fs d → Lands c n r d →
    (∃ served, r = .ok served ∧ Recounts b n es c ∧ fs = [.loaded served] ∧
      c.Announces served d) ∨
    ∃ f, r = .error f ∧ Recounts b n (es ++ fs) d ∧ (es ++ fs).length = f.attempts ∧
      f.attempts = b.config.attempts
  others : ∀ c d fs, Steps b c → Step c d → c.Sends fs d → fs ≠ [] →
    ∃ s call token r, c.state.inFlight = some s.number ∧ c.Concludes s call token r d
  ended : ∀ c r, Steps b c → c.result? n = some r → c.state.inFlight ≠ some n
  own : ∀ c, Steps b c → c.issued < UInt64.size → ∀ k ∈ c.calls, ∀ v, k.ending = some (.ok v) →
    (v.token = k.validator.token ↔ ∃ p, v = k.validator.validate p)

variable {b c d : Client}

theorem Told.steps (h : Told b es c) : Steps b c := by
  induction h with
  | none => exact .refl
  | step _ step _ ih => exact ih.tail step

theorem exists_told (observed : b.observer.isSome) (steps : Steps b c) : ∃ es, Told b es c := by
  induction steps with
  | refl => exact ⟨[], .none⟩
  | @tail c d before step ih =>
    obtain ⟨es, told⟩ := ih
    obtain ⟨fs, -, sends⟩ := step.sends (observer_of_steps before ▸ observed)
    exact ⟨es ++ fs, told.step step sends⟩

theorem Step.calls_of_ne (step : Step c d) (still : c.moveSequence? ≠ some d) :
    d.calls.length = c.calls.length := by
  cases step with
  | begin inTurn op => rw [(begun_begin c inTurn op).calls]
  | poll t => rw [(alike_poll c t).calls]
  | move moved => exact absurd moved still
  | finish parts => simp [parts]
  | issue => rfl
  | deliver => rw [(alike_deliver c).calls]
  | rouse => rfl
  | wait => rfl

theorem Call.blames_of_judge (registered : Registered c) {s : Sequence} {k : Call}
    (hk : k ∈ c.calls) {r : Except LoadError Verdict} {e : LoadError} {payload : Option Payload}
    (phase : s.phase =
      .awaiting k.number k.validator.token (c.config.timeout?.map (k.startedAt + ·)))
    (move : c.move? s = some (.conclude k.number k.validator.token r))
    (judged : judge k.number k.validator.token r = .error (e, payload)) (i : Nat) :
    k.Blames c.config c.now i e (.ofFailure i payload e) := by
  have call := registered.call? hk
  cases ending : k.ending with
  | none =>
    obtain ⟨deadline, phase', returned | ⟨rfl, d, late, due⟩⟩ := move?_conclude move
    · simp [call, ending] at returned
    · cases phase.symm.trans phase'
      obtain ⟨limit, limited, rfl⟩ := Option.map_eq_some_iff.1 late
      cases judged
      rw [limited]
      exact .timeout ending limited due
  | some r' =>
    obtain rfl : r' = r := by simpa [move?, phase, call, ending] using move
    cases r' with
    | error e' =>
      cases judged
      cases registered.endings k hk _ ending with
      | fail => exact .failed ending
      | panic => exact .panicked ending
    | ok v =>
      unfold judge at judged
      dsimp only at judged
      split at judged
      · next own =>
        split at judged
        · cases judged
        · next invalid =>
          cases judged
          exact .invalid ending own invalid
      · next foreign =>
        cases judged
        exact .foreign ending foreign

namespace Recounts

variable {n : Nat} {es : List Event}

theorem step (h : Recounts b n es c) (step : Step c d) : Recounts b n es d := by
  intro i e told
  obtain ⟨x, y, error, start, reports, rest⟩ := h i e told
  exact ⟨x, y, error, start, reports, rest.tail step⟩

theorem concat (h : Recounts b n es c) (steps : Steps b c) {error : LoadError} {e : Event}
    (reports : c.Reports n (es.length + 1) (b.calls.length + (es.length + 1)) error e d) :
    Recounts b n (es ++ [e]) d := by
  have moved : Step c d := by
    obtain ⟨concludes⟩ := reports
    exact .move concludes.moved
  intro i e' told
  by_cases earlier : i < es.length
  · rw [List.getElem?_append_left earlier] at told
    exact h.step moved i e' told
  · obtain ⟨here, -⟩ := List.getElem?_eq_some_iff.1 told
    obtain rfl : i = es.length := by simp at here; omega
    obtain rfl : e = e' := by simpa using told
    exact ⟨c, d, error, steps, reports, .refl⟩

end Recounts

namespace Narrating

variable {n : Nat} {es : List Event}

theorem recounts (h : Narrating b n es c) : Recounts b n es c := by
  cases h with
  | resting _ _ _ told => exact told
  | trying _ _ _ _ _ told => exact told

theorem running (h : Narrating b n es c) : ∃ s ∈ c.sequences, s.number = n ∧ s.Running := by
  cases h with
  | resting hs number phase => exact ⟨_, hs, number, by simp [Sequence.Running, phase]⟩
  | trying hs number phase => exact ⟨_, hs, number, by simp [Sequence.Running, phase]⟩

theorem of_ne (h : Narrating b n es c) (step : Step c d) (still : c.moveSequence? ≠ some d) :
    Narrating b n es d := by
  have kept : Keeps c d := step.move_or_keeps.resolve_left still
  have calls := step.calls_of_ne still
  cases h with
  | resting hs number phase told made left =>
    exact .resting (kept.sequences _ hs) number phase (told.step step) (calls.trans made) left
  | @trying s k hs number phase hk last told made left =>
    rcases step.call_mem hk with hk | ⟨-, r, hk⟩
    · exact .trying (kept.sequences _ hs) number phase hk (last.trans calls.symm) (told.step step)
        (calls.trans made) left
    · let l : Call := { k with ending := some r }
      have phase' : s.phase =
          .awaiting l.number l.validator.token (b.config.timeout?.map (l.startedAt + ·)) := phase
      exact .trying (kept.sequences _ hs) number phase' hk (last.trans calls.symm) (told.step step)
        (calls.trans made) left

section

variable (reachable : Reachable b) (steps : Steps b c)

include reachable steps

theorem trial (h : Narrating b n es c) {s : Sequence} (hs : s ∈ c.sequences) {call : Nat}
    {token : UInt64} {r : Except LoadError Verdict}
    (move : c.move? s = some (.conclude call token r)) :
    s.number = n ∧ es.length + 1 + s.triesLeft = c.config.attempts ∧
      c.calls.length = b.calls.length + (es.length + 1) ∧
      ∃ k ∈ c.calls, k.number = call ∧ k.validator.token = token ∧ call = c.calls.length ∧
        s.phase = .awaiting k.number k.validator.token
          (c.config.timeout?.map (k.startedAt + ·)) := by
  obtain ⟨deadline, phase, -⟩ := move?_conclude move
  have running := running_of_move? move
  have flight := (reachable.steps steps).flight
  obtain ⟨config, -⟩ := setup_of_steps steps
  cases h with
  | resting hs' _ phase' =>
    obtain rfl := flight.eq_of_running hs hs' running (by simp [Sequence.Running, phase'])
    cases phase.symm.trans phase'
  | @trying _ k hs' number phase' hk last _ made left =>
    obtain rfl := flight.eq_of_running hs hs' running (by simp [Sequence.Running, phase'])
    rw [config]
    cases phase.symm.trans phase'
    exact ⟨number, left, made, k, hk, rfl, rfl, last, phase'⟩

theorem reports (observed : b.observer.isSome) (h : Narrating b n es c) {s : Sequence} {call : Nat}
    {token : UInt64} {r : Except LoadError Verdict} {e : LoadError} {payload : Option Payload}
    (concludes : c.Concludes s call token r d)
    (judged : judge call token r = .error (e, payload)) :
    c.Reports n (es.length + 1) (b.calls.length + (es.length + 1)) e
      (.ofFailure (es.length + 1) payload e) d := by
  have here := reachable.steps steps
  obtain ⟨number, left, made, k, hk, rfl, rfl, last, phase⟩ :=
    h.trial reachable steps concludes.mem concludes.move
  obtain ⟨before, after, -, equal⟩ := concludes.failsWith here.flight judged
  obtain ⟨o, observer⟩ := Option.isSome_iff_exists.1 (observer_of_steps steps ▸ observed)
  refine .of concludes number hk (last.trans made)
    (Call.blames_of_judge here.registered hk phase concludes.move judged _) ?_
  have sends := sends_afterFailure observer s e payload
  rw [← left, Nat.add_sub_cancel] at sends
  rw [equal]
  exact sends

theorem advances_tryNext (h : Narrating b n es c) {before after : List Sequence} {s : Sequence}
    (moved : c.moveSequence? = some d) (parts : c.sequences = before ++ s :: after)
    (move : c.move? s = some .tryNext)
    (equal : d = { (c.tryNext s).2 with sequences := before ++ (c.tryNext s).1 :: after }) :
    Advances b n es c d := by
  obtain ⟨wake, phase, -, more⟩ := move?_tryNext move
  have hs : s ∈ c.sequences := by simp [parts]
  have running := running_of_move? move
  have flight := (reachable.steps steps).flight
  obtain ⟨config, -⟩ := setup_of_steps steps
  cases h with
  | trying hs' _ phase' =>
    obtain rfl := flight.eq_of_running hs hs' running (by simp [Sequence.Running, phase'])
    cases phase.symm.trans phase'
  | resting hs' number phase' told made left =>
    obtain rfl := flight.eq_of_running hs hs' running (by simp [Sequence.Running, phase'])
    subst equal
    have calls : c.callLoader.calls.length = c.calls.length + 1 := by simp [callLoader]
    refine .call (.of_sent rfl) ?_
    refine .trying (s := (c.tryNext s).1) (k := c.newCall) (by simp) number ?_
      (List.mem_append_right _ (.head _)) calls.symm (told.step (.move moved)) ?_ ?_
    · rw [← config]
      rfl
    · exact calls.trans (by rw [made, Nat.add_assoc])
    · simp only [tryNext]
      omega

theorem advances_conclude (observed : b.observer.isSome) (h : Narrating b n es c)
    {before after : List Sequence} {s : Sequence} {call : Nat} {token : UInt64}
    {r : Except LoadError Verdict} (moved : c.moveSequence? = some d)
    (parts : c.sequences = before ++ s :: after)
    (move : c.move? s = some (.conclude call token r))
    (equal : d = { (c.makeMove s (.conclude call token r)).2 with
      sequences := before ++ (c.makeMove s (.conclude call token r)).1 :: after }) :
    Advances b n es c d := by
  have hs : s ∈ c.sequences := by simp [parts]
  have step : Step c d := .move moved
  have flight := ((reachable.steps steps).flight).step step
  obtain ⟨number, left, made, -⟩ := h.trial reachable steps hs move
  obtain ⟨config, -⟩ := setup_of_steps steps
  simp only [makeMove] at equal
  cases judged : judge call token r with
  | ok served =>
    simp only [judged] at equal
    obtain ⟨o, observer⟩ := Option.isSome_iff_exists.1 (observer_of_steps steps ▸ observed)
    have ended : d.result? n = some (.ok served) := by
      refine flight.result?_eq_some_iff.2 ⟨{ s with phase := .ended (.ok served) }, ?_, number, rfl⟩
      simp [equal]
    refine .load ?_ ⟨{ c with state := { c.state with
      specification := some served, loadedAt := some c.now, inFlight := none } }, rfl, rfl, rfl, ?_⟩
      ended
    · rw [equal]
      exact sends_install observer served
    · rw [equal]
      rfl
  | error failure =>
    obtain ⟨e, payload⟩ := failure
    have reports := h.reports reachable steps observed ⟨moved, hs, move⟩ judged
    have told := h.recounts.concat steps reports
    simp only [judged, afterFailure] at equal
    split at equal
    · next last =>
      refine .giveUp reports (by rw [← config, ← left, last]) ?_
      refine flight.result?_eq_some_iff.2
        ⟨{ s with phase := .ended (.error ⟨c.config.attempts, e⟩) }, ?_, number, by rw [config]⟩
      simp [equal]
    · next more =>
      have calls : d.calls = c.calls := by
        rw [equal]
        exact (alike_dispatch ..).calls
      refine .retry reports (.resting
        (s := { s with phase := .resting (c.now + c.config.retryDelay) }) ?_ number rfl told ?_ ?_)
      · simp [equal]
      · rw [calls, made, List.length_append, List.length_singleton]
      · rw [List.length_append, List.length_singleton, left, config]

theorem advances (observed : b.observer.isSome) (h : Narrating b n es c)
    (moved : c.moveSequence? = some d) : Advances b n es c d := by
  obtain ⟨s, hs, -, running⟩ := h.running
  obtain ⟨before, after, m, parts, move, equal⟩ :=
    (reachable.steps steps).flight.of_moveSequence? moved hs running
  cases m with
  | tryNext => exact h.advances_tryNext reachable steps moved parts move equal
  | conclude call token r =>
    exact h.advances_conclude reachable steps observed moved parts move equal

end

end Narrating

section

variable {n : Nat} (begins : Begins n b) (observed : b.observer.isSome)

theorem Begins.narrating (begins : Begins n b) : Narrating b n [] b := by
  obtain ⟨s, hs, number, left, phase⟩ := begins.resting
  exact .resting hs number phase (fun _ _ none => by simp at none) rfl (by simp [left])

include begins observed

theorem Told.narrating_or_ended {es : List Event} (told : Told b es c) :
    Narrating b n es c ∨ (c.result? n).isSome := by
  have reachable := begins.reachable
  have lasting {x y : Client} (steps : Steps b x) (step : Step x y)
      (ended : (x.result? n).isSome) : (y.result? n).isSome := by
    obtain ⟨r, ended⟩ := Option.isSome_iff_exists.1 ended
    have flight := (reachable.steps steps).flight
    exact Option.isSome_of_eq_some (flight.result?_steps ended (.single step))
  induction told with
  | none => exact .inl begins.narrating
  | @step es x y fs told step sends ih =>
    have steps := told.steps
    have watched : x.observer.isSome := observer_of_steps steps ▸ observed
    rcases ih with under | ended
    · by_cases moved : x.moveSequence? = some y
      · cases under.advances reachable steps observed moved with
        | call none under =>
          rw [sends.eq_nil none, List.append_nil]
          exact .inl under
        | retry reports under =>
          obtain ⟨-, -, -, -, -, single⟩ := reports
          rw [sends.eq_of_single single]
          exact .inl under
        | load _ _ ended => exact .inr (Option.isSome_of_eq_some ended)
        | giveUp _ _ ended => exact .inr (Option.isSome_of_eq_some ended)
      · rw [step.eq_nil_of_ne watched moved sends, List.append_nil]
        exact .inl (under.of_ne step moved)
    · exact .inr (lasting steps step ended)

theorem Told.narrating {es : List Event} (told : Told b es c)
    (flying : c.state.inFlight = some n) : Narrating b n es c := by
  refine (told.narrating_or_ended begins observed).resolve_right fun ended => ?_
  obtain ⟨r, ended⟩ := Option.isSome_iff_exists.1 ended
  have flight := (begins.reachable.steps told.steps).flight
  exact Nat.lt_irrefl n (flight.lt_of_result? ended flying)

theorem narrated_of_begins : Narrated b n := by
  have reachable := begins.reachable
  have watched {x : Client} (steps : Steps b x) : x.observer.isSome :=
    observer_of_steps steps ▸ observed
  constructor
  · intro c steps
    refine ⟨exists_told observed steps, fun d fs step sends => ?_⟩
    obtain ⟨gs, single, sends'⟩ := step.sends (watched steps)
    exact (sends.unique sends').length_eq.trans_le single
  · intro es c told flying
    have flight := (reachable.steps told.steps).flight
    have under := told.narrating begins observed flying
    refine ⟨under.recounts, ?_⟩
    cases under with
    | @resting s wake hs _ phase _ made =>
      refine .inl ⟨made, ?_⟩
      rintro call ⟨t, ht, -, token, deadline, phase'⟩
      obtain rfl := flight.eq_of_running hs ht (by simp [Sequence.Running, phase])
        (by simp [Sequence.Running, phase'])
      cases phase.symm.trans phase'
    | trying hs number phase _ last _ made =>
      exact .inr ⟨made, _, hs, number, _, _, last ▸ phase⟩
  · rintro es c call d told ⟨s, token, r, ⟨e, payload⟩, rfl, concludes, judged⟩
    have flight := (reachable.steps told.steps).flight
    obtain ⟨flying, -⟩ := flight.of_conclude concludes.mem concludes.move
    have under := told.narrating begins observed flying
    have reports := under.reports reachable told.steps observed concludes judged
    obtain ⟨-, -, made, k, -, -, -, last, -⟩ :=
      under.trial reachable told.steps concludes.mem concludes.move
    rw [← made, ← last] at reports
    exact ⟨_, _, reports⟩
  · intro es c fs d r told step sends lands
    have under := told.narrating begins observed lands.flying
    have flight := ((reachable.steps told.steps).flight).step step
    -- a sequence that has landed is no longer one that tells of its tries
    have stopped (es : List Event) : ¬ Narrating b n es d := fun still => by
      obtain ⟨s, hs, rfl, running⟩ := still.running
      cases (flight.result?_of_running hs running).symm.trans lands.result
    by_cases moved : c.moveSequence? = some d
    · cases under.advances reachable told.steps observed moved with
      | call _ still => exact absurd still (stopped _)
      | retry _ still => exact absurd still (stopped _)
      | @load served single announces ended =>
        obtain rfl := Option.some.inj (lands.result.symm.trans ended)
        exact .inl ⟨served, rfl, under.recounts, sends.eq_of_single single, announces⟩
      | @giveUp error e reports last ended =>
        obtain rfl := Option.some.inj (lands.result.symm.trans ended)
        have told' := under.recounts.concat told.steps reports
        obtain ⟨-, -, -, -, -, single⟩ := reports
        rw [sends.eq_of_single single]
        exact .inr ⟨_, rfl, told', by simpa using last, rfl⟩
    · exact absurd (under.of_ne step moved) (stopped _)
  · intro c d fs steps step sends some
    have flight := (reachable.steps steps).flight
    -- only a sequence that moves sends anything
    have moved : c.moveSequence? = .some d := by
      by_contra still
      exact some (step.eq_nil_of_ne (watched steps) still sends)
    obtain ⟨before, s, after, m, parts, move, equal⟩ := of_moveSequence? moved
    have hs : s ∈ c.sequences := by simp [parts]
    cases m with
    | tryNext =>
      have none : c.Sends [] d := .of_sent (by rw [equal]; rfl)
      exact absurd (sends.eq_nil none) some
    | conclude call token r =>
      exact ⟨s, call, token, r, (flight.of_conclude hs move).1, moved, hs, move⟩
  · intro c r steps ended flying
    exact Nat.lt_irrefl n ((reachable.steps steps).flight.lt_of_result? ended flying)
  · intro c steps few k hk v ended
    exact (reachable.steps steps).registered.token_eq_iff few hk ended

end

/-- Every load sequence of a client that is observed has begun at some time, and from there on what is
told of loads is what becomes of its tries. -/
theorem narrated_of_reachable (reachable : Reachable c) (observed : c.observer.isSome) :
    ∀ s ∈ c.sequences, ∃ b, Begins s.number b ∧ Steps b c ∧ Narrated b s.number := by
  intro s hs
  obtain ⟨b, begins, steps⟩ := reachable.begins s hs
  exact ⟨b, begins, steps, narrated_of_begins begins (observer_of_steps steps ▸ observed)⟩

/-- A client whose loader is down at first, then passes on a foreign verdict, then serves what is no
specification, and then one. Its observer panics on every event. -/
def watched : Client :=
  let config : Config :=
    { maxRetries := 3, retryDelay := 0, skipValidation := true, delivery := .blocking }
  let loader := Loader.ofSteps { deed := .fail "down" }
    [{ deed := .borrow true bare }, { deed := .serve (.json .null) }, { deed := .serve bare }]
  build config loader (some ⟨fun _ => true⟩) ⟨0, 0⟩ true

theorem narrated_watched :
    let c := watched.loadTimes 12
    Reachable c ∧ c.observer.isSome ∧
      (∃ rejection served, c.heard = [.loaderFailure 1 (.loader "down"),
        .validatorFailure 2 .contractViolation, .validationFailure 3 (.json .null) rejection,
        .loaded served]) ∧ ∃ b, Begins 1 b ∧ Steps b c ∧ Narrated b 1 := by
  intro c
  have built : Reachable watched := by
    unfold watched
    exact ⟨_, _, _, _, _, _, .refl⟩
  have reachable : Reachable c := built.loadTimes 12
  have observed : c.observer.isSome := rfl
  refine ⟨reachable, observed, ⟨_, _, rfl⟩, ?_⟩
  exact narrated_of_reachable reachable observed _ (.head _)

end FeatureFlags.Client
