import FeatureFlags.Proofs.Client.Flight

namespace FeatureFlags.Client

variable {c d : Client}

def Awaits (c : Client) (n call : Nat) : Prop :=
  ∃ s ∈ c.sequences, s.number = n ∧ ∃ token deadline, s.phase = .awaiting call token deadline

def Fails (c : Client) (n call : Nat) (d : Client) : Prop :=
  ∃ s token r failure, s.number = n ∧ c.Concludes s call token r d ∧
    judge call token r = .error failure

inductive Serves (n : Nat) (old : Option Served) (c : Client) : Prop
  | running : s ∈ c.sequences → s.number = n → s.Running → c.state.specification = old →
    Serves n old c
  | ended : c.result? n = some r → c.state.specification = r.toOption.or old → Serves n old c
  | overtaken : c.result? n = some r → n < m → c.result? m = some (.ok served) → Serves n old c

mutual

def Task.awaits : Task → List Nat
  | .done _ => []
  | .napping _ => []
  | .loading n => [n]
  | .awaiting n _ _ => [n]
  | .refreshing n _ _ _ _ => [n]
  | .joined ts => Task.allAwait ts
  | .limited _ t => t.awaits

def Task.allAwait : List Task → List Nat
  | [] => []
  | t :: ts => t.awaits ++ Task.allAwait ts

end

structure SingleFlight (c : Client) : Prop where
  one : ∀ s ∈ c.sequences, ∀ t ∈ c.sequences, s.Running → t.Running → s = t
  inFlight : ∀ n, c.state.inFlight = some n ↔ ∃ s ∈ c.sequences, s.number = n ∧ s.Running
  joins : ∀ n, c.state.inFlight = some n → ∀ inTurn op,
    (c.begin inTurn op).2.sequences = c.sequences ∧ (c.begin inTurn op).2.state = c.state ∧
      ∀ m ∈ (c.begin inTurn op).1.awaits, m = n
  waits : ∀ t, ∀ n ∈ (c.poll t).1.awaits, n ∈ t.awaits
  pending : ∀ n, c.result? n = none → c.poll (.loading n) = (.loading n, c) ∧
    ∀ q inTurn, c.poll (.awaiting n q inTurn) = (.awaiting n q inTurn, c)
  observes : ∀ n r, c.result? n = some r → ∀ d, Steps c d →
    d.poll (.loading n) = (.done (.loaded r), d) ∧
      ∀ q inTurn, d.poll (.awaiting n q inTurn) = d.answer inTurn q r.toOption
  /-- A refresh uses what its sequence loaded, or where that failed what was served before, unless
  a later one has loaded something since. -/
  refreshes : ∀ n, c.state.inFlight = some n → ∀ d, Steps c d → ∀ r, d.result? n = some r →
    (∀ m served, d.result? m = some (.ok served) → m ≤ n) → ∀ deadline current q inTurn,
      d.poll (.refreshing n deadline current q inTurn) =
        d.answer inTurn q (some ((r.toOption.or c.state.specification).getD current))
  oneTry : ∀ n call m call', c.Awaits n call → c.Awaits m call' → n = m ∧ call = call'
  calls : ∀ d, Step c d → d.calls.length ≠ c.calls.length →
    d.calls.length = c.calls.length + 1 ∧ (∀ n call, ¬ c.Awaits n call) ∧
      ∃ n, c.state.inFlight = some n ∧ d.Awaits n d.calls.length
  retries : ∀ n call, c.Awaits n call → ∀ d, Steps c d → ∀ call', d.Awaits n call' →
    call' = call ∨ ∃ x y, Steps c x ∧ x.Fails n call y ∧ Steps y d

namespace Task

theorem awaits_limit (now deadline : Nat) (t : Task) :
    (t.limit now deadline).awaits ⊆ t.awaits := by
  unfold limit
  split
  · exact List.Subset.refl _
  · split
    · simp [awaits]
    · simp [awaits]

theorem awaits_gather (ts : List Task) : (gather ts).awaits ⊆ allAwait ts := by
  unfold gather
  split
  · simp [awaits]
  · simp [awaits]

end Task

theorem awaits_answer (c : Client) (inTurn : Bool) (q : Inquiry) (served : Option Served) :
    (c.answer inTurn q served).1.awaits = [] := by
  cases q <;> simp [answer, Task.awaits]

theorem Begun.of_inFlight (h : Begun c d) {n : Nat} (flying : c.state.inFlight = some n) :
    Alike c d := by
  rcases h with same | joined
  · exact same
  · rwa [joinLoad_of_inFlight flying] at joined

theorem awaits_inquire {n : Nat} (flying : c.state.inFlight = some n) (inTurn : Bool)
    (q : Inquiry) : (c.inquire inTurn q).1.awaits ⊆ [n] := by
  unfold inquire
  rw [joinLoad_of_inFlight flying]
  split
  · dsimp only
    split
    · simp [awaits_answer]
    · simp [Task.awaits]
  · split
    · simp [awaits_answer]
    · dsimp only
      split
      · simp [Task.awaits]
      · simp [awaits_answer]

mutual

theorem awaits_begin {n : Nat} {c : Client} (flying : c.state.inFlight = some n) (inTurn : Bool) :
    (op : Operation) → (c.begin inTurn op).1.awaits ⊆ [n]
  | .load => by simp [begin, joinLoad_of_inFlight flying, Task.awaits]
  | .snapshot => by simp [begin, Task.awaits]
  | .sleep time => by
    unfold begin
    dsimp only
    split <;> simp [Task.awaits]
  | .evaluate q => awaits_inquire flying inTurn q
  | .join ops => List.Subset.trans (Task.awaits_gather _) (awaits_beginAll flying inTurn ops)
  | .within _ op => List.Subset.trans (Task.awaits_limit ..) (awaits_begin flying inTurn op)
  | .outOfTurn op => awaits_begin flying false op

theorem awaits_beginAll {n : Nat} {c : Client} (flying : c.state.inFlight = some n)
    (inTurn : Bool) : (ops : List Operation) → Task.allAwait (c.beginAll inTurn ops).1 ⊆ [n]
  | [] => List.nil_subset _
  | op :: ops => by
    have same := (begun_begin c inTurn op).of_inFlight flying
    have rest := awaits_beginAll (same.state.symm ▸ flying) inTurn ops
    exact List.append_subset.2 ⟨awaits_begin flying inTurn op, rest⟩

end

mutual

theorem awaits_poll (c : Client) : (t : Task) → (c.poll t).1.awaits ⊆ t.awaits
  | .done _ => List.Subset.refl _
  | .napping wake => by
    unfold poll
    dsimp only
    split <;> simp [Task.awaits]
  | .loading n => by
    unfold poll
    split <;> simp [Task.awaits]
  | .awaiting n q inTurn => by
    unfold poll
    split <;> simp [awaits_answer]
  | .refreshing n deadline current q inTurn => by
    unfold poll
    split <;> simp [awaits_answer]
  | .joined ts => List.Subset.trans (Task.awaits_gather _) (awaits_pollAll c ts)
  | .limited _ t => List.Subset.trans (Task.awaits_limit ..) (awaits_poll c t)

theorem awaits_pollAll (c : Client) :
    (ts : List Task) → Task.allAwait (c.pollAll ts).1 ⊆ Task.allAwait ts
  | [] => List.Subset.refl _
  | t :: ts => by
    have first := awaits_poll c t
    have rest := awaits_pollAll (c.poll t).2 ts
    exact List.append_subset.2 ⟨List.subset_append_of_subset_left _ first,
      List.subset_append_of_subset_right _ rest⟩

end

theorem mem_of_moveSequence? (moved : c.moveSequence? = some d) {s : Sequence}
    (hs : s ∈ c.sequences) {r : Except LoadFailure Served} (phase : s.phase = .ended r) :
    s ∈ d.sequences := by
  obtain ⟨before, t, after, m, parts, move, rfl⟩ := of_moveSequence? moved
  rw [parts, List.mem_append, List.mem_cons] at hs
  rcases hs with hs | rfl | hs
  · exact List.mem_append_left _ hs
  · exact absurd phase (running_of_move? move r)
  · exact List.mem_append_right _ (.tail _ hs)

theorem Flight.steps (h : Flight c) (steps : Steps c d) : Flight d := by
  induction steps with
  | refl => exact h
  | tail _ step ih => exact ih.step step

theorem Flight.result?_steps (h : Flight c) {n : Nat} {r : Except LoadFailure Served}
    (ended : c.result? n = some r) (steps : Steps c d) : d.result? n = some r := by
  induction steps with
  | refl => exact ended
  | tail before step ih =>
    have flight := h.steps before
    obtain ⟨s, hs, number, phase⟩ := flight.result?_eq_some_iff.1 ih
    rw [(flight.step step).result?_eq_some_iff]
    refine ⟨s, ?_, number, phase⟩
    rcases step.move_or_keeps with moved | kept
    · exact mem_of_moveSequence? moved hs phase
    · exact kept.sequences s hs

theorem Awaits.unique (h : Flight c) {n m call call' : Nat} (first : c.Awaits n call)
    (second : c.Awaits m call') : n = m ∧ call = call' := by
  obtain ⟨s, hs, rfl, token, deadline, phase⟩ := first
  obtain ⟨t, ht, rfl, token', deadline', phase'⟩ := second
  obtain rfl : s = t := h.eq_of_running hs ht (by simp [Sequence.Running, phase])
    (by simp [Sequence.Running, phase'])
  cases phase.symm.trans phase'
  exact ⟨rfl, rfl⟩

theorem Awaits.step (h : Flight c) {n call : Nat} (waiting : c.Awaits n call) (step : Step c d) :
    d.Awaits n call ∨ (∃ served, d.result? n = some (.ok served)) ∨ c.Fails n call d := by
  obtain ⟨s, hs, rfl, token, deadline, phase⟩ := waiting
  rcases step.move_or_keeps with moved | kept
  · obtain ⟨before, after, m, parts, move, equal⟩ :=
      h.of_moveSequence? moved hs (by simp [Sequence.Running, phase])
    cases m with
    | tryNext =>
      obtain ⟨wake, phase', -⟩ := move?_tryNext move
      cases phase.symm.trans phase'
    | conclude call' token' r =>
      obtain ⟨deadline', phase', -⟩ := move?_conclude move
      cases phase.symm.trans phase'
      cases judged : judge call token r with
      | ok served =>
        refine .inr (.inl ⟨served, (h.step step).result?_eq_some_iff.2 ?_⟩)
        refine ⟨{ s with phase := .ended (.ok served) }, ?_, rfl, rfl⟩
        rw [equal]
        simp [makeMove, judged]
      | error failure => exact .inr (.inr ⟨s, token, r, failure, rfl, ⟨moved, hs, move⟩, judged⟩)
  · exact .inl ⟨s, kept.sequences s hs, rfl, token, deadline, phase⟩

theorem Awaits.steps (h : Flight c) {n call : Nat} (waiting : c.Awaits n call) (steps : Steps c d) :
    d.Awaits n call ∨ (∃ served, d.result? n = some (.ok served)) ∨
      ∃ x y, Steps c x ∧ x.Fails n call y ∧ Steps y d := by
  induction steps with
  | refl => exact .inl waiting
  | @tail x y before step ih =>
    have flight : Flight x := h.steps before
    rcases ih with waiting | ⟨served, ended⟩ | ⟨x', y', start, fails, rest⟩
    · rcases waiting.step flight step with waiting | ended | fails
      · exact .inl waiting
      · exact .inr (.inl ended)
      · exact .inr (.inr ⟨x, y, before, fails, .refl⟩)
    · exact .inr (.inl ⟨served, flight.result?_steps ended (.single step)⟩)
    · exact .inr (.inr ⟨x', y', start, fails, rest.tail step⟩)

theorem Flight.of_call (h : Flight c) (step : Step c d) (called : d.calls.length ≠ c.calls.length) :
    d.calls.length = c.calls.length + 1 ∧ (∀ n call, ¬ c.Awaits n call) ∧
      ∃ n, c.state.inFlight = some n ∧ d.Awaits n d.calls.length := by
  obtain ⟨e, effect, same⟩ := step.effect
  unfold Awaits at *
  rw [same.calls] at called
  rw [same.calls, same.sequences]
  cases effect with
  | idle => exact absurd rfl called
  | join free =>
    rw [joinLoad_of_free free] at called
    exact absurd rfl called
  | @call before s after wake parts phase =>
    have hs : s ∈ c.sequences := by simp [parts]
    have running : s.Running := by simp [Sequence.Running, phase]
    have length : c.callLoader.calls.length = c.calls.length + 1 := by simp [callLoader]
    refine ⟨length, ?_, s.number, (h.fits s hs).inFlight running, ?_⟩
    · rintro n call ⟨t, ht, -, token, deadline, phase'⟩
      obtain rfl : s = t := h.eq_of_running hs ht running (by simp [Sequence.Running, phase'])
      cases phase.symm.trans phase'
    · refine ⟨(c.tryNext s).1, by simp, rfl, c.newCall.validator.token,
        c.config.timeout?.map (c.now + ·), ?_⟩
      simp [tryNext, newCall, callLoader]
  | load => exact absurd rfl called
  | rest => exact absurd rfl called
  | giveUp => exact absurd rfl called
  | finish parts => exact absurd (by simp [parts]) called
  | issue => exact absurd rfl called
  | wait => exact absurd rfl called

theorem Flight.inFlight_iff (h : Flight c) {n : Nat} :
    c.state.inFlight = some n ↔ ∃ s ∈ c.sequences, s.number = n ∧ s.Running := by
  constructor
  · intro flying
    obtain ⟨rfl, positive⟩ := h.inFlight n flying
    have : c.sequences.length ∈ c.sequences.map (·.number) := by
      rw [h.numbers, List.mem_range'_1]
      omega
    obtain ⟨s, hs, number⟩ := List.mem_map.1 this
    exact ⟨s, hs, number, (h.fits s hs).running_iff.2 (number ▸ flying)⟩
  · rintro ⟨s, hs, rfl, running⟩
    exact (h.fits s hs).inFlight running

theorem Flight.result?_of_running (h : Flight c) {s : Sequence} (hs : s ∈ c.sequences)
    (running : s.Running) : c.result? s.number = none := by
  cases ended : c.result? s.number with
  | none => rfl
  | some r =>
    obtain ⟨t, ht, number, phase⟩ := h.result?_eq_some_iff.1 ended
    have found := h.sequence? ht
    rw [number, h.sequence? hs] at found
    cases found
    exact absurd phase (running r)

theorem Flight.lt_of_result? (h : Flight c) {n m : Nat} {r : Except LoadFailure Served}
    (ended : c.result? n = some r) (flying : c.state.inFlight = some m) : n < m := by
  obtain ⟨s, hs, number, running⟩ := h.inFlight_iff.1 flying
  obtain ⟨t, ht, rfl, -⟩ := h.result?_eq_some_iff.1 ended
  have other : t.number ≠ m := by
    rintro rfl
    rw [← number, h.result?_of_running hs running] at ended
    cases ended
  have old := (h.number_mem ht).2
  have last := (h.inFlight m flying).1
  omega

theorem makeMove_serves (c : Client) (s : Sequence) (m : Move) :
    (c.makeMove s m).1.number = s.number ∧
      ((c.makeMove s m).1.Running ∧
          (c.makeMove s m).2.state.specification = c.state.specification ∨
        ∃ r, (c.makeMove s m).1.phase = .ended r ∧
          (c.makeMove s m).2.state.specification = r.toOption.or c.state.specification) := by
  cases m with
  | tryNext => exact ⟨rfl, .inl ⟨by simp [Sequence.Running, makeMove, tryNext], rfl⟩⟩
  | conclude call token r =>
    unfold makeMove
    dsimp only
    split
    · next served judged =>
      refine ⟨rfl, .inr ⟨_, rfl, ?_⟩⟩
      dsimp only
      rw [(alike_install c served).state]
      rfl
    · next e payload judged =>
      unfold afterFailure
      dsimp only
      split
      · refine ⟨rfl, .inr ⟨_, rfl, ?_⟩⟩
        simp [giveUp, (alike_dispatch ..).state, Except.toOption]
      · refine ⟨rfl, .inl ⟨by simp [Sequence.Running], ?_⟩⟩
        rw [(alike_dispatch ..).state]

theorem Flight.serves_of_moveSequence? (h : Flight c) (moved : c.moveSequence? = some d) :
    ∃ n, c.state.inFlight = some n ∧ Serves n c.state.specification d := by
  have flight := h.step (.move moved)
  obtain ⟨before, s, after, m, parts, move, rfl⟩ := Client.of_moveSequence? moved
  have hs : s ∈ c.sequences := by simp [parts]
  refine ⟨s.number, (h.fits s hs).inFlight (running_of_move? move), ?_⟩
  have stands : (c.makeMove s m).1 ∈ before ++ (c.makeMove s m).1 :: after :=
    List.mem_append_right _ (.head _)
  obtain ⟨number, ⟨running, same⟩ | ⟨r, phase, installed⟩⟩ := makeMove_serves c s m
  · exact .running stands number running same
  · exact .ended (flight.result?_eq_some_iff.2 ⟨_, stands, number, phase⟩) installed

theorem Serves.step {n : Nat} {old : Option Served} (h : Serves n old c) (flight : Flight c)
    (step : Step c d) : Serves n old d := by
  have persists {m : Nat} {r : Except LoadFailure Served} (ended : c.result? m = some r) :
      d.result? m = some r :=
    flight.result?_steps ended (.single step)
  rcases step.move_or_keeps with moved | kept
  · obtain ⟨m, flying, serves⟩ := flight.serves_of_moveSequence? moved
    cases h with
    | running hs number running same =>
      have own := (flight.fits _ hs).inFlight running
      rw [number, flying] at own
      obtain rfl := Option.some.inj own
      exact same ▸ serves
    | ended result same =>
      -- the sequence that moves began after this one had ended
      have later := flight.lt_of_result? result flying
      cases serves with
      | running _ _ _ same' => exact .ended (persists result) (same'.trans same)
      | @ended r result' same' =>
        cases r with
        | ok served => exact .overtaken (persists result) later result'
        | error e => exact .ended (persists result) (same'.trans same)
      | overtaken _ latest result' =>
        exact .overtaken (persists result) (Nat.lt_trans later latest) result'
    | overtaken result later result' =>
      exact .overtaken (persists result) later (persists result')
  · cases h with
    | running hs number running same =>
      exact .running (kept.sequences _ hs) number running (kept.specification.trans same)
    | ended result same => exact .ended (persists result) (kept.specification.trans same)
    | overtaken result later result' =>
      exact .overtaken (persists result) later (persists result')

theorem Serves.steps {n : Nat} {old : Option Served} (h : Serves n old c) (flight : Flight c)
    (steps : Steps c d) : Serves n old d := by
  induction steps with
  | refl => exact h
  | tail before step ih => exact ih.step (flight.steps before) step

theorem singleFlight_of_reachable (reachable : Reachable c) : SingleFlight c := by
  have h := reachable.flight
  constructor
  · exact fun s hs t ht => h.eq_of_running hs ht
  · exact fun n => h.inFlight_iff
  · intro n flying inTurn op
    have same := (begun_begin c inTurn op).of_inFlight flying
    have waits := awaits_begin flying inTurn op
    exact ⟨same.sequences, same.state, fun m hm => List.mem_singleton.1 (waits hm)⟩
  · exact fun t n hn => awaits_poll c t hn
  · intro n running
    simp [poll, running]
  · intro n r ended d steps
    have still := h.result?_steps ended steps
    simp [poll, still]
  · intro n flying d steps r ended latest deadline current q inTurn
    obtain ⟨s, hs, number, running⟩ := h.inFlight_iff.1 flying
    have serves := (Serves.running hs number running rfl).steps h steps
    have flight := h.steps steps
    cases serves with
    | running hs number running =>
      rw [← number, flight.result?_of_running hs running] at ended
      cases ended
    | ended result same =>
      cases ended.symm.trans result
      rw [poll, same]
      simp [ended]
    -- a later sequence has ended, so this one is not the latest
    | overtaken _ later result => exact absurd later (Nat.not_lt_of_le (latest _ _ result))
  · exact fun n call m call' => Awaits.unique h
  · exact fun d => h.of_call
  · intro n call waiting d steps call' waiting'
    have flight := h.steps steps
    rcases waiting.steps h steps with still | ⟨served, ended⟩ | failed
    · exact .inl (waiting'.unique flight still).2
    · obtain ⟨s, hs, rfl, token, deadline, phase⟩ := waiting'
      rw [flight.result?_of_running hs (by simp [Sequence.Running, phase])] at ended
      cases ended
    · exact .inr failed

def down : Loader := fun _ => { delay := 5, deed := .fail "down" }

def trying : Client :=
  let c := build {} down none ⟨0, 0⟩ true
  c.moveSequence?.getD c

theorem singleFlight_trying : trying.Awaits 1 1 ∧ SingleFlight trying := by
  have reachable : Reachable trying := ⟨{}, down, none, ⟨0, 0⟩, true, _, .single (.move rfl)⟩
  exact ⟨⟨_, .head _, rfl, _, _, rfl⟩, singleFlight_of_reachable reachable⟩

end FeatureFlags.Client
