import FeatureFlags.Proofs.Client.Calls
import Mathlib.Data.List.Nodup

namespace FeatureFlags.Client

variable {c d : Client}

inductive Fits (c : Client) (s : Sequence) : Prop
  | resting : s.phase = .resting wake → c.state.inFlight = some s.number → s.triesLeft ≠ 0 →
    Fits c s
  | awaiting : s.phase = .awaiting k.number k.validator.token deadline →
    c.state.inFlight = some s.number → k ∈ c.calls → k.number = c.calls.length →
    (∀ served, c.state.specification = some served → served.fromCall < k.number) → Fits c s
  | ended : s.phase = .ended r → c.state.inFlight ≠ some s.number → Fits c s

structure Flight (c : Client) : Prop where
  numbers : c.sequences.map (·.number) = List.range' 1 c.sequences.length
  inFlight : ∀ n, c.state.inFlight = some n → n = c.sequences.length ∧ n ≠ 0
  fits : ∀ s ∈ c.sequences, c.Fits s
  current : ∀ served, c.state.specification = some served → served.fromCall ≤ c.calls.length

/-- In the step to `d` a sequence ends its try for a call with a result. -/
structure Concludes (c : Client) (s : Sequence) (call : Nat) (token : UInt64)
    (r : Except LoadError Verdict) (d : Client) : Prop where
  moved : c.moveSequence? = some d
  mem : s ∈ c.sequences
  move : c.move? s = some (.conclude call token r)

def Sequence.Running (s : Sequence) : Prop := ∀ r, s.phase ≠ .ended r

theorem Fits.inFlight {s : Sequence} (h : c.Fits s) (running : s.Running) :
    c.state.inFlight = some s.number := by
  cases h with
  | resting _ flying => exact flying
  | awaiting _ flying => exact flying
  | ended phase => exact absurd phase (running _)

theorem Fits.running_iff {s : Sequence} (h : c.Fits s) :
    s.Running ↔ c.state.inFlight = some s.number := by
  refine ⟨h.inFlight, fun flying => ?_⟩
  cases h with
  | resting phase => simp [Sequence.Running, phase]
  | awaiting phase => simp [Sequence.Running, phase]
  | ended _ landed => exact absurd flying landed

theorem Fits.transfer {s : Sequence} (h : c.Fits s) (state : d.state = c.state)
    (calls : d.calls.length = c.calls.length)
    (kept : ∀ k ∈ c.calls, ∃ l ∈ d.calls, l.number = k.number ∧ l.validator = k.validator) :
    d.Fits s := by
  cases h with
  | resting phase flying left => exact .resting phase (state ▸ flying) left
  | @awaiting _ k phase flying hk last newer =>
    obtain ⟨l, hl, number, validator⟩ := kept k hk
    rw [← number, ← validator] at phase
    rw [← number] at last newer
    exact .awaiting phase (state ▸ flying) hl (calls ▸ last) (state ▸ newer)
  | ended phase landed => exact .ended phase (state ▸ landed)

namespace Flight

theorem nodup (h : Flight c) : (c.sequences.map (·.number)).Nodup := by
  rw [h.numbers]
  exact List.nodup_range'

theorem number_mem (h : Flight c) {s : Sequence} (hs : s ∈ c.sequences) :
    1 ≤ s.number ∧ s.number ≤ c.sequences.length := by
  have : s.number ∈ c.sequences.map (·.number) := List.mem_map.2 ⟨s, hs, rfl⟩
  rw [h.numbers, List.mem_range'_1] at this
  omega

theorem sequence? (h : Flight c) {s : Sequence} (hs : s ∈ c.sequences) :
    c.sequence? s.number = some s :=
  find?_eq_some_of_nodup h.nodup hs

theorem transfer (h : Flight c) (state : d.state = c.state) (sequences : d.sequences = c.sequences)
    (calls : d.calls.length = c.calls.length)
    (kept : ∀ k ∈ c.calls, ∃ l ∈ d.calls, l.number = k.number ∧ l.validator = k.validator) :
    Flight d where
  numbers := by rw [sequences, h.numbers]
  inFlight := by
    rw [state, sequences]
    exact h.inFlight
  fits s hs := (h.fits s (sequences ▸ hs)).transfer state calls kept
  current := by
    rw [state, calls]
    exact h.current

theorem alike (h : Flight c) (same : Alike c d) : Flight d :=
  h.transfer same.state same.sequences (by rw [same.calls]) fun k hk =>
    ⟨k, same.calls ▸ hk, rfl, rfl⟩

theorem others (h : Flight c) {before after : List Sequence} {s t : Sequence}
    (parts : c.sequences = before ++ s :: after) (flying : c.state.inFlight = some s.number)
    (ht : t ∈ before ++ after) : t.number ≠ s.number ∧ ∃ r, t.phase = .ended r := by
  have distinct := h.nodup
  rw [parts, List.map_append, List.map_cons, List.nodup_middle, List.nodup_cons,
    ← List.map_append] at distinct
  have other : t.number ≠ s.number := fun equal => distinct.1 (equal ▸ List.mem_map_of_mem ht)
  have declared : t ∈ c.sequences := by
    rcases List.mem_append.1 ht with ht | ht
    · simp [parts, ht]
    · simp [parts, ht]
  refine ⟨other, ?_⟩
  cases h.fits t declared with
  | resting _ flying' => exact absurd (Option.some.inj (flying'.symm.trans flying)) other
  | awaiting _ flying' => exact absurd (Option.some.inj (flying'.symm.trans flying)) other
  | ended phase => exact ⟨_, phase⟩

theorem replace (h : Flight c) {before after : List Sequence} {s s' : Sequence}
    (parts : c.sequences = before ++ s :: after) (flying : c.state.inFlight = some s.number)
    (sequences : d.sequences = before ++ s' :: after) (same : s'.number = s.number)
    (inFlight : d.state.inFlight = c.state.inFlight ∨ d.state.inFlight = none) (fits : d.Fits s')
    (current : ∀ served, d.state.specification = some served → served.fromCall ≤ d.calls.length) :
    Flight d := by
  have length : d.sequences.length = c.sequences.length := by simp [sequences, parts]
  constructor
  · rw [length, ← h.numbers, sequences, parts]
    simp [same]
  · intro n flying'
    rw [length]
    rcases inFlight with kept | none
    · exact h.inFlight n (kept ▸ flying')
    · rw [none] at flying'
      cases flying'
  · intro t ht
    -- the others had ended before and stay as they are
    have ended (ht : t ∈ before ++ after) : d.Fits t := by
      obtain ⟨other, r, phase⟩ := h.others parts flying ht
      refine .ended phase ?_
      rcases inFlight with kept | none
      · rw [kept, flying]
        exact fun equal => other (Option.some.inj equal).symm
      · simp [none]
    rw [sequences, List.mem_append, List.mem_cons] at ht
    rcases ht with ht | rfl | ht
    · exact ended (List.mem_append_left _ ht)
    · exact fits
    · exact ended (List.mem_append_right _ ht)
  · exact current

theorem eq_of_running (h : Flight c) {s t : Sequence} (hs : s ∈ c.sequences) (ht : t ∈ c.sequences)
    (running : s.Running) (running' : t.Running) : s = t := by
  have flying := (h.fits s hs).inFlight running
  have same : t.number = s.number :=
    Option.some.inj (((h.fits t ht).inFlight running').symm.trans flying)
  have found := h.sequence? ht
  rw [same, h.sequence? hs] at found
  exact Option.some.inj found

theorem result?_eq_some_iff (h : Flight c) {n : Nat} {r : Except LoadFailure Served} :
    c.result? n = some r ↔ ∃ s ∈ c.sequences, s.number = n ∧ s.phase = .ended r := by
  unfold result?
  constructor
  · intro found
    cases hs : c.sequence? n with
    | none => simp [hs] at found
    | some s =>
      refine ⟨s, List.mem_of_find?_eq_some hs, by simpa using List.find?_some hs, ?_⟩
      simp only [hs, Option.map_some] at found
      split at found
      · next phase =>
        cases found
        exact Option.some.inj phase
      · cases found
  · rintro ⟨s, hs, rfl, phase⟩
    simp [h.sequence? hs, phase]

theorem attempts_ne_zero (config : Config) : config.attempts ≠ 0 := by
  simp only [Config.attempts, UInt32.size]
  omega

theorem join (h : Flight c) (free : c.state.inFlight = none) : Flight c.joinLoad.2 := by
  rw [joinLoad_of_free free]
  constructor
  · simp [h.numbers, List.range'_1_concat, Nat.add_comm]
  · intro n flying
    obtain rfl : c.sequences.length + 1 = n := by simpa using flying
    simp
  · intro s hs
    rcases List.mem_append.1 hs with hs | hs
    · have old := (h.number_mem hs).2
      cases h.fits s hs with
      | resting _ flying => simp [free] at flying
      | awaiting _ flying => simp [free] at flying
      | ended phase =>
        refine .ended phase fun flying => ?_
        have : c.sequences.length + 1 = s.number := by simpa using flying
        omega
    · obtain rfl := List.mem_singleton.1 hs
      exact .resting rfl rfl (attempts_ne_zero c.config)
  · exact h.current

theorem of_conclude (h : Flight c) {s : Sequence} (hs : s ∈ c.sequences) {call : Nat}
    {token : UInt64} {r : Except LoadError Verdict}
    (move : c.move? s = some (.conclude call token r)) :
    c.state.inFlight = some s.number ∧ ∃ k ∈ c.calls, k.number = call ∧ k.validator.token = token ∧
      call = c.calls.length ∧
      ∀ served, c.state.specification = some served → served.fromCall < call := by
  obtain ⟨deadline, phase, -⟩ := move?_conclude move
  cases h.fits s hs with
  | resting phase' => cases phase.symm.trans phase'
  | awaiting phase' flying hk last newer =>
    cases phase.symm.trans phase'
    exact ⟨flying, _, hk, rfl, rfl, last, newer⟩
  | ended phase' => cases phase.symm.trans phase'

theorem effect (h : Flight c) (e : Effect c d) : Flight d := by
  cases e with
  | idle => exact h
  | join free => exact h.join free
  | @call before s after wake parts phase due left =>
    have hs : s ∈ c.sequences := by simp [parts]
    have flying := (h.fits s hs).inFlight (by simp [Sequence.Running, phase])
    -- what is served is from an earlier call than the one that is made
    have newest (served : Served) (h' : c.state.specification = some served) :
        served.fromCall < c.newCall.number :=
      Nat.lt_succ_of_le (h.current served h')
    refine h.replace parts flying rfl rfl (.inl rfl) ?_ ?_
    · have last : c.newCall.number = c.callLoader.calls.length := by simp [newCall, callLoader]
      exact .awaiting rfl flying (List.mem_append_right _ (.head _)) last newest
    · intro served h'
      simpa [tryNext, callLoader] using Nat.le_succ_of_le (h.current served h')
  | @load before s after call token r served parts move judged =>
    have hs : s ∈ c.sequences := by simp [parts]
    obtain ⟨flying, k, hk, rfl, -, last, -⟩ := h.of_conclude hs move
    refine h.replace parts flying rfl rfl (.inr rfl) (.ended rfl (by simp)) ?_
    rintro _ ⟨⟩
    obtain ⟨-, -, -, -, fromCall⟩ := of_judge_eq_ok judged
    exact Nat.le_of_eq (fromCall.trans last)
  | @rest before s after call token r e payload parts move judged left =>
    have hs : s ∈ c.sequences := by simp [parts]
    obtain ⟨flying, -⟩ := h.of_conclude hs move
    exact h.replace parts flying rfl rfl (.inl rfl) (.resting rfl flying left) h.current
  | @giveUp before s after call token r e payload parts move judged left =>
    have hs : s ∈ c.sequences := by simp [parts]
    obtain ⟨flying, -⟩ := h.of_conclude hs move
    exact h.replace parts flying rfl rfl (.inr rfl) (.ended rfl (by simp)) h.current
  | @finish before k after r kept parts =>
    refine h.transfer rfl rfl (by simp [parts]) fun l hl => ?_
    rw [parts, List.mem_append, List.mem_cons] at hl
    rcases hl with hl | rfl | hl
    · exact ⟨l, by simp [hl], rfl, rfl⟩
    · exact ⟨{ l with ending := some r }, by simp, rfl, rfl⟩
    · exact ⟨l, by simp [hl], rfl, rfl⟩
  | issue => exact h.transfer rfl rfl rfl fun k hk => ⟨k, hk, rfl, rfl⟩
  | wait => exact h.transfer rfl rfl rfl fun k hk => ⟨k, hk, rfl, rfl⟩

theorem step (h : Flight c) (s : Step c d) : Flight d := by
  obtain ⟨e, effect, same⟩ := s.effect
  exact (h.effect effect).alike same

theorem build (config : Config) (loader : Loader) (observer : Option Observer) (epoch : Instant)
    (inTurn : Bool) (host : Host) : Flight (build config loader observer epoch inTurn host) := by
  have empty : Flight { config, loader, host, observer, epoch } := by
    constructor <;> simp
  unfold Client.build
  dsimp only
  split
  · exact empty.join rfl
  · exact empty

end Flight

theorem Reachable.flight (h : Reachable c) : Flight c :=
  h.invariant .build fun _ _ _ flight => flight.step

theorem running_of_move? {s : Sequence} {m : Move} (h : c.move? s = some m) : s.Running := by
  cases m with
  | tryNext =>
    obtain ⟨wake, phase, -⟩ := move?_tryNext h
    simp [Sequence.Running, phase]
  | conclude call token r =>
    obtain ⟨deadline, phase, -⟩ := move?_conclude h
    simp [Sequence.Running, phase]

theorem Flight.of_moveSequence? (h : Flight c) (moved : c.moveSequence? = some d) {s : Sequence}
    (hs : s ∈ c.sequences) (running : s.Running) :
    ∃ before after m, c.sequences = before ++ s :: after ∧ c.move? s = some m ∧
      d = { (c.makeMove s m).2 with sequences := before ++ (c.makeMove s m).1 :: after } := by
  obtain ⟨before, t, after, m, parts, move, equal⟩ := Client.of_moveSequence? moved
  obtain rfl : s = t := h.eq_of_running hs (by simp [parts]) running (running_of_move? move)
  exact ⟨before, after, m, parts, move, equal⟩

end FeatureFlags.Client
