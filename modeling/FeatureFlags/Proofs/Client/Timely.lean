import FeatureFlags.Proofs.Client.Live

/-!
Runs in which nothing is late. A call returns at its own time, and time passes only where no load
can go on, and no further than to the next instant at which one can. A client is run like that,
whatever its operations are.
-/

namespace FeatureFlags.Client

def Punctual (b c : Client) : Prop :=
  ∀ k ∈ c.calls, b.calls.length < k.number → k.ending ≠ none → k.endsAt ≤ c.now

inductive Timely (b : Client) : Client → Prop
  | refl : Timely b b
  | step : Timely b c → Step c d → d.now = c.now → Punctual b d → Timely b d
  | pass : Timely b c → c.loadStep? = none → (∀ y ∈ c.timers, x ≤ y) → Timely b (c.waitFor x)

def LandsAt (b : Client) (n : Nat) (r : Except LoadFailure Served) (instant : Nat) : Prop :=
  ∃ x y, Timely b x ∧ Step x y ∧ Timely b y ∧ Lands x n r y ∧ y.now = instant

variable {b c d : Client}

theorem Effect.call_mem (h : Effect c d) {k : Call} (hk : k ∈ c.calls) :
    k ∈ d.calls ∨ k.ending = none ∧ ∃ r, { k with ending := some r } ∈ d.calls := by
  cases h with
  | join free =>
    rw [joinLoad_of_free free]
    exact .inl hk
  | call => exact .inl (List.mem_append_left _ hk)
  | @finish before l after r kept parts running =>
    rw [parts, List.mem_append, List.mem_cons] at hk
    rcases hk with hk | rfl | hk
    · exact .inl (List.mem_append_left _ hk)
    · exact .inr ⟨running, r, List.mem_append_right _ (.head _)⟩
    · exact .inl (List.mem_append_right _ (.tail _ hk))
  | _ => exact .inl hk

theorem Step.call_mem (h : Step c d) {k : Call} (hk : k ∈ c.calls) :
    k ∈ d.calls ∨ k.ending = none ∧ ∃ r, { k with ending := some r } ∈ d.calls := by
  obtain ⟨e, effect, same⟩ := h.effect
  rw [same.calls]
  exact effect.call_mem hk

theorem Registered.number_mem (h : Registered c) {k : Call} (hk : k ∈ c.calls) :
    1 ≤ k.number ∧ k.number ≤ c.calls.length := by
  have : k.number ∈ c.calls.map (·.number) := List.mem_map_of_mem hk
  rw [h.numbers, List.mem_range'_1] at this
  omega

theorem Timely.steps (h : Timely b c) : Steps b c := by
  induction h with
  | refl => exact .refl
  | step _ step _ _ ih => exact ih.tail step
  | pass _ _ _ ih => exact ih.tail (.wait _)

namespace Punctual

theorem refl (h : Registered b) : Punctual b b := fun _ hk new _ =>
  absurd (h.number_mem hk).2 (Nat.not_le_of_lt new)

theorem of_calls (h : Punctual b c) (calls : d.calls = c.calls) (now : d.now = c.now) :
    Punctual b d := by
  intro k hk new returned
  rw [calls] at hk
  rw [now]
  exact h k hk new returned

theorem alike (h : Punctual b c) (same : Alike c d) : Punctual b d :=
  h.of_calls same.calls same.now

theorem waitFor (h : Punctual b c) (x : Nat) : Punctual b (c.waitFor x) :=
  fun k hk new returned => Nat.le_trans (h k hk new returned) (Nat.le_max_left ..)

theorem of_step (h : Punctual b d) (step : Step c d) (same : d.now = c.now) : Punctual b c := by
  intro k hk new returned
  rw [← same]
  exact h k ((step.call_mem hk).resolve_right fun running => returned running.1) new returned

theorem of_steps (h : Punctual b d) (steps : Steps c d) (same : d.now = c.now) : Punctual b c := by
  induction steps with
  | refl => exact h
  | @tail d e before step ih =>
    have early := now_le_of_steps before
    have late := step.now_le
    exact ih (h.of_step step (by omega)) (by omega)

theorem loadStep? (h : Punctual b c) (step : c.loadStep? = some d) : Punctual b d := by
  rcases (Option.orElse_eq_some _ _ _).1 step with moved | ⟨-, ended⟩
  · obtain ⟨before, s, after, m, -, -, rfl⟩ := of_moveSequence? moved
    intro k hk new returned
    change k.endsAt ≤ (c.makeMove s m).2.now
    rw [now_makeMove]
    cases m with
    | tryNext =>
      rcases List.mem_append.1 hk with hk | hk
      · exact h k hk new returned
      · obtain rfl := List.mem_singleton.1 hk
        exact absurd rfl returned
    | conclude call token r =>
      refine h k ?_ new returned
      simp only [makeMove] at hk
      split at hk
      · rwa [← (alike_install c _).calls]
      · rwa [← calls_afterFailure c s]
  · obtain ⟨split, found, rfl⟩ := Option.map_eq_some_iff.1 ended
    obtain ⟨parts, due⟩ := splitFirst_eq found
    intro k hk new returned
    unfold Punctual at h
    rw [parts, List.forall_mem_append, List.forall_mem_cons] at h
    rcases List.mem_append.1 hk with hk | hk
    · exact h.1 k hk new returned
    rcases List.mem_cons.1 hk with rfl | hk
    · unfold Call.due? at due
      simp_all
    · exact h.2.2 k hk new returned

theorem loadAll (h : Punctual b c) : Punctual b c.loadAll := by
  fun_induction Client.loadAll c with
  | case1 => exact h
  | case2 c next found less ih => exact ih (h.loadStep? found)

theorem turn (h : Punctual b c) : Punctual b c.turn :=
  (h.alike (alike_deliver c)).loadAll.alike (alike_defer _)

end Punctual

namespace Timely

theorem trans_steps (h : Timely b c) (steps : Steps c d) (same : d.now = c.now)
    (punctual : Punctual b d) : Timely b d := by
  induction steps with
  | refl => exact h
  | @tail d e before step ih =>
    have early := now_le_of_steps before
    have late := step.now_le
    have still : e.now = d.now := by omega
    exact (ih (by omega) (punctual.of_step step still)).step step still punctual

variable (registered : Registered b)

include registered

theorem punctual (h : Timely b c) : Punctual b c := by
  induction h with
  | refl => exact .refl registered
  | step _ _ _ punctual => exact punctual
  | pass _ _ _ ih => exact ih.waitFor _

theorem turn (h : Timely b c) : Timely b c.turn :=
  h.trans_steps (steps_turn (registered.steps h.steps)) (now_turn c) (h.punctual registered).turn

theorem settle (h : Timely b c) : Timely b c.settle := (h.turn registered).turn registered

theorem poll (h : Timely b c) (t : Task) : Timely b (c.poll t).2 :=
  have same := alike_poll c t
  h.step (.poll t) same.now ((h.punctual registered).alike same)

theorem begin (h : Timely b c) (inTurn : Bool) (op : Operation) :
    Timely b (c.begin inTurn op).2 :=
  have begun := begun_begin c inTurn op
  h.step (.begin inTurn op) begun.now ((h.punctual registered).of_calls begun.calls begun.now)

theorem atInstant (h : Timely b c) (t : Task) : Timely b (c.atInstant t).2 := by
  unfold Client.atInstant
  dsimp only
  split
  · exact h.poll registered t
  · exact ((h.poll registered t).turn registered).poll registered _

theorem waitFor_settle (h : Timely b c) {t : Task} {x : Nat}
    (next : c.settle.nextInstant? t = some x) : Timely b (c.settle.waitFor x) :=
  (h.settle registered).pass (loadStep?_turn _) fun y hy =>
    (List.min?_eq_some_iff.1 next).2 y (List.mem_append_left _ hy)

theorem await (h : Timely b c) (t : Task) : Timely b (c.await t).2 := by
  fun_induction Client.await c t with
  | case1 => exact h
  | case2 => exact h.settle registered
  | case3 c t waiting x found next less settled ih =>
    exact ih ((h.waitFor_settle registered found).atInstant registered t)

theorem runOne (h : Timely b c) (op : Operation) : Timely b (c.runOne op).2 := by
  refine Timely.settle registered (Timely.await registered ?_ _)
  unfold start
  dsimp only
  split
  · exact h.begin registered true op
  · exact ((h.begin registered true op).turn registered).poll registered _

theorem run (h : Timely b c) (ops : List Operation) : Timely b (c.run ops).2 := by
  induction ops generalizing c with
  | nil => exact h
  | cons op ops ih => exact ih (h.runOne registered op)

omit registered in
theorem landsAt_turn (reachable : Reachable b) (h : Timely b c) {n : Nat}
    {r : Except LoadFailure Served} (before : c.result? n = none)
    (ended : c.turn.result? n = some r) : LandsAt b n r c.turn.now := by
  have here := reachable.steps h.steps
  have punctual := (h.punctual reachable.registered).turn
  obtain ⟨x, y, first, step, lands, rest⟩ :=
    here.flight.lands_of_steps (steps_turn here.registered) before ended
  have early := now_le_of_steps first
  have late := now_le_of_steps rest
  have now := lands.now
  have still := now_turn c
  have arrived : Timely b x :=
    h.trans_steps first (by omega) (punctual.of_steps (.head step rest) (by omega))
  exact ⟨x, y, arrived, step, arrived.step step now (punctual.of_steps rest (by omega)), lands,
    by omega⟩

end Timely

theorem Reachable.timers_ne_nil (reachable : Reachable c) (quiet : c.loadStep? = none) {n : Nat}
    (flying : c.state.inFlight = some n) : c.timers ≠ [] := by
  obtain ⟨s, hs, -, running⟩ := reachable.flight.inFlight_iff.1 flying
  have still := (loadStep?_eq_none_iff.1 quiet).1
  intro idle
  obtain ⟨sequences, calls⟩ := List.append_eq_nil_iff.1 idle
  have timers : s.timers = [] := List.flatMap_eq_nil_iff.1 sequences s hs
  cases reachable.flight.fits s hs with
  | resting phase _ left => simp [Sequence.timers, Phase.timers, phase, left] at timers
  | @awaiting _ k phase _ hk =>
    have awaited : k.timers = [] := List.flatMap_eq_nil_iff.1 calls k hk
    cases ending : k.ending with
    | none => simp [Call.timers, ending] at awaited
    | some r =>
      refine splitFirst_ne_none hs ?_ still
      simp [move?, phase, reachable.registered.call? hk, ending]
  | ended phase => exact absurd phase (running _)

section

variable {n : Nat}

theorem poll_loading_of_none (unfinished : c.result? n = none) :
    c.poll (.loading n) = (.loading n, c) := by
  simp [poll, unfinished]

theorem poll_loading_of_some {r : Except LoadFailure Served} (ended : c.result? n = some r) :
    c.poll (.loading n) = (.done (.loaded r), c) := by
  simp [poll, ended]

theorem Flight.inFlight_steps (h : Flight c) (flying : c.state.inFlight = some n)
    (steps : Steps c d) (unfinished : d.result? n = none) : d.state.inFlight = some n := by
  induction steps with
  | refl => exact flying
  | @tail d e before step ih =>
    have flight := h.steps before
    cases earlier : d.result? n with
    | some r =>
      cases unfinished.symm.trans (flight.result?_steps earlier (.single step))
    | none =>
      rcases step.rests_or_lands flight with rests | ⟨m, r, lands⟩
      · exact rests.inFlight n (ih earlier)
      · obtain rfl := Option.some.inj (lands.flying.symm.trans (ih earlier))
        cases unfinished.symm.trans lands.result

theorem Timely.await_loading (reachable : Reachable b) (h : Timely b c)
    (quiet : c.loadStep? = none) (unfinished : c.result? n = none)
    (flying : c.state.inFlight = some n) :
    ∃ r, LandsAt b n r (c.await (.loading n)).2.now ∧
      (c.await (.loading n)).1 = some (.loaded r) := by
  have registered := reachable.registered
  generalize task : Task.loading n = t
  fun_induction Client.await c t with
  | case1 c t r done =>
    cases task
    cases done
  | case2 c t waiting idle =>
    have timers := (alike_settle quiet).timers
    -- a load in flight always has something to wait for
    refine absurd ?_ ((reachable.steps h.steps).timers_ne_nil quiet flying)
    rw [← timers]
    exact List.append_eq_nil_iff.1 (List.min?_eq_none_iff.1 idle) |>.1
  | case3 c t waiting x found next less settled ih =>
    subst task
    have later := h.waitFor_settle registered found
    have still : (c.settle.waitFor x).result? n = none :=
      (congrFun (alike_settle quiet).result? n).trans unfinished
    have arrives : settled = (c.settle.waitFor x).turn.poll (.loading n) := by
      change (c.settle.waitFor x).atInstant (.loading n) = _
      simp [Client.atInstant, poll_loading_of_none still, Task.reply?]
    cases ended : (c.settle.waitFor x).turn.result? n with
    | some r =>
      rw [arrives, poll_loading_of_some ended, await_of_done rfl]
      exact ⟨r, landsAt_turn reachable later still ended, rfl⟩
    | none =>
      rw [arrives, poll_loading_of_none ended] at ih ⊢
      have turned := later.turn registered
      have here := reachable.steps h.steps
      have waited : Steps c (c.settle.waitFor x) := (steps_settle here.registered).tail (.wait x)
      have steps := waited.trans (steps_turn (registered.steps later.steps))
      exact ih turned (loadStep?_turn _) ended (here.flight.inFlight_steps flying steps ended) rfl

theorem Timely.runOne_load (reachable : Reachable b) (h : Timely b c)
    (flying : c.state.inFlight = some n) :
    ∃ r, LandsAt b n r (c.runOne .load).1.returnedAt ∧
      (c.runOne .load).1.reply = some (.loaded r) := by
  have registered := reachable.registered
  have here := reachable.steps h.steps
  have begun : c.begin true .load = (.loading n, c) := by
    simp [Client.begin, joinLoad_of_inFlight flying]
  have started : c.start .load = c.turn.poll (.loading n) := by
    simp [start, begun, Task.reply?]
  have unfinished : c.result? n = none := by
    obtain ⟨s, hs, rfl, running⟩ := here.flight.inFlight_iff.1 flying
    exact here.flight.result?_of_running hs running
  change ∃ r, LandsAt b n r ((c.start .load).2.await (c.start .load).1).2.now ∧
    ((c.start .load).2.await (c.start .load).1).1 = some (.loaded r)
  rw [started]
  cases ended : c.turn.result? n with
  | some r =>
    rw [poll_loading_of_some ended, await_of_done rfl]
    exact ⟨r, landsAt_turn reachable h unfinished ended, rfl⟩
  | none =>
    rw [poll_loading_of_none ended]
    have goesOn := here.flight.inFlight_steps flying (steps_turn here.registered) ended
    exact (h.turn registered).await_loading reachable (loadStep?_turn c) ended goesOn

end

end FeatureFlags.Client
