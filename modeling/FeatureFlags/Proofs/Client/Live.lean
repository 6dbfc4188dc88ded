import FeatureFlags.Proofs.Client.Landing
import Mathlib.Data.Option.Basic

namespace FeatureFlags.Client

inductive Live (t : Task) (c : Client) : Client → Prop
  | refl : Live t c c
  | step : Live t c d → Step d e → e.now = d.now → Live t c e
  | pass : Live t c d → (d.poll t).1.reply? = none → (∀ y ∈ t.timers, x ≤ y) →
    Live t c (d.waitFor x)

def EndedNow (t : Task) (b : Client) (n : Nat) (r : Except LoadFailure Served) (d : Client) :
    Prop :=
  ∃ x y, Live t b x ∧ Step x y ∧ Lands x n r y ∧ Live t y d ∧ y.now = d.now

/-- A task replies once a sequence has ended or at a limit, and waits as it is until then. -/
structure Task.Bounded (t : Task) (n limit : Nat) : Prop where
  undone : t.reply? = none
  timers : t.timers = [limit]
  replies : ∀ d : Client, (d.poll t).1.reply?.isSome ↔ (d.result? n).isSome ∨ limit ≤ d.now
  waits : ∀ d : Client, (d.poll t).1.reply? = none → d.poll t = (t, d)

variable {b c d : Client} {t : Task}

theorem Live.steps (h : Live t c d) : Steps c d := by
  induction h with
  | refl => exact .refl
  | step _ step _ ih => exact ih.tail step
  | pass _ _ _ ih => exact ih.tail (.wait _)

theorem Effect.now_le (h : Effect c d) : c.now ≤ d.now := by
  cases h with
  | join free => rw [joinLoad_of_free free]
  | wait x => exact Nat.le_max_left ..
  | _ => exact Nat.le_refl _

theorem Step.now_le (h : Step c d) : c.now ≤ d.now := by
  obtain ⟨e, effect, same⟩ := h.effect
  exact same.now ▸ effect.now_le

theorem now_le_of_steps (steps : Steps c d) : c.now ≤ d.now := by
  induction steps with
  | refl => exact Nat.le_refl _
  | tail _ step ih => exact Nat.le_trans ih step.now_le

theorem Live.trans_steps (h : Live t b c) (steps : Steps c d) (same : d.now = c.now) :
    Live t b d := by
  induction steps with
  | refl => exact h
  | @tail d e before step ih =>
    have early := now_le_of_steps before
    have late := step.now_le
    exact (ih (by omega)).step step (by omega)

theorem now_makeMove (c : Client) (s : Sequence) (m : Move) : (c.makeMove s m).2.now = c.now := by
  cases m with
  | tryNext => rfl
  | conclude call token r =>
    unfold makeMove afterFailure
    dsimp only
    split
    · exact (alike_install c _).now
    · split
      · exact (alike_dispatch ..).now
      · exact (alike_dispatch ..).now

theorem now_loadStep? (h : c.loadStep? = some d) : d.now = c.now := by
  rcases (Option.orElse_eq_some _ _ _).1 h with moved | ⟨-, ended⟩
  · obtain ⟨before, s, after, m, -, -, rfl⟩ := of_moveSequence? moved
    exact now_makeMove c s m
  · obtain ⟨split, -, rfl⟩ := Option.map_eq_some_iff.1 ended
    rfl

theorem now_loadAll (c : Client) : c.loadAll.now = c.now := by
  fun_induction loadAll c with
  | case1 => rfl
  | case2 c next found less ih => rw [ih, now_loadStep? found]

theorem now_turn (c : Client) : c.turn.now = c.now :=
  (now_loadAll c.deliver).trans (alike_deliver c).now

theorem Live.turn (h : Live t b c) (registered : Registered c) : Live t b c.turn :=
  h.trans_steps (steps_turn registered) (now_turn c)

theorem loadStep?_eq_none_iff : c.loadStep? = none ↔
    splitFirst c.move? c.sequences = none ∧ splitFirst (Call.due? c.now) c.calls = none := by
  rw [loadStep?, Option.orElse_eq_none, moveSequence?, endCall?, Option.map_eq_none_iff,
    Option.map_eq_none_iff]

theorem Alike.loadStep?_eq_none (h : Alike c d) (quiet : c.loadStep? = none) :
    d.loadStep? = none := by
  have move : d.move? = c.move? := by
    funext s
    simp only [move?, call?, h.now, h.calls, h.config]
  rw [loadStep?_eq_none_iff] at quiet ⊢
  rwa [move, h.sequences, h.calls, h.now]

theorem loadStep?_loadAll (c : Client) : c.loadAll.loadStep? = none := by
  fun_induction loadAll c with
  | case1 c quiet => exact quiet
  | case2 c next found less ih => exact ih

theorem loadStep?_turn (c : Client) : c.turn.loadStep? = none :=
  (alike_defer _).loadStep?_eq_none (loadStep?_loadAll _)

theorem alike_turn (quiet : c.loadStep? = none) : Alike c c.turn := by
  have same := alike_deliver c
  have idle : c.deliver.loadAll = c.deliver := by
    rw [loadAll]
    split
    · rfl
    · next found => cases (same.loadStep?_eq_none quiet).symm.trans found
  rw [turn, idle]
  exact same.trans (alike_defer _)

theorem alike_settle (quiet : c.loadStep? = none) : Alike c c.settle :=
  (alike_turn quiet).trans (alike_turn (loadStep?_turn c))

theorem poll_of_done {r : Reply} (done : t.reply? = some r) : c.poll t = (t, c) := by
  cases t <;> simp_all [Task.reply?, poll]

theorem await_of_done {r : Reply} (done : t.reply? = some r) : c.await t = (some r, c) := by
  rw [await]
  split <;> simp_all

theorem await_poll_of_done (done : (c.poll t).1.reply?.isSome) :
    ((c.poll t).2.await (c.poll t).1).1 = (c.poll t).1.reply? ∧
      ((c.poll t).2.await (c.poll t).1).2.now = c.now := by
  obtain ⟨r, reply⟩ := Option.isSome_iff_exists.1 done
  rw [await_of_done reply, reply]
  exact ⟨rfl, (alike_poll c t).now⟩

section

variable {n limit : Nat} (limited : t.Bounded n limit)

include limited

theorem Live.bounded (h : Live t b d) (flight : Flight b) (flying : b.state.inFlight = some n)
    (start : b.now ≤ limit) :
    d.now ≤ limit ∧ ∀ r, d.result? n = some r → EndedNow t b n r d := by
  induction h with
  | refl =>
    obtain ⟨s, hs, rfl, running⟩ := flight.inFlight_iff.1 flying
    exact ⟨start, fun r ended => by simp [flight.result?_of_running hs running] at ended⟩
  | @step d e live step same ih =>
    refine ⟨same.trans_le ih.1, fun r ended => ?_⟩
    cases before : d.result? n with
    | some r' =>
      have kept := (flight.steps live.steps).result?_steps before (.single step)
      obtain rfl := Option.some.inj (kept.symm.trans ended)
      obtain ⟨x, y, start, landing, lands, rest, now⟩ := ih.2 _ before
      exact ⟨x, y, start, landing, lands, rest.step step same, now.trans same.symm⟩
    | none =>
      have lands := (flight.steps live.steps).lands_of_result step before ended
      exact ⟨d, e, live, step, lands, .refl, rfl⟩
  | @pass d x live waiting early ih =>
    refine ⟨Nat.max_le.2 ⟨ih.1, early limit (by simp [limited.timers])⟩, fun r ended => ?_⟩
    -- the task would not have had to wait
    have result : d.result? n = some r := ended
    have ready := (limited.replies d).2 (.inl (by simp [result]))
    simp [waiting] at ready

theorem Task.Bounded.waits_of_alike (same : Alike c d) (waiting : (c.poll t).1.reply? = none) :
    (d.poll t).1.reply? = none := by
  rw [← Option.not_isSome_iff_eq_none, limited.replies] at waiting ⊢
  rwa [same.result?, same.now]

theorem Live.await (live : Live t b c) (registered : Registered c) (quiet : c.loadStep? = none)
    (waiting : (c.poll t).1.reply? = none) :
    ∃ d, Live t b d ∧ (d.poll t).1.reply?.isSome ∧ (c.await t).1 = (d.poll t).1.reply? ∧
      (c.await t).2.now = d.now := by
  fun_induction Client.await c t with
  | case1 c t r done => cases done.symm.trans limited.undone
  | case2 c t undone idle => simp [nextInstant?, limited.timers] at idle
  | case3 c t undone x found next less settled ih =>
    have steady := alike_settle quiet
    have earliest : ∀ y ∈ t.timers, x ≤ y := fun y hy =>
      (List.min?_eq_some_iff.1 found).2 y (List.mem_append_right _ hy)
    have arrived := (live.trans_steps (steps_settle registered) steady.now).pass
      (limited.waits_of_alike steady waiting) earliest
    have known : Registered (c.settle.waitFor x) :=
      registered.steps ((steps_settle registered).tail (.wait x))
    -- the task is polled at the new instant, and once more after a turn
    by_cases now : ((c.settle.waitFor x).poll t).1.reply?.isSome
    · have arrives : settled = (c.settle.waitFor x).poll t := if_pos now
      rw [arrives]
      exact ⟨_, arrived, now, await_poll_of_done now⟩
    have arrives : settled = (c.settle.waitFor x).turn.poll t := by
      refine (if_neg now).trans ?_
      rw [limited.waits _ (Option.not_isSome_iff_eq_none.1 now)]
    have turned := arrived.turn known
    by_cases late : ((c.settle.waitFor x).turn.poll t).1.reply?.isSome
    · rw [arrives]
      exact ⟨_, turned, late, await_poll_of_done late⟩
    · have waitsOn := Option.not_isSome_iff_eq_none.1 late
      rw [limited.waits _ waitsOn] at arrives
      rw [arrives] at ih ⊢
      exact ih limited turned (known.steps (steps_turn known)) (loadStep?_turn _) waitsOn

end

theorem runOne_of_done {op : Operation} (done : (c.begin true op).1.reply?.isSome) :
    (c.runOne op).1.reply = (c.begin true op).1.reply? ∧
      (c.runOne op).1.returnedAt = (c.begin true op).2.now := by
  obtain ⟨r, reply⟩ := Option.isSome_iff_exists.1 done
  have started : c.start op = c.begin true op := if_pos done
  change ((c.start op).2.await (c.start op).1).1 = _ ∧
    ((c.start op).2.await (c.start op).1).2.now = _
  rw [started, await_of_done reply, reply]
  exact ⟨rfl, rfl⟩

theorem live_runOne (registered : Registered c) (op : Operation)
    (waits : (c.begin true op).1.reply?.isSome ∨
      ∃ n limit, (c.begin true op).1.Bounded n limit) :
    let b := c.begin true op
    ∃ d, Live b.1 b.2 d ∧ (d.poll b.1).1.reply?.isSome ∧
      (c.runOne op).1.reply = (d.poll b.1).1.reply? ∧ (c.runOne op).1.returnedAt = d.now := by
  intro b
  by_cases done : b.1.reply?.isSome
  · obtain ⟨r, reply⟩ := Option.isSome_iff_exists.1 done
    have polled : b.2.poll b.1 = b := poll_of_done reply
    exact ⟨b.2, .refl, polled.symm ▸ done, polled.symm ▸ runOne_of_done done⟩
  change ∃ d, _ ∧ _ ∧ ((c.start op).2.await (c.start op).1).1 = _ ∧
    ((c.start op).2.await (c.start op).1).2.now = _
  have started : c.start op = b.2.turn.poll b.1 := if_neg done
  have known : Registered b.2 := registered.steps (.single (.begin true op))
  have turned : Live b.1 b.2 b.2.turn := Live.refl.turn known
  rw [started]
  by_cases late : (b.2.turn.poll b.1).1.reply?.isSome
  · exact ⟨_, turned, late, await_poll_of_done late⟩
  · obtain ⟨n, limit, bounded⟩ := waits.resolve_left done
    have waitsOn := Option.not_isSome_iff_eq_none.1 late
    rw [bounded.waits _ waitsOn]
    exact turned.await bounded (known.steps (steps_turn known)) (loadStep?_turn _) waitsOn

end FeatureFlags.Client
