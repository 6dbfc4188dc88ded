import FeatureFlags.Proofs.Client.Akin
import FeatureFlags.Proofs.Client.Refresh

namespace FeatureFlags.Client

variable {c : Client} {x : Nat}

theorem Task.gather_eq_joined_iff {ts us : List Task} :
    gather ts = .joined us ↔ ts.mapM reply? = none ∧ ts = us := by
  unfold gather
  cases ts.mapM reply? <;> simp

theorem Task.gather_cases (ts : List Task) :
    (∃ r, gather ts = .done r) ∨ gather ts = .joined ts := by
  unfold gather
  split
  · exact .inl ⟨_, rfl⟩
  · exact .inr rfl

theorem Task.eq_done_of_reply? {t : Task} {r : Reply} (done : t.reply? = some r) :
    t = .done r := by
  cases t <;> simp_all [reply?]

theorem Task.limit_of_early {now deadline : Nat} {t : Task} (undone : t.reply? = none)
    (early : now < deadline) : t.limit now deadline = .limited deadline t := by
  unfold limit
  split
  · cases undone
  · exact if_neg (Nat.not_le_of_lt early)

theorem Task.limit_of_late {now deadline : Nat} {t : Task} (undone : t.reply? = none)
    (late : deadline ≤ now) : t.limit now deadline = .done .gaveUp := by
  unfold limit
  split
  · cases undone
  · exact if_pos late

theorem Task.limit_cases (now deadline : Nat) (t : Task) :
    (∃ r, t.limit now deadline = .done r) ∨
      t.limit now deadline = .limited deadline t ∧ t.reply? = none ∧ now < deadline := by
  cases reply : t.reply? with
  | some r =>
    rw [eq_done_of_reply? reply]
    exact .inl ⟨r, rfl⟩
  | none =>
    rcases Nat.lt_or_ge now deadline with early | late
    · exact .inr ⟨limit_of_early reply early, rfl, early⟩
    · exact .inl ⟨.gaveUp, limit_of_late reply late⟩

theorem done_answer (c : Client) (inTurn : Bool) (q : Inquiry) (served : Option Served) :
    ∃ r, (c.answer inTurn q served).1 = .done r := by
  cases q <;> exact ⟨_, rfl⟩

mutual

theorem poll_poll (c : Client) : (t : Task) → ((c.poll t).2.poll (c.poll t).1).1 = (c.poll t).1
  | .done _ => rfl
  | .napping wake => by
    by_cases due : wake ≤ c.now <;> simp [poll, due]
  | .loading n => by
    cases ended : c.result? n <;> simp [poll, ended]
  | .awaiting n q inTurn => by
    cases ended : c.result? n with
    | none => simp [poll, ended]
    | some r =>
      obtain ⟨reply, done⟩ := done_answer c inTurn q r.toOption
      simp [poll, ended, done]
  | .refreshing n deadline current q inTurn => by
    by_cases ready : (c.result? n).isSome ∨ deadline ≤ c.now
    · obtain ⟨reply, done⟩ := done_answer c inTurn q (some (c.state.specification.getD current))
      rw [poll_of_ready ready, done, poll]
    · rw [poll_of_unready ready, poll_of_unready ready]
  | .joined ts => by
    have same : ((c.poll (.joined ts)).2.pollAll (c.pollAll ts).1).1 = (c.pollAll ts).1 :=
      pollAll_pollAll c ts
    rw [show (c.poll (.joined ts)).1 = Task.gather (c.pollAll ts).1 by rw [poll]]
    rcases Task.gather_cases (c.pollAll ts).1 with ⟨r, done⟩ | waiting
    · rw [done, poll]
    · rw [waiting, poll, same, waiting]
  | .limited deadline t => by
    have same : ((c.poll (.limited deadline t)).2.poll (c.poll t).1).1 = (c.poll t).1 :=
      poll_poll c t
    have now : (c.poll (.limited deadline t)).2.now = c.now := (alike_poll c _).now
    rw [show (c.poll (.limited deadline t)).1 = (c.poll t).1.limit c.now deadline by rw [poll]]
    rcases Task.limit_cases c.now deadline (c.poll t).1 with ⟨r, done⟩ | ⟨waiting, -⟩
    · rw [done, poll]
    · rw [waiting, poll, same, now, waiting]

theorem pollAll_pollAll (c : Client) : (ts : List Task) →
    ((c.pollAll ts).2.pollAll (c.pollAll ts).1).1 = (c.pollAll ts).1
  | [] => rfl
  | t :: ts => by
    have first := poll_poll c t
    have rest := pollAll_pollAll (c.poll t).2 ts
    -- the tasks after the first one are polled in between, which changes no more than events
    have later : Akin (c.poll t).2 ((c.poll t).2.pollAll ts).2 := .of_alike (alike_pollAll _ ts)
    have again : Akin ((c.poll t).2.pollAll ts).2
        (((c.poll t).2.pollAll ts).2.poll (c.poll t).1).2 := .of_alike (alike_poll ..)
    rw [pollAll]
    dsimp only
    rw [pollAll]
    dsimp only
    rw [(later.poll _).value, first, (again.pollAll _).value, rest]

end

mutual

theorem poll_waitFor (c : Client) {x : Nat} : (t : Task) → (∀ y ∈ t.timers, x < y) →
    (c.poll t).1 = t → ((c.waitFor x).poll t).1 = t
  | .done _, _, _ => rfl
  | .napping wake, early, waits => by
    have := early wake (by simp [Task.timers])
    by_cases due : wake ≤ c.now
    · simp [poll, due] at waits
    · have : ¬ wake ≤ max c.now x := by omega
      simp [poll, waitFor, this]
  | .loading n, _, waits => by
    cases ended : c.result? n with
    | none =>
      have ended' : (c.waitFor x).result? n = none := ended
      simp [poll, ended']
    | some r => simp [poll, ended] at waits
  | .awaiting n q inTurn, _, waits => by
    cases ended : c.result? n with
    | none =>
      have ended' : (c.waitFor x).result? n = none := ended
      simp [poll, ended']
    | some r =>
      obtain ⟨reply, done⟩ := done_answer c inTurn q r.toOption
      simp [poll, ended, done] at waits
  | .refreshing n deadline current q inTurn, early, waits => by
    by_cases ready : (c.result? n).isSome ∨ deadline ≤ c.now
    · obtain ⟨reply, done⟩ := done_answer c inTurn q (some (c.state.specification.getD current))
      rw [poll_of_ready ready, done] at waits
      cases waits
    · have later := early deadline (by simp [Task.timers])
      rw [not_or, Nat.not_le] at ready
      have unready : ¬ (((c.waitFor x).result? n).isSome ∨ deadline ≤ (c.waitFor x).now) :=
        not_or.2 ⟨ready.1, Nat.not_le.2 (Nat.max_lt.2 ⟨ready.2, later⟩)⟩
      rw [poll_of_unready unready]
  | .joined ts, early, waits => by
    rw [poll] at waits ⊢
    obtain ⟨undone, same⟩ := Task.gather_eq_joined_iff.1 waits
    rw [same] at undone
    have still := pollAll_waitFor c ts (by simpa only [Task.timers] using early) same
    exact Task.gather_eq_joined_iff.2 ⟨still.symm ▸ undone, still⟩
  | .limited deadline t, early, waits => by
    rw [poll] at waits ⊢
    rw [Task.timers, List.forall_mem_cons] at early
    rcases Task.limit_cases c.now deadline (c.poll t).1 with ⟨r, done⟩ | ⟨waiting, undone, now⟩
    · cases done.symm.trans waits
    · have same : (c.poll t).1 = t := by
        have := waiting.symm.trans waits
        simpa using this
      have still := poll_waitFor c t early.2 same
      rw [same] at undone
      simp only [still]
      exact Task.limit_of_early undone (Nat.max_lt.2 ⟨now, early.1⟩)

theorem pollAll_waitFor (c : Client) {x : Nat} : (ts : List Task) →
    (∀ y ∈ Task.allTimers ts, x < y) → (c.pollAll ts).1 = ts → ((c.waitFor x).pollAll ts).1 = ts
  | [], _, _ => rfl
  | t :: ts, early, waits => by
    rw [Task.allTimers, List.forall_mem_append] at early
    rw [pollAll] at waits ⊢
    obtain ⟨first, rest⟩ := List.cons.inj waits
    have still := poll_waitFor c t early.1 first
    have others := pollAll_waitFor (c.poll t).2 ts early.2 rest
    have same : Akin ((c.poll t).2.waitFor x) ((c.waitFor x).poll t).2 :=
      ((Akin.of_alike (alike_poll c t)).symm.waitFor x).trans (.of_alike (alike_poll _ t))
    dsimp only
    rw [still, (same.pollAll ts).value, others]

end

theorem splitFirst_eq_none_iff {f : α → Option β} {as : List α} :
    splitFirst f as = none ↔ ∀ a ∈ as, f a = none := by
  induction as with
  | nil => simp [splitFirst]
  | cons a as ih =>
    unfold splitFirst
    cases found : f a with
    | none => simp [found, ih]
    | some b => simp [found]

theorem move?_waitFor {s : Sequence} (quiet : c.move? s = none) (early : ∀ y ∈ s.timers, x < y) :
    (c.waitFor x).move? s = none := by
  have now : (c.waitFor x).now = max c.now x := rfl
  have calls : (c.waitFor x).call? = c.call? := rfl
  unfold Sequence.timers Phase.timers at early
  unfold move? at quiet ⊢
  rw [now, calls]
  cases phase : s.phase with
  | ended r => rfl
  | resting wake =>
    simp only [phase] at quiet early ⊢
    by_cases last : s.triesLeft = 0
    · simp [last]
    · have later : x < wake := early wake (by simp [last])
      have unready : c.now < wake := by simpa [last] using quiet
      simp [later, unready]
  | awaiting call token deadline =>
    simp only [phase] at quiet early ⊢
    cases returned : (c.call? call).bind (·.ending) with
    | some r => simp [returned] at quiet
    | none =>
      cases deadline with
      | none => rfl
      | some d =>
        have later : x < d := early d (.head _)
        have unready : c.now < d := by simpa [returned] using quiet
        simp [later, unready]

theorem due?_waitFor {k : Call} {now : Nat} (quiet : k.due? now = none)
    (early : ∀ y ∈ k.timers, x < y) : k.due? (max now x) = none := by
  unfold Call.timers at early
  unfold Call.due? at quiet ⊢
  by_cases running : k.ending.isNone
  · have later : x < k.endsAt := early k.endsAt (by simp [running])
    have unready : now < k.endsAt := by simpa [running] using quiet
    simp [later, unready]
  · simp [running]

theorem loadStep?_waitFor (quiet : c.loadStep? = none) (early : ∀ y ∈ c.timers, x < y) :
    (c.waitFor x).loadStep? = none := by
  rw [loadStep?_eq_none_iff, splitFirst_eq_none_iff, splitFirst_eq_none_iff] at quiet ⊢
  refine ⟨fun s hs => ?_, fun k hk => ?_⟩
  · exact move?_waitFor (quiet.1 s hs) fun y hy =>
      early y (List.mem_append_left _ (List.mem_flatMap.2 ⟨s, hs, hy⟩))
  · exact due?_waitFor (quiet.2 k hk) fun y hy =>
      early y (List.mem_append_right _ (List.mem_flatMap.2 ⟨k, hk, hy⟩))

end FeatureFlags.Client
