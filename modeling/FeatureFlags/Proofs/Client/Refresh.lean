import FeatureFlags.Proofs.Client.Live

namespace FeatureFlags.Client

structure Returns (c : Client) (inTurn : Bool) (q : Inquiry) (used : Served) (p : Task × Client) :
    Prop where
  answer : p = c.answer inTurn q (some used)
  done : p.1.reply?.isSome
  alike : Alike c p.2
  served : c.state.specification = some used

def Loads (c : Client) (used : Served) (d : Client) : Prop :=
  ∃ x n y, Steps c x ∧ Step x y ∧ Lands x n (.ok used) y ∧ Steps y d

def Since (c : Client) (old : Served) (d : Client) (used : Served) : Prop :=
  used = old ∨ Loads c used d

structure Joins (c : Client) (n : Nat) (b : Client) : Prop where
  now : b.now = c.now
  flying : b.state.inFlight = some n
  one : ∃! s, s ∈ b.sequences ∧ s.Running
  old : ∀ m, c.state.inFlight = some m → n = m ∧ b.sequences = c.sequences
  new : c.state.inFlight = none → ∃ s, b.sequences = c.sequences ++ [s]

structure Waits (c : Client) (old : Served) (inTurn : Bool) (q : Inquiry) (n limit : Nat)
    (b : Task × Client) (d : Client) : Prop where
  inTime : d.now ≤ limit
  returns : (d.poll b.1).1.reply?.isSome ↔ (d.result? n).isSome ∨ d.now = limit
  ended : ∀ r, d.result? n = some r → EndedNow b.1 b.2 n r d
  answers : (d.poll b.1).1.reply?.isSome →
    ∃ used, Returns d inTurn q used (d.poll b.1) ∧ Since c old d used
  goesOn : (d.poll b.1).1.reply? = none →
    Live b.1 b.2 (d.waitFor limit) ∧ ((d.waitFor limit).poll b.1).1.reply?.isSome

structure Refreshes (c : Client) (current : Served) (inTurn : Bool) (q : Inquiry) (n : Nat)
    (b : Task × Client) : Prop where
  joins : Joins c n b.2
  returns : c.config.refreshWait ≤ 0 ∨ (∃ m e, c.result? m = some (.error e)) →
    Returns c.joinLoad.2 inTurn q current b
  waits : 0 < c.config.refreshWait → (∀ m e, c.result? m ≠ some (.error e)) →
    ∀ d, Live b.1 b.2 d → Waits c current inTurn q n (c.now + c.config.refreshWait.toNat) b d

structure Opens (c : Client) (inTurn : Bool) (q : Inquiry) (n : Nat) (b : Task × Client) :
    Prop where
  joins : Joins c n b.2
  fallsBack : (∃ m e, c.result? m = some (.error e)) → b = c.joinLoad.2.answer inTurn q none
  waits : (∀ m e, c.result? m ≠ some (.error e)) → ∀ d, Steps b.2 d →
    d.result? n = none ∧ d.poll b.1 = (b.1, d) ∨
      ∃ r, d.result? n = some r ∧ d.poll b.1 = d.answer inTurn q r.toOption ∧
        ∀ used, r = .ok used → Loads c used d

/-- How an evaluation goes: from a fresh specification, from a stale one, and without any. -/
structure Gated (c : Client) (inTurn : Bool) (q : Inquiry) : Prop where
  fresh : ∀ current loadedAt, c.state.specification = some current →
    c.state.loadedAt = some loadedAt → 0 ≤ c.config.cacheStaleTime →
      (c.now : Int) - loadedAt ≤ c.config.cacheStaleTime →
        Returns c inTurn q current (c.begin inTurn (.evaluate q))
  stale : ∀ current loadedAt, c.state.specification = some current →
    c.state.loadedAt = some loadedAt →
      c.config.cacheStaleTime < 0 ∨ c.config.cacheStaleTime < (c.now : Int) - loadedAt →
        ∃ n, Refreshes c current inTurn q n (c.begin inTurn (.evaluate q))
  opens : c.state.specification = none → ∃ n, Opens c inTurn q n (c.begin inTurn (.evaluate q))
  runs : c.state.specification.isSome →
    let b := c.begin true (.evaluate q)
    ∃ d, Live b.1 b.2 d ∧ (d.poll b.1).1.reply?.isSome ∧
      (c.runOne (.evaluate q)).1.reply = (d.poll b.1).1.reply? ∧
      (c.runOne (.evaluate q)).1.returnedAt = d.now

variable {c d : Client}

theorem reply?_answer (c : Client) (inTurn : Bool) (q : Inquiry) (served : Option Served) :
    (c.answer inTurn q served).1.reply?.isSome := by
  cases q <;> rfl

theorem returns_answer (inTurn : Bool) (q : Inquiry) {used : Served}
    (served : c.state.specification = some used) :
    Returns c inTurn q used (c.answer inTurn q (some used)) :=
  ⟨rfl, reply?_answer .., alike_answer c inTurn q _, served⟩

theorem Flight.since (h : Flight c) {old : Served} (served : c.state.specification = some old)
    (steps : Steps c d) : ∃ used, d.state.specification = some used ∧ Since c old d used := by
  induction steps with
  | refl => exact ⟨old, served, .inl rfl⟩
  | @tail d e before step ih =>
    obtain ⟨used, current, since⟩ := ih
    have later : Since c old e used := by
      refine since.imp_right ?_
      rintro ⟨x, n, y, start, landing, lands, rest⟩
      exact ⟨x, n, y, start, landing, lands, rest.tail step⟩
    rcases step.rests_or_lands (h.steps before) with rests | ⟨n, r, lands⟩
    · exact ⟨used, rests.specification.trans current, later⟩
    · rw [lands.state]
      cases r with
      | ok loaded => exact ⟨loaded, rfl, .inr ⟨d, n, e, before, step, lands, .refl⟩⟩
      | error failure => exact ⟨used, current, later⟩

theorem Dated.isFresh_iff (h : Dated c) {l : Nat} (loaded : c.state.loadedAt = some l) :
    c.isFresh ↔ 0 ≤ c.config.cacheStaleTime ∧ (c.now : Int) - l ≤ c.config.cacheStaleTime := by
  have past := h.loadedAt l loaded
  unfold isFresh Config.staleTime?
  rw [loaded]
  by_cases sign : 0 ≤ c.config.cacheStaleTime
  · simp only [sign, if_true, decide_eq_true_eq, true_and]
    omega
  · simp [sign]

theorem inquire_cases {current : Served} (served : c.state.specification = some current)
    (inTurn : Bool) (q : Inquiry) :
    c.isFresh ∧ c.inquire inTurn q = c.answer inTurn q (some current) ∨
    ¬ c.isFresh ∧ (c.config.refreshWait ≤ 0 ∨ c.state.loadFailedAt.isSome) ∧
      c.inquire inTurn q = c.joinLoad.2.answer inTurn q (some current) ∨
    ¬ c.isFresh ∧ 0 < c.config.refreshWait ∧ c.state.loadFailedAt = none ∧
      c.inquire inTurn q =
        (.refreshing c.joinLoad.1 (c.now + c.config.refreshWait.toNat) current q inTurn,
          c.joinLoad.2) := by
  unfold inquire Config.refreshWait?
  rw [served]
  by_cases fresh : c.isFresh
  · simp [fresh]
  · by_cases patient : 0 < c.config.refreshWait
    · cases failed : c.state.loadFailedAt <;> simp [fresh, patient]
    · simp [fresh, patient, Int.not_lt.1 patient]

theorem Flight.joins (h : Flight c) (same : Alike c.joinLoad.2 d) : Joins c c.joinLoad.1 d := by
  have flight : Flight d := (h.step (.begin true .load)).alike same
  have flying : d.state.inFlight = some c.joinLoad.1 := by rw [same.state, inFlight_joinLoad]
  constructor
  · rw [same.now, now_joinLoad]
  · exact flying
  · obtain ⟨s, hs, -, running⟩ := flight.inFlight_iff.1 flying
    exact ⟨s, ⟨hs, running⟩, fun t ht => flight.eq_of_running ht.1 hs ht.2 running⟩
  · intro m inFlight
    rw [same.sequences, joinLoad_of_inFlight inFlight]
    exact ⟨rfl, rfl⟩
  · intro free
    exact ⟨_, by rw [same.sequences, joinLoad_of_free free]⟩

section

variable {n limit : Nat} {current : Served} {q : Inquiry} {inTurn : Bool}

theorem poll_of_ready (ready : (d.result? n).isSome ∨ limit ≤ d.now) :
    d.poll (.refreshing n limit current q inTurn) =
      d.answer inTurn q (some (d.state.specification.getD current)) := by
  rw [poll, if_pos (by simpa using ready)]

theorem poll_of_unready (unready : ¬ ((d.result? n).isSome ∨ limit ≤ d.now)) :
    d.poll (.refreshing n limit current q inTurn) = (.refreshing n limit current q inTurn, d) := by
  rw [poll, if_neg (by simpa using unready)]

theorem bounded_refreshing : (Task.refreshing n limit current q inTurn).Bounded n limit := by
  refine ⟨rfl, rfl, fun d => ?_, fun d waiting => ?_⟩
  · by_cases ready : (d.result? n).isSome ∨ limit ≤ d.now
    · rw [poll_of_ready ready]
      simpa only [ready, iff_true] using reply?_answer ..
    · rw [poll_of_unready ready]
      simp [ready, Task.reply?]
  · apply poll_of_unready
    intro ready
    rw [poll_of_ready ready] at waiting
    exact absurd waiting (Option.isSome_iff_ne_none.1 (reply?_answer ..))

theorem Flight.waits (h : Flight c) (served : c.state.specification = some current)
    (start : c.now ≤ limit)
    (live : Live (.refreshing c.joinLoad.1 limit current q inTurn) c.joinLoad.2 d) :
    Waits c current inTurn q c.joinLoad.1 limit
      (.refreshing c.joinLoad.1 limit current q inTurn, c.joinLoad.2) d := by
  have joining : Step c c.joinLoad.2 := .begin true .load
  obtain ⟨used, latest, since⟩ := h.since served (.head joining live.steps)
  obtain ⟨inTime, ended⟩ := live.bounded bounded_refreshing (h.step joining) (inFlight_joinLoad c)
    ((now_joinLoad c).trans_le start)
  refine ⟨inTime, ?_, ended, ?_, ?_⟩
  · have limited : d.now = limit ↔ limit ≤ d.now := by omega
    rw [limited, ← bounded_refreshing.replies]
  · intro replied
    refine ⟨used, ?_, since⟩
    rw [poll_of_ready ((bounded_refreshing.replies d).1 replied), latest]
    exact returns_answer inTurn q latest
  · intro waiting
    refine ⟨live.pass waiting (by simp [Task.timers]), ?_⟩
    exact (bounded_refreshing.replies _).2 (.inr (Nat.le_max_right ..))

theorem begin_evaluate_cases (served : c.state.specification = some current) (inTurn : Bool)
    (q : Inquiry) : (c.begin inTurn (.evaluate q)).1.reply?.isSome ∨
      ∃ n limit, (c.begin inTurn (.evaluate q)).1.Bounded n limit := by
  rw [begin]
  rcases inquire_cases served inTurn q with ⟨-, same⟩ | ⟨-, -, same⟩ | ⟨-, -, -, same⟩
  · exact .inl (same ▸ reply?_answer ..)
  · exact .inl (same ▸ reply?_answer ..)
  · rw [same]
    exact .inr ⟨_, _, bounded_refreshing⟩

end

theorem Flight.loads (h : Flight c) {used : Served} {n : Nat} (steps : Steps c d)
    (before : c.result? n = none) (ended : d.result? n = some (.ok used)) : Loads c used d := by
  obtain ⟨x, y, start, landing, lands, rest⟩ := h.lands_of_steps steps before ended
  exact ⟨x, n, y, start, landing, lands, rest⟩

theorem Flight.opens (h : Flight c) (dated : Dated c) (unserved : c.state.specification = none)
    (inTurn : Bool) (q : Inquiry) :
    Opens c inTurn q c.joinLoad.1 (c.begin inTurn (.evaluate q)) := by
  have joining : Step c c.joinLoad.2 := .begin true .load
  have unfinished : c.result? c.joinLoad.1 = none := by
    have flight := h.step joining
    obtain ⟨s, hs, number, running⟩ := flight.inFlight_iff.1 (inFlight_joinLoad c)
    rw [← h.rests_joinLoad.results, ← number, flight.result?_of_running hs running]
  rw [begin, inquire, unserved]
  cases failed : c.state.loadFailedAt with
  | some instant =>
    refine ⟨h.joins (alike_answer ..), fun _ => rfl, fun unfailed => ?_⟩
    obtain ⟨m, e, failure⟩ := dated.loadFailedAt.1 (failed ▸ rfl)
    exact absurd failure (unfailed m e)
  | none =>
    refine ⟨h.joins (.refl _), fun failure => ?_, fun _ d steps => ?_⟩
    · simp [← dated.loadFailedAt, failed] at failure
    change (_ ∧ d.poll (.awaiting c.joinLoad.1 q inTurn) = (.awaiting c.joinLoad.1 q inTurn, d)) ∨
      ∃ r, _ ∧ d.poll (.awaiting c.joinLoad.1 q inTurn) = _ ∧ _
    rw [poll]
    cases ended : d.result? c.joinLoad.1 with
    | none => exact .inl ⟨rfl, rfl⟩
    | some r =>
      refine .inr ⟨r, rfl, rfl, ?_⟩
      rintro used rfl
      exact h.loads (.head joining steps) unfinished ended

theorem Flight.refreshes (h : Flight c) (dated : Dated c) {current : Served}
    (served : c.state.specification = some current) (stale : ¬ c.isFresh) (inTurn : Bool)
    (q : Inquiry) :
    Refreshes c current inTurn q c.joinLoad.1 (c.begin inTurn (.evaluate q)) := by
  have kept : c.joinLoad.2.state.specification = some current :=
    h.rests_joinLoad.specification.trans served
  rw [begin]
  rcases (inquire_cases served inTurn q).resolve_left (by simp [stale]) with
    ⟨-, impatient, same⟩ | ⟨-, patient, unfailed, same⟩
  · rw [same]
    refine ⟨h.joins (alike_answer ..), fun _ => returns_answer inTurn q kept, ?_⟩
    intro patient unfailed
    rcases impatient with impatient | failed
    · omega
    · obtain ⟨m, e, failure⟩ := dated.loadFailedAt.1 failed
      exact absurd failure (unfailed m e)
  · rw [same]
    refine ⟨h.joins (.refl _), ?_, fun _ _ d live => ?_⟩
    · rintro (impatient | failed)
      · omega
      · simp [unfailed, ← dated.loadFailedAt] at failed
    · exact h.waits served (Nat.le_add_right ..) live

theorem gated_of_reachable (reachable : Reachable c) (inTurn : Bool) (q : Inquiry) :
    Gated c inTurn q := by
  have h := reachable.flight
  have dated := reachable.dated
  constructor
  · intro current loadedAt served loaded bounded young
    have fresh := (dated.isFresh_iff loaded).2 ⟨bounded, young⟩
    obtain ⟨-, same⟩ := (inquire_cases served inTurn q).resolve_right (by simp [fresh])
    rw [begin, same]
    exact returns_answer inTurn q served
  · intro current loadedAt served loaded old
    refine ⟨_, h.refreshes dated served (fun fresh => ?_) inTurn q⟩
    obtain ⟨bounded, young⟩ := (dated.isFresh_iff loaded).1 fresh
    omega
  · exact fun unserved => ⟨_, h.opens dated unserved inTurn q⟩
  · intro served
    obtain ⟨current, served⟩ := Option.isSome_iff_exists.1 served
    exact live_runOne reachable.registered _ (begin_evaluate_cases served true q)

theorem gated_dependent : Gated dependent true (.all .empty) ∧
    dependent.state.specification.isSome ∧ dependent.state.loadedAt = some 0 ∧
      dependent.config.cacheStaleTime < (dependent.now : Int) - (0 : Nat) ∧
        0 < dependent.config.refreshWait ∧ ∀ n e, dependent.result? n ≠ some (.error e) := by
  refine ⟨gated_of_reachable reachable_dependent true (.all .empty), by decide +kernel,
    by decide +kernel, by decide +kernel, by decide +kernel, fun n e failed => ?_⟩
  have remembered := reachable_dependent.dated.loadFailedAt.2 ⟨n, e, failed⟩
  exact absurd remembered (by decide +kernel)

end FeatureFlags.Client
