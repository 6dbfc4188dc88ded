import FeatureFlags.Client.Operation

/-!
Running a client. Turns follow each other at one instant until everything waits; then time moves on to
the next instant at which something happens.
-/

namespace FeatureFlags.Client

/-- One turn: events that are due are handed over, loads go on, and events dispatched meanwhile become
due. -/
def turn (c : Client) : Client := c.deliver.loadAll.defer

def settle (c : Client) : Client := c.turn.turn

def Phase.timers (triesLeft : Nat) : Phase → List Nat
  | .resting wake => if triesLeft = 0 then [] else [wake]
  | .awaiting _ _ (some deadline) => [deadline]
  | .awaiting _ _ none => []
  | .ended _ => []

def Sequence.timers (s : Sequence) : List Nat := s.phase.timers s.triesLeft

def Call.timers (call : Call) : List Nat := if call.ending.isNone then [call.endsAt] else []

mutual

def Task.timers : Task → List Nat
  | .done _ => []
  | .napping wake => [wake]
  | .loading _ => []
  | .awaiting _ _ _ => []
  | .refreshing _ deadline _ _ _ => [deadline]
  | .joined ts => Task.allTimers ts
  | .limited deadline t => deadline :: t.timers

def Task.allTimers : List Task → List Nat
  | [] => []
  | t :: ts => t.timers ++ Task.allTimers ts

end

def timers (c : Client) : List Nat :=
  c.sequences.flatMap (·.timers) ++ c.calls.flatMap (·.timers)

def nextInstant? (c : Client) (t : Task) : Option Nat := (c.timers ++ t.timers).min?

mutual

def Task.pending : Task → Nat
  | .done _ => 0
  | .napping _ => 1
  | .loading _ => 1
  | .awaiting _ _ _ => 1
  | .refreshing _ _ _ _ _ => 1
  | .joined ts => Task.allPending ts + 1
  | .limited _ t => t.pending + 1

def Task.allPending : List Task → Nat
  | [] => 0
  | t :: ts => t.pending + Task.allPending ts

end

def atInstant (c : Client) (t : Task) : Task × Client :=
  let polled := c.poll t
  if polled.1.reply?.isSome then polled else polled.2.turn.poll polled.1

theorem work_turn_le (c : Client) : c.turn.work ≤ c.work := by
  have := c.deliver.work_loadAll_le
  rw [(alike_deliver c).work] at this
  rwa [turn, (alike_defer _).work]

theorem work_settle_le (c : Client) : c.settle.work ≤ c.work :=
  Nat.le_trans c.turn.work_turn_le c.work_turn_le

theorem Sequence.move?_of_timer {c : Client} {s : Sequence} {x : Nat} (h : x ∈ s.timers)
    (now : x ≤ c.now) : c.move? s ≠ none := by
  unfold Sequence.timers Phase.timers at h
  unfold move?
  split at h <;> grind

theorem Call.due?_of_timer {call : Call} {x now : Nat} (h : x ∈ call.timers) (le : x ≤ now) :
    call.due? now ≠ none := by
  unfold Call.timers at h
  unfold Call.due?
  grind

theorem splitFirst_ne_none {f : α → Option β} {as : List α} {a : α} (h : a ∈ as)
    (found : f a ≠ none) : splitFirst f as ≠ none := by
  induction as with
  | nil => cases h
  | cons b bs ih =>
    unfold splitFirst
    split
    · simp
    · next missing =>
      rcases List.mem_cons.1 h with rfl | h
      · contradiction
      · simpa using ih h

theorem loadStep?_of_timer {c : Client} {x : Nat} (h : x ∈ c.timers) (now : x ≤ c.now) :
    c.loadStep? ≠ none := by
  rcases List.mem_append.1 h with h | h
  · obtain ⟨s, hs, h⟩ := List.mem_flatMap.1 h
    have := splitFirst_ne_none hs (Sequence.move?_of_timer h now)
    simp_all [loadStep?, moveSequence?]
  · obtain ⟨call, hc, h⟩ := List.mem_flatMap.1 h
    have := splitFirst_ne_none hc (Call.due?_of_timer h now)
    simp_all [loadStep?, endCall?]

theorem Alike.timers {c d : Client} (h : Alike c d) : d.timers = c.timers := by
  simp only [Client.timers, h.sequences, h.calls]

theorem work_turn_lt {c : Client} {x : Nat} (h : x ∈ c.timers) (now : x ≤ c.now) :
    c.turn.work < c.work := by
  have same := alike_deliver c
  have := work_loadAll_lt (loadStep?_of_timer (same.timers.symm ▸ h) (same.now.symm ▸ now))
  rw [same.work] at this
  rwa [turn, (alike_defer _).work]

theorem Task.pending_pos {t : Task} (h : t.reply? = none) : 0 < t.pending := by
  cases t <;> simp_all [Task.reply?, Task.pending]

theorem Task.pending_of_reply? {t : Task} (h : t.reply? ≠ none) : t.pending = 0 := by
  cases t <;> simp_all [Task.reply?, Task.pending]

theorem Task.pending_limit_le (now deadline : Nat) (t : Task) :
    (t.limit now deadline).pending ≤ t.pending + 1 := by
  unfold Task.limit
  split
  · simp [Task.pending]
  · split <;> simp [Task.pending]

theorem Task.pending_limit_of_le {now deadline : Nat} (h : deadline ≤ now) (t : Task) :
    (t.limit now deadline).pending = 0 := by
  unfold Task.limit
  split
  · rfl
  · rw [if_pos h]
    rfl

theorem Task.pending_gather_le (ts : List Task) :
    (Task.gather ts).pending ≤ Task.allPending ts + 1 := by
  unfold Task.gather
  split <;> simp [Task.pending]

theorem pending_answer (c : Client) (inTurn : Bool) (q : Inquiry) (served : Option Served) :
    (c.answer inTurn q served).1.pending = 0 := by
  cases q <;> rfl

mutual

theorem pending_poll_le (c : Client) : (t : Task) → (c.poll t).1.pending ≤ t.pending
  | .done _ => Nat.le_refl _
  | .napping _ => by
    unfold poll
    dsimp only
    split <;> simp [Task.pending]
  | .loading _ => by
    unfold poll
    split <;> simp [Task.pending]
  | .awaiting _ _ _ => by
    unfold poll
    split <;> simp [Task.pending, pending_answer]
  | .refreshing _ _ _ _ _ => by
    unfold poll
    split <;> simp [Task.pending, pending_answer]
  | .joined ts => by
    have := Task.pending_gather_le (c.pollAll ts).1
    have := allPending_pollAll_le c ts
    simp only [poll, Task.pending]
    omega
  | .limited deadline t => by
    have := Task.pending_limit_le c.now deadline (c.poll t).1
    have := pending_poll_le c t
    simp only [poll, Task.pending]
    omega

theorem allPending_pollAll_le (c : Client) :
    (ts : List Task) → Task.allPending (c.pollAll ts).1 ≤ Task.allPending ts
  | [] => Nat.le_refl _
  | t :: ts => by
    have := pending_poll_le c t
    have := allPending_pollAll_le (c.poll t).2 ts
    simp only [pollAll, Task.allPending]
    omega

end

mutual

theorem pending_poll_lt (c : Client) {x : Nat} (now : x ≤ c.now) :
    (t : Task) → x ∈ t.timers → (c.poll t).1.pending < t.pending
  | .done _, h => by simp [Task.timers] at h
  | .napping wake, h => by
    simp only [Task.timers, List.mem_singleton] at h
    subst h
    simp [poll, now, Task.pending]
  | .loading _, h => by simp [Task.timers] at h
  | .awaiting _ _ _, h => by simp [Task.timers] at h
  | .refreshing _ deadline _ _ _, h => by
    simp only [Task.timers, List.mem_singleton] at h
    subst h
    simp [poll, now, Task.pending, pending_answer]
  | .joined ts, h => by
    have := Task.pending_gather_le (c.pollAll ts).1
    have := allPending_pollAll_lt c now ts (by simpa [Task.timers] using h)
    simp only [poll, Task.pending]
    omega
  | .limited deadline t, h => by
    simp only [poll, Task.pending]
    rcases List.mem_cons.1 (by simpa only [Task.timers] using h) with rfl | h
    · rw [Task.pending_limit_of_le now]
      omega
    · have := Task.pending_limit_le c.now deadline (c.poll t).1
      have := pending_poll_lt c now t h
      omega

theorem allPending_pollAll_lt (c : Client) {x : Nat} (now : x ≤ c.now) :
    (ts : List Task) → x ∈ Task.allTimers ts →
      Task.allPending (c.pollAll ts).1 < Task.allPending ts
  | [], h => by simp [Task.allTimers] at h
  | t :: ts, h => by
    simp only [pollAll, Task.allPending]
    have first := pending_poll_le c t
    have rest := allPending_pollAll_le (c.poll t).2 ts
    rcases List.mem_append.1 (by simpa only [Task.allTimers] using h) with h | h
    · have := pending_poll_lt c now t h
      omega
    · have := allPending_pollAll_lt (c.poll t).2 ((alike_poll c t).now.symm ▸ now) ts h
      omega

end

def waitFor (c : Client) (x : Nat) : Client := { c with now := max c.now x }

theorem work_atInstant_lt {c : Client} {t : Task} {x : Nat} (waiting : t.reply? = none)
    (h : c.nextInstant? t = some x) :
    ((c.waitFor x).atInstant t).2.work + ((c.waitFor x).atInstant t).1.pending <
      c.work + t.pending := by
  have now : x ≤ (c.waitFor x).now := Nat.le_max_right ..
  have same := alike_poll (c.waitFor x) t
  have once := pending_poll_le (c.waitFor x) t
  have positive := Task.pending_pos waiting
  have work : ((c.waitFor x).poll t).2.work = c.work := same.work
  unfold atInstant
  generalize hp : (c.waitFor x).poll t = polled at same once work
  dsimp only
  split
  · next done =>
    have := Task.pending_of_reply? (Option.isSome_iff_ne_none.1 done)
    omega
  · have twice := pending_poll_le polled.2.turn polled.1
    have still := (alike_poll polled.2.turn polled.1).work
    have turn := work_turn_le polled.2
    rcases List.mem_append.1 (List.min?_mem h) with h | h
    · have := work_turn_lt (c := polled.2) (same.timers.symm ▸ h) (same.now.symm ▸ now)
      omega
    · have := pending_poll_lt (c.waitFor x) now t h
      rw [hp] at this
      omega

def start (c : Client) (op : Operation) : Task × Client :=
  let begun := c.begin true op
  if begun.1.reply?.isSome then begun else begun.2.turn.poll begun.1

def await (c : Client) (t : Task) : Option Reply × Client :=
  match waiting : t.reply? with
  | some r => (some r, c)
  | none =>
    match h : c.settle.nextInstant? t with
    | none => (none, c.settle)
    | some x =>
      have := work_atInstant_lt waiting h
      have := c.work_settle_le
      let next := (c.settle.waitFor x).atInstant t
      next.2.await next.1
termination_by c.work + t.pending

/-- What can be seen of an operation: when it returned and what, how many events of evaluations were
heard by then, and the events and calls until all was settled at that instant. -/
structure Report where
  returnedAt : Nat
  reply : Option Reply
  early : Nat
  events : List Event
  calls : Nat

def runOne (c : Client) (op : Operation) : Report × Client :=
  let started := c.start op
  let returned := started.2.await started.1
  let settled := returned.2.settle
  ({ returnedAt := returned.2.now
     reply := returned.1
     early := (returned.2.heard.drop c.heard.length).countP (·.ofEvaluation)
     events := settled.heard.drop c.heard.length
     calls := settled.calls.length }, settled)

def run (c : Client) : List Operation → List Report × Client
  | [] => ([], c)
  | op :: ops =>
    let first := c.runOne op
    let rest := first.2.run ops
    (first.1 :: rest.1, rest.2)

end FeatureFlags.Client
