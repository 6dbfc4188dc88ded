import FeatureFlags.Proofs.Client.Scene

/-!
Who waits for a load. It is no caller's own: whoever gives up waiting for one, it goes on, and all
others get what they would have got, on a live runtime at every instant.
-/

namespace FeatureFlags.Client

namespace Scene

variable {s t : Scene} {σ τ : List Action}

structure Settled (s : Scene) : Prop where
  loads : s.client.loadStep? = none
  tasks : ∀ i a, s.task? i = some a → (s.client.poll a).1 = a

def timers (s : Scene) : List Nat :=
  s.client.timers ++ s.callers.flatMap fun t => (t.map Task.timers).getD []

def polls (n : Nat) : List Action := (List.range n).map .poll

def arrived (arrivals : Nat → List Operation) : Nat → Nat
  | 0 => 0
  | x + 1 => arrived arrivals x + (arrivals x).length

/-- What a live runtime does at an instant. Who is there goes on, who arrives begins, loads go on until
nothing is left to load, and all go on from there. -/
def instant (arrivals : Nat → List Operation) (x : Nat) : List Action :=
  .wait x :: (polls (arrived arrivals x) ++ (arrivals x).map (.begin true) ++
    .turn :: polls (arrived arrivals (x + 1)) ++ [.turn, .turn])

def agenda (arrivals : Nat → List Operation) : Nat → List Action
  | 0 => []
  | x + 1 => agenda arrivals x ++ instant arrivals x

theorem lt_of_task? {i : Nat} {a : Task} (there : s.task? i = some a) : i < s.callers.length := by
  by_contra away
  rw [task?, List.getElem?_eq_none (Nat.le_of_not_lt away)] at there
  cases there

namespace Settled

variable {gone : Nat → Prop}

theorem thins (h : s.Settled) (thin : Thins gone s t) : t.Settled where
  loads := thin.client.loadStep?_eq_none h.loads
  tasks i a there := (thin.client.poll a).value.trans (h.tasks i a (thin.tasks i a there))

theorem thins_turn (quiet : s.client.loadStep? = none) : Thins gone s (s.act .turn) :=
  (Thins.refl s).withClient (.of_alike (alike_turn quiet))

theorem thins_poll (h : s.Settled) (i : Nat) : Thins gone s (s.act (.poll i)) := by
  cases there : s.task? i with
  | none =>
    simp only [act, there]
    exact .refl s
  | some a =>
    have same (j : Nat) : (s.callers.set i (some a))[j]?.join = s.callers[j]?.join := by
      rw [join_getElem?_set]
      split
      · next here => exact here.1 ▸ there.symm
      · rfl
    simp only [act, there, h.tasks i a there]
    refine ⟨.of_alike (alike_poll ..), by simp, fun j b => ?_, fun j _ => same j⟩
    simp only [task?, same]
    exact id

end Settled

theorem polls_succ (n : Nat) : polls (n + 1) = polls n ++ [.poll n] := by
  simp [polls, List.range_succ]

theorem settled_play_polls (quiet : s.client.loadStep? = none) {n : Nat}
    (all : s.callers.length ≤ n) : (s.play (polls n)).Settled := by
  -- the callers before the one that is polled stay at rest, since polls change no more than events
  suffices h : ∀ k, (s.play (polls k)).client.loadStep? = none ∧
      (s.play (polls k)).callers.length = s.callers.length ∧
      ∀ i < k, ∀ a, (s.play (polls k)).task? i = some a →
        ((s.play (polls k)).client.poll a).1 = a by
    obtain ⟨loads, length, tasks⟩ := h n
    refine ⟨loads, fun i a there => tasks i ?_ a there⟩
    have := lt_of_task? there
    omega
  intro k
  induction k with
  | zero => exact ⟨quiet, rfl, fun i early => absurd early (Nat.not_lt_zero i)⟩
  | succ k ih =>
    rw [polls_succ, play_append]
    generalize s.play (polls k) = t at ih
    obtain ⟨loads, length, tasks⟩ := ih
    rw [play_cons, play_nil]
    cases there : t.task? k with
    | none =>
      simp only [act, there]
      refine ⟨loads, length, fun i early a here => ?_⟩
      rcases Nat.lt_succ_iff_lt_or_eq.1 early with early | rfl
      · exact tasks i early a here
      · cases there.symm.trans here
    | some b =>
      have same : Akin t.client (t.client.poll b).2 := .of_alike (alike_poll ..)
      simp only [act, there]
      refine ⟨same.loadStep?_eq_none loads, by simpa using length, fun i early a here => ?_⟩
      simp only [task?, join_getElem?_set] at here
      split at here
      · cases here
        exact poll_poll t.client b
      · next other =>
        have earlier : i < k := by
          have : i < t.callers.length := lt_of_task? here
          omega
        exact (same.poll a).value.trans (tasks i earlier a here)

theorem Settled.thins_play {gone : Nat → Prop} (h : s.Settled)
    (only : ∀ a ∈ σ, a = .turn ∨ ∃ i, a = .poll i) : Thins gone s (s.play σ) := by
  induction σ generalizing s with
  | nil => exact .refl s
  | cons a σ ih =>
    have first : Thins gone s (s.act a) := by
      rcases only a (.head _) with rfl | ⟨i, rfl⟩
      · exact thins_turn h.loads
      · exact h.thins_poll i
    exact first.trans (ih (h.thins first) fun b hb => only b (.tail _ hb))

theorem Settled.play (h : s.Settled) (only : ∀ a ∈ σ, a = .turn ∨ ∃ i, a = .poll i) :
    (s.play σ).Settled := by
  have thin : Thins (fun _ => False) s (s.play σ) := h.thins_play only
  exact h.thins thin

theorem mem_polls {n : Nat} {a : Action} (h : a ∈ polls n) : ∃ i, a = .poll i := by
  obtain ⟨i, -, rfl⟩ := List.mem_map.1 h
  exact ⟨i, rfl⟩

theorem Settled.wait (h : s.Settled) {x : Nat} (early : ∀ y ∈ s.timers, x < y) :
    (s.act (.wait x)).Settled := by
  refine ⟨loadStep?_waitFor h.loads fun y hy => early y (List.mem_append_left _ hy), ?_⟩
  intro i a there
  refine poll_waitFor s.client a (fun y hy => early y ?_) (h.tasks i a there)
  have present : some a ∈ s.callers := by
    exact List.mem_of_getElem? (Option.join_eq_some_iff.1 there)
  exact List.mem_append_right _ (List.mem_flatMap.2 ⟨some a, present, hy⟩)

theorem Settled.thins_instant {gone : Nat → Prop} (h : s.Settled) {arrivals : Nat → List Operation}
    {x : Nat} (nobody : arrivals x = []) (early : ∀ y ∈ s.timers, x < y) :
    Thins gone (s.act (.wait x)) (s.play (instant arrivals x)) := by
  rw [instant, play_cons, nobody]
  refine (h.wait early).thins_play fun a ha => ?_
  simp only [List.map_nil, List.append_nil, List.mem_append, List.mem_cons, List.not_mem_nil,
    or_false] at ha
  rcases ha with (polled | rfl | polled) | rfl | rfl
  · exact .inr (mem_polls polled)
  · exact .inl rfl
  · exact .inr (mem_polls polled)
  · exact .inl rfl
  · exact .inl rfl

theorem length_act (s : Scene) (a : Action) :
    (s.act a).callers.length = s.callers.length + if a.begins then 1 else 0 := by
  cases a with
  | begin => simp [act, Action.begins]
  | poll i =>
    unfold act
    dsimp only
    split <;> simp [Action.begins]
  | giveUp => simp [act, Action.begins]
  | _ => rfl

theorem length_play (s : Scene) (σ : List Action) :
    (s.play σ).callers.length = s.callers.length + σ.countP (·.begins) := by
  induction σ generalizing s with
  | nil => rfl
  | cons a σ ih =>
    rw [play_cons, ih, length_act, List.countP_cons, Nat.add_assoc, Nat.add_comm (ite ..)]

theorem now_act (s : Scene) {a : Action} (timeless : ∀ x, a ≠ .wait x) :
    (s.act a).client.now = s.client.now := by
  cases a with
  | begin inTurn op => exact (begun_begin s.client inTurn op).now
  | poll i =>
    unfold act
    dsimp only
    split
    · exact (alike_poll ..).now
    · rfl
  | giveUp => rfl
  | load =>
    unfold act
    dsimp only
    cases step : s.client.loadStep? with
    | none => rfl
    | some c => exact now_loadStep? step
  | deliver => exact (alike_deliver _).now
  | defer => rfl
  | turn => exact now_turn _
  | wait x => exact absurd rfl (timeless x)

theorem now_play (timeless : ∀ x, .wait x ∉ σ) : (s.play σ).client.now = s.client.now := by
  induction σ generalizing s with
  | nil => rfl
  | cons a σ ih =>
    rw [play_cons, ih fun x hx => timeless x (.tail _ hx),
      now_act s fun x wait => timeless x (wait ▸ .head _)]

section

variable (arrivals : Nat → List Operation) (x : Nat)

theorem countP_polls (n : Nat) : (polls n).countP (·.begins) = 0 := by
  simp [polls, List.countP_eq_zero, Action.begins]

theorem countP_begins (ops : List Operation) :
    (ops.map (Action.begin true)).countP (·.begins) = ops.length := by
  simp [Function.comp_def, Action.begins]

theorem countP_instant : (instant arrivals x).countP (·.begins) = (arrivals x).length := by
  simp only [instant, List.countP_cons, List.countP_append, countP_polls, countP_begins, Nat.zero_add]
  rfl

theorem countP_agenda : (agenda arrivals x).countP (·.begins) = arrived arrivals x := by
  induction x with
  | zero => rfl
  | succ x ih => rw [agenda, List.countP_append, ih, countP_instant, arrived]

theorem now_play_instant (s : Scene) :
    (s.play (instant arrivals x)).client.now = max s.client.now x := by
  rw [instant, play_cons, now_play]
  · rfl
  · simp [polls]

theorem now_play_agenda (s : Scene) :
    (s.play (agenda arrivals (x + 1))).client.now = max s.client.now x := by
  induction x with
  | zero => exact now_play_instant arrivals 0 s
  | succ x ih =>
    rw [agenda, play_append, now_play_instant, ih]
    omega

theorem settled_play_instant (s : Scene) (present : s.callers.length = arrived arrivals x) :
    (s.play (instant arrivals x)).Settled := by
  rw [instant, play_cons, List.append_assoc, play_append, List.cons_append, play_cons, play_append]
  generalize opened : ((s.act (.wait x)).play
    (polls (arrived arrivals x) ++ (arrivals x).map (.begin true))) = t
  have length : (t.act .turn).callers.length = arrived arrivals (x + 1) := by
    rw [← opened, length_act, length_play, length_act, present, List.countP_append, countP_polls,
      countP_begins, Nat.zero_add, arrived]
    rfl
  have quiet : (t.act .turn).client.loadStep? = none := by
    rw [act]
    exact loadStep?_turn t.client
  have settled : ((t.act .turn).play (polls (arrived arrivals (x + 1)))).Settled :=
    settled_play_polls quiet length.le
  exact settled.play (by simp)

theorem settled_play_agenda (c : Client) : (play ⟨c, []⟩ (agenda arrivals (x + 1))).Settled := by
  rw [agenda, play_append]
  apply settled_play_instant
  rw [length_play, countP_agenda]
  exact Nat.zero_add _

end

/-- A run of a live runtime up to an instant, in which callers may give up whenever they like. -/
def IsLive (arrivals : Nat → List Operation) (x : Nat) (σ : List Action) : Prop :=
  σ.filter (·.stays) = agenda arrivals (x + 1)

theorem IsLive.settled {arrivals : Nat → List Operation} {x : Nat} (h : IsLive arrivals x σ)
    (c : Client) : (play ⟨c, []⟩ σ).Settled ∧ (play ⟨c, []⟩ σ).client.now = max c.now x := by
  have thin : Thins (.giveUp · ∈ σ) (play ⟨c, []⟩ (σ.filter (·.stays))) (play ⟨c, []⟩ σ) :=
    (Thins.refl _).play fun _ => id
  rw [h] at thin
  exact ⟨(settled_play_agenda arrivals x c).thins thin,
    thin.client.now.trans (now_play_agenda arrivals x _)⟩

end Scene

structure Indifferent (c : Client) : Prop where
  agree : ∀ σ τ : List Action, σ.filter (·.stays) = τ.filter (·.stays) →
    (Scene.play ⟨c, []⟩ σ).Agree (fun i => .giveUp i ∈ σ ∨ .giveUp i ∈ τ) (.play ⟨c, []⟩ τ)
  live : ∀ arrivals x σ τ, Scene.IsLive arrivals x σ → Scene.IsLive arrivals x τ →
    (Scene.play ⟨c, []⟩ σ).Agree (fun i => .giveUp i ∈ σ ∨ .giveUp i ∈ τ) (.play ⟨c, []⟩ τ) ∧
      (Scene.play ⟨c, []⟩ σ).Settled ∧ (Scene.play ⟨c, []⟩ σ).client.now = max c.now x
  /-- A runtime may leave out instants for which neither the client nor a caller waits. -/
  idle : ∀ (s : Scene) arrivals x, s.Settled → arrivals x = [] → (∀ y ∈ s.timers, x < y) →
    (s.act (.wait x)).Settled ∧
      (s.act (.wait x)).Agree (fun _ => False) (s.play (Scene.instant arrivals x))
  run : ∀ ops, ∃ σ, (∀ a ∈ σ, a.stays) ∧ (Scene.play ⟨c, []⟩ σ).client = (c.run ops).2 ∧
    (Scene.play ⟨c, []⟩ σ).callers.map (·.bind Task.reply?) = (c.run ops).1.map (·.reply)

theorem indifferent (c : Client) : Indifferent c where
  agree _ _ same := Scene.agree_of_stays _ same
  live _ _ _ _ first second := ⟨Scene.agree_of_stays _ (first.trans second.symm), first.settled c⟩
  idle _ _ _ settled nobody early :=
    ⟨settled.wait early, (settled.thins_instant nobody early).agree⟩
  run ops := by
    obtain ⟨ts, ⟨σ, stay, played⟩, replies⟩ := Scene.leads_run c [] ops
    exact ⟨σ, stay, congrArg Scene.client played, by rw [played]; exact replies⟩

theorem indifferent_deserted :
    let c := build { skipValidation := true } (fun _ => ⟨1, .serve bare⟩) none ⟨0, 0⟩ false
    let σ : List Action := [.begin true .load, .begin true .load, .giveUp 0, .load, .wait 1, .load,
      .load, .poll 1]
    (∃ served, (Scene.play ⟨c, []⟩ σ).callers = [none, some (.done (.loaded (.ok served)))]) ∧
      Indifferent c := by
  intro c σ
  exact ⟨⟨_, rfl⟩, indifferent c⟩

end FeatureFlags.Client
