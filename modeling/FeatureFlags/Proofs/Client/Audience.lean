import FeatureFlags.Proofs.Client.Crowd

/-!
Who observes a client. Events are told by a client, and nothing is told to it: whoever observes it,
and whenever events are handed over, operations return the same at the same instants, the loader is
called at the same instants, and the client is in the same state throughout.
-/

namespace FeatureFlags.Client

variable {c d : Client}

theorem await_of_idle {t : Task} (undone : t.reply? = none)
    (idle : c.settle.nextInstant? t = none) : c.await t = (none, c.settle) := by
  rw [await]
  split <;> grind

theorem await_of_next {t : Task} (undone : t.reply? = none) {x : Nat}
    (next : c.settle.nextInstant? t = some x) :
    c.await t =
      ((c.settle.waitFor x).atInstant t).2.await ((c.settle.waitFor x).atInstant t).1 := by
  rw [await]
  split <;> grind

structure Report.Same (r s : Report) : Prop where
  returnedAt : s.returnedAt = r.returnedAt
  reply : s.reply = r.reply
  calls : s.calls = r.calls

theorem Akin.nextInstant? (h : Akin c d) (t : Task) : d.nextInstant? t = c.nextInstant? t := by
  simp only [Client.nextInstant?, timers, h.sequences, h.calls]

/-- Whatever happens: what callers and the runtime do, and that a loader ends a call, another client
makes a validator, or an observer comes or goes. -/
inductive Occurrence
  | act (a : Action)
  | finish (call : Nat) (result : Except LoadError Verdict) (stashed : List (Nat × Validator))
  | issue
  | observe (observer : Option Observer)

def Occurrence.observes : Occurrence → Bool
  | .observe _ => true
  | _ => false

namespace Scene

def occur (s : Scene) : Occurrence → Scene
  | .act a => s.act a
  | .finish n r stashed =>
    let ended (call : Call) : Call :=
      if call.number = n && call.ending.isNone then { call with ending := some r } else call
    { s with client := { s.client with calls := s.client.calls.map ended, stashed } }
  | .issue => { s with client := { s.client with issued := s.client.issued + 1 } }
  | .observe observer => { s with client := { s.client with observer } }

def undergo (s : Scene) (ω : List Occurrence) : Scene := ω.foldl occur s

structure Mirrors (s t : Scene) : Prop where
  client : Akin s.client t.client
  callers : t.callers = s.callers

theorem mirrors_of_akin (h : Akin c d) (ts : List (Option Task)) : Mirrors ⟨c, ts⟩ ⟨d, ts⟩ :=
  ⟨h, rfl⟩

namespace Mirrors

variable {s t : Scene}

theorem symm (h : Mirrors s t) : Mirrors t s := ⟨h.client.symm, h.callers.symm⟩

theorem trans {u : Scene} (h : Mirrors s t) (g : Mirrors t u) : Mirrors s u :=
  ⟨h.client.trans g.client, g.callers.trans h.callers⟩

theorem act (h : Mirrors s t) (a : Action) : Mirrors (s.act a) (t.act a) := by
  obtain ⟨client, callers⟩ := h
  cases a with
  | begin inTurn op =>
    obtain ⟨task, begun⟩ := client.begin inTurn op
    exact ⟨begun, by simp only [Scene.act, task, callers]⟩
  | poll i =>
    have there : t.task? i = s.task? i := by rw [task?, callers, task?]
    simp only [Scene.act, there]
    split
    · next a _ =>
      obtain ⟨task, polled⟩ := client.poll a
      exact ⟨polled, by rw [task, callers]⟩
    · exact ⟨client, callers⟩
  | giveUp i => exact ⟨client, by simp only [Scene.act, callers]⟩
  | load =>
    refine ⟨?_, callers⟩
    cases quiet : s.client.loadStep? with
    | none =>
      have quiet' := client.loadStep?_eq_none quiet
      simpa only [Scene.act, quiet, quiet', Option.getD_none] using client
    | some c =>
      obtain ⟨d, step, same⟩ := client.loadStep?_eq_some quiet
      simpa only [Scene.act, quiet, step, Option.getD_some] using same
  | deliver => exact ⟨client.between (alike_deliver _) (alike_deliver _), callers⟩
  | defer => exact ⟨client.between (alike_defer _) (alike_defer _), callers⟩
  | turn => exact ⟨client.turn, callers⟩
  | wait x => exact ⟨client.waitFor x, callers⟩

theorem play (h : Mirrors s t) (σ : List Action) : Mirrors (s.play σ) (t.play σ) := by
  induction σ generalizing s t with
  | nil => exact h
  | cons a σ ih => exact ih (h.act a)

theorem observe (h : Mirrors s t) (observer : Option Observer) :
    Mirrors s (t.occur (.observe observer)) :=
  h.trans ⟨⟨rfl, rfl, rfl, rfl, rfl, rfl, rfl, rfl, rfl, rfl⟩, rfl⟩

theorem occur (h : Mirrors s t) : (o : Occurrence) → Mirrors (s.occur o) (t.occur o)
  | .act a => h.act a
  | .finish n r stashed => by
    obtain ⟨client, callers⟩ := h
    refine ⟨⟨client.config, client.loader, client.host, client.epoch, client.now, client.state,
      client.sequences, ?_, client.issued, rfl⟩, callers⟩
    simp only [Scene.occur, client.calls]
  | .issue => by
    obtain ⟨client, callers⟩ := h
    exact ⟨⟨client.config, client.loader, client.host, client.epoch, client.now, client.state,
      client.sequences, client.calls, congrArg (· + 1) client.issued, client.stashed⟩, callers⟩
  | .observe o => (h.symm.observe o).symm.observe o

theorem undergo (h : Mirrors s t) (ω : List Occurrence) :
    Mirrors (s.undergo (ω.filter (!·.observes))) (t.undergo ω) := by
  induction ω generalizing s t with
  | nil => exact h
  | cons o ω ih =>
    cases o with
    | observe observer => exact ih (h.observe observer)
    | _ => exact ih (h.occur _)

end Mirrors

def Course (c : Client) (next : Client → Client) (ts us : List (Option Task)) : Prop :=
  ∃ σ : List Action, ∀ d, Akin c d → play ⟨d, ts⟩ σ = ⟨next d, us⟩

namespace Course

variable {f g : Client → Client} {ts us vs : List (Option Task)}

theorem akin (h : Course c f ts us) (same : Akin c d) : Akin (f c) (f d) := by
  obtain ⟨σ, course⟩ := h
  have mirrors := (mirrors_of_akin same ts).play σ
  rw [course c (.refl c), course d same] at mirrors
  exact mirrors.client

theorem trans (h : Course c f ts us) (g_course : Course (f c) g us vs) :
    Course c (fun d => g (f d)) ts vs := by
  have between {d : Client} (same : Akin c d) := h.akin same
  obtain ⟨σ, first⟩ := h
  obtain ⟨τ, second⟩ := g_course
  refine ⟨σ ++ τ, fun d same => ?_⟩
  rw [play_append, first d same, second _ (between same)]

theorem congr (h : Course c f ts us) (same : ∀ d, Akin c d → g d = f d) : Course c g ts us := by
  obtain ⟨σ, course⟩ := h
  exact ⟨σ, fun d akin => by rw [course d akin, same d akin]⟩

end Course

section

variable (c : Client) (ts : List (Option Task)) (t : Task)

theorem course_turn : Course c turn ts ts := ⟨[.turn], fun _ _ => rfl⟩

theorem course_settle : Course c settle ts ts := ⟨[.turn, .turn], fun _ _ => rfl⟩

theorem course_wait (x : Nat) : Course c (·.waitFor x) ts ts := ⟨[.wait x], fun _ _ => rfl⟩

theorem course_poll :
    Course c (fun d => (d.poll t).2) (ts ++ [some t]) (ts ++ [some (c.poll t).1]) := by
  refine ⟨[.poll ts.length], fun d same => ?_⟩
  have last : task? ⟨d, ts ++ [some t]⟩ ts.length = some t := by simp [task?]
  simp only [play_cons, play_nil, act, last, (same.poll t).value,
    List.set_append_right _ _ (Nat.le_refl _), Nat.sub_self, List.set_cons_zero]

theorem course_turn_poll :
    Course c (fun d => (d.turn.poll t).2) (ts ++ [some t]) (ts ++ [some (c.turn.poll t).1]) :=
  (course_turn c _).trans (course_poll c.turn ts t)

theorem course_begin (op : Operation) :
    Course c (fun d => (d.begin true op).2) ts (ts ++ [some (c.begin true op).1]) :=
  ⟨[.begin true op], fun d same => by
    simp only [play_cons, play_nil, act, (same.begin true op).value]⟩

theorem course_atInstant :
    Course c (fun d => (d.atInstant t).2) (ts ++ [some t]) (ts ++ [some (c.atInstant t).1]) ∧
      ∀ d, Akin c d → (d.atInstant t).1 = (c.atInstant t).1 := by
  by_cases done : (c.poll t).1.reply?.isSome
  · have arrives (d : Client) (same : Akin c d) : d.atInstant t = d.poll t :=
      if_pos ((same.poll t).value ▸ done)
    rw [arrives c (.refl c)]
    refine ⟨(course_poll c ts t).congr fun d same => by rw [arrives d same], fun d same => ?_⟩
    rw [arrives d same, (same.poll t).value]
  · have arrives (d : Client) (same : Akin c d) :
        d.atInstant t = (d.poll t).2.turn.poll (c.poll t).1 := by
      rw [← (same.poll t).value]
      exact if_neg ((same.poll t).value ▸ done)
    rw [arrives c (.refl c)]
    have course := (course_poll c ts t).trans (course_turn_poll (c.poll t).2 ts (c.poll t).1)
    refine ⟨course.congr fun d same => by rw [arrives d same], fun d same => ?_⟩
    rw [arrives d same, ((same.poll t).client.turn.poll _).value]

theorem course_start (op : Operation) :
    Course c (fun d => (d.start op).2) ts (ts ++ [some (c.start op).1]) ∧
      ∀ d, Akin c d → (d.start op).1 = (c.start op).1 := by
  by_cases done : (c.begin true op).1.reply?.isSome
  · have starts (d : Client) (same : Akin c d) : d.start op = d.begin true op :=
      if_pos ((same.begin true op).value ▸ done)
    rw [starts c (.refl c)]
    refine ⟨(course_begin c ts op).congr fun d same => by rw [starts d same], fun d same => ?_⟩
    rw [starts d same, (same.begin true op).value]
  · have starts (d : Client) (same : Akin c d) :
        d.start op = (d.begin true op).2.turn.poll (c.begin true op).1 := by
      rw [← (same.begin true op).value]
      exact if_neg ((same.begin true op).value ▸ done)
    rw [starts c (.refl c)]
    have course := (course_begin c ts op).trans (course_turn_poll (c.begin true op).2 ts _)
    refine ⟨course.congr fun d same => by rw [starts d same], fun d same => ?_⟩
    rw [starts d same, ((same.begin true op).client.turn.poll _).value]

theorem course_await : ∃ t',
    Course c (fun d => (d.await t).2) (ts ++ [some t]) (ts ++ [some t']) ∧
      ∀ d, Akin c d → (d.await t).1 = t'.reply? := by
  fun_induction Client.await c t with
  | case1 c t r done =>
    refine ⟨t, ⟨[], fun d _ => ?_⟩, fun d _ => ?_⟩
    · simp only [await_of_done done, play_nil]
    · rw [await_of_done done, done]
  | case2 c t undone idle =>
    have waits (d : Client) (same : Akin c d) : d.await t = (none, d.settle) :=
      await_of_idle undone ((same.turn.turn.nextInstant? t).trans idle)
    refine ⟨t, (course_settle c _).congr fun d same => by rw [waits d same], fun d same => ?_⟩
    rw [waits d same, undone]
  | case3 c t undone x found next less settled ih =>
    obtain ⟨t', later, reply⟩ := ih
    have arrived := (course_settle c (ts ++ [some t])).trans (course_wait c.settle _ x)
    obtain ⟨instant, same⟩ := course_atInstant (c.settle.waitFor x) ts t
    have waits (d : Client) (akin : Akin c d) :
        d.await t = ((d.settle.waitFor x).atInstant t).2.await settled.1 := by
      rw [await_of_next undone ((akin.turn.turn.nextInstant? t).trans found),
        same _ (arrived.akin akin)]
    refine ⟨t', ((arrived.trans instant).trans later).congr fun d akin => by rw [waits d akin],
      fun d akin => ?_⟩
    rw [waits d akin, reply _ ((arrived.trans instant).akin akin)]

theorem course_runOne (op : Operation) : ∃ t,
    Course c (fun d => (d.runOne op).2) ts (ts ++ [some t]) ∧
      t.reply? = (c.runOne op).1.reply ∧
        ∀ d, Akin c d → (c.runOne op).1.Same (d.runOne op).1 := by
  obtain ⟨starts, same⟩ := course_start c ts op
  obtain ⟨t, waits, reply⟩ := course_await (c.start op).2 ts (c.start op).1
  have returns : Course c (fun d => ((d.start op).2.await (d.start op).1).2) ts (ts ++ [some t]) :=
    (starts.trans waits).congr fun d akin => by rw [same d akin]
  have settles : Course c (fun d => (d.runOne op).2) ts (ts ++ [some t]) :=
    returns.trans (course_settle _ _)
  have replies (d : Client) (akin : Akin c d) : (d.runOne op).1.reply = t.reply? := by
    have : (d.runOne op).1.reply = ((d.start op).2.await (d.start op).1).1 := rfl
    rw [this, same d akin, reply _ (starts.akin akin)]
  refine ⟨t, settles, (replies c (.refl c)).symm, fun d akin => ⟨(returns.akin akin).now, ?_, ?_⟩⟩
  · rw [replies d akin, replies c (.refl c)]
  · exact congrArg List.length (settles.akin akin).calls

theorem course_run (ops : List Operation) : ∃ us,
    Course c (fun d => (d.run ops).2) ts (ts ++ us) ∧
      us.map (·.bind Task.reply?) = (c.run ops).1.map (·.reply) ∧
        ∀ d, Akin c d → List.Forall₂ Report.Same (c.run ops).1 (d.run ops).1 := by
  induction ops generalizing c ts with
  | nil =>
    refine ⟨[], ⟨[], fun d _ => ?_⟩, rfl, fun _ _ => .nil⟩
    rw [List.append_nil]
    rfl
  | cons op ops ih =>
    obtain ⟨t, first, reply, same⟩ := course_runOne c ts op
    obtain ⟨us, rest, replies, all⟩ := ih (c.runOne op).2 (ts ++ [some t])
    rw [List.append_assoc, List.singleton_append] at rest
    refine ⟨some t :: us, first.trans rest, congrArg₂ List.cons reply replies, fun d akin => ?_⟩
    exact .cons (same d akin) (all _ (first.akin akin))

end

end Scene

structure Unswayed (c d : Client) : Prop where
  undergo : ∀ ω υ : List Occurrence, ω.filter (!·.observes) = υ.filter (!·.observes) →
    Scene.Mirrors (.undergo ⟨c, []⟩ ω) (.undergo ⟨d, []⟩ υ)
  live : ∀ arrivals x σ, Scene.IsLive arrivals x σ →
    Scene.Mirrors (.play ⟨c, []⟩ σ) (.play ⟨d, []⟩ σ) ∧
      (Scene.play ⟨c, []⟩ σ).Settled ∧ (Scene.play ⟨d, []⟩ σ).Settled ∧
      (Scene.play ⟨c, []⟩ σ).client.now = max c.now x
  run : ∀ ops, List.Forall₂ Report.Same (c.run ops).1 (d.run ops).1 ∧
    ∃ σ ts, Scene.play ⟨c, []⟩ σ = ⟨(c.run ops).2, ts⟩ ∧
      Scene.play ⟨d, []⟩ σ = ⟨(d.run ops).2, ts⟩ ∧
      ts.map (·.bind Task.reply?) = (c.run ops).1.map (·.reply) ∧
      ∀ n, Scene.Mirrors (.play ⟨c, []⟩ (σ.take n)) (.play ⟨d, []⟩ (σ.take n))

theorem Akin.unswayed (h : Akin c d) : Unswayed c d where
  undergo ω υ same := by
    have left := (Scene.mirrors_of_akin (.refl c) []).undergo ω
    have right := (Scene.mirrors_of_akin h []).undergo υ
    rw [← same] at right
    exact left.symm.trans right
  live arrivals x σ live :=
    ⟨(Scene.mirrors_of_akin h []).play σ, (live.settled c).1, (live.settled d).1,
      (live.settled c).2⟩
  run ops := by
    obtain ⟨ts, ⟨σ, course⟩, replies, same⟩ := Scene.course_run c [] ops
    exact ⟨same d h, σ, ts, course c (.refl c), course d h, replies,
      fun n => (Scene.mirrors_of_akin h []).play (σ.take n)⟩

theorem akin_build (config : Config) (loader : Loader) (epoch : Instant) (inTurn : Bool)
    (host : Host) (observer observer' : Option Observer) (delivery : Delivery) :
    Akin (build config loader observer epoch inTurn host)
      (build { config with delivery } loader observer' epoch inTurn host) := by
  have same : Akin { config, loader, host, observer, epoch }
      { config := { config with delivery }, loader, host, observer := observer', epoch } :=
    ⟨rfl, rfl, rfl, rfl, rfl, rfl, rfl, rfl, rfl, rfl⟩
  unfold build
  dsimp only
  split
  · exact same.joinLoad.client
  · exact same

theorem unswayed_build (config : Config) (loader : Loader) (epoch : Instant) (inTurn : Bool)
    (host : Host) (observer observer' : Option Observer) (delivery : Delivery) :
    Unswayed (build config loader observer epoch inTurn host)
      (build { config with delivery } loader observer' epoch inTurn host) :=
  (akin_build config loader epoch inTurn host observer observer' delivery).unswayed

theorem unswayed_panicked :
    let config : Config := { maxRetries := 0 }
    let loader : Loader := fun _ => ⟨0, .fail "down"⟩
    let c := build config loader none ⟨0, 0⟩ true
    let d := build { config with delivery := .blocking } loader (some ⟨fun _ => true⟩) ⟨0, 0⟩ true
    let σ : List Action := [.begin true .load, .load, .load, .load, .poll 0]
    (Scene.play ⟨c, []⟩ σ).client.heard = [] ∧
      (Scene.play ⟨d, []⟩ σ).client.heard = [.loaderFailure 1 (.loader "down")] ∧
      (Scene.play ⟨d, []⟩ σ).callers =
        [some (.done (.loaded (.error ⟨1, .loader "down"⟩)))] ∧ Unswayed c d := by
  intro config loader c d σ
  exact ⟨rfl, rfl, rfl, unswayed_build ..⟩

end FeatureFlags.Client
