import FeatureFlags.Proofs.Client.Crowd
import FeatureFlags.Proofs.Client.Inquiry
import FeatureFlags.Proofs.Client.Relay

namespace FeatureFlags.Client

variable {b c d : Client} {posted : List Message} {woken : List Event}

theorem dispatched_deliver (c : Client) : c.deliver.dispatched = c.dispatched := by
  unfold Client.deliver handOver
  split <;> rfl

theorem Host.order_nil (h : Host) : h.order [] = [] := (h.perm []).eq_nil

theorem onTheWay_settle (c : Client) : c.settle.due = [] ∧ c.settle.dispatched = [] := by
  -- the second turn finds nothing to load, so it dispatches nothing that could be left over
  have quiet := (alike_deliver c.turn).loadStep?_eq_none (loadStep?_turn c)
  have last : c.settle = c.turn.deliver.defer := congrArg defer (loadAll_of_none quiet)
  have none : c.turn.deliver.dispatched = [] := dispatched_deliver c.turn
  have due : c.turn.deliver.due = [] := rfl
  rw [last, defer, rouse, none, due, Host.order_nil]
  exact ⟨rfl, rfl⟩

def Delivered (b c : Client) : Prop :=
  (∃ posted woken, Relays b posted woken c) ∧ c.due = [] ∧ c.dispatched = []

theorem exists_relays (steps : Steps b c) : ∃ posted woken, Relays b posted woken c := by
  obtain ⟨posted, woken, run⟩ := Relays.start.steps steps
  exact ⟨_, _, run⟩

theorem delivered_settle (registered : Registered c) (steps : Steps b c) :
    Delivered b c.settle :=
  ⟨exists_relays (steps.trans (steps_settle registered)), onTheWay_settle c⟩

theorem Delivered.run (h : Delivered c c) (registered : Registered c) (ops : List Operation) :
    Delivered c (c.run ops).2 := by
  refine ⟨exists_relays (steps_run registered ops), ?_⟩
  induction ops generalizing c with
  | nil => exact h.2
  | cons op ops ih =>
    have none := onTheWay_settle ((c.start op).2.await (c.start op).1).2
    exact ih ⟨⟨_, _, .start⟩, none⟩ (registered.steps (steps_runOne registered op))

namespace Scene

theorem steps_act {s : Scene} (h : Registered s.client) (a : Action) :
    Steps s.client (s.act a).client := by
  cases a with
  | begin inTurn op => exact .single (.begin inTurn op)
  | poll i =>
    unfold act
    dsimp only
    split
    · exact .single (.poll _)
    · exact .refl
  | giveUp => exact .refl
  | load => exact steps_getD_loadStep? h
  | deliver => exact .single .deliver
  | defer => exact .single (.defer _)
  | turn => exact steps_turn h
  | wait x => exact .single (.wait x)

theorem steps_play {s : Scene} (h : Registered s.client) (σ : List Action) :
    Steps s.client (s.play σ).client := by
  induction σ generalizing s with
  | nil => exact .refl
  | cons a σ ih =>
    have first := steps_act h a
    exact first.trans (ih (h.steps first))

theorem client_play_of_leaving {s : Scene} {σ : List Action} (leave : ∀ a ∈ σ, ¬ a.stays) :
    (s.play σ).client = s.client := by
  induction σ generalizing s with
  | nil => rfl
  | cons a σ ih =>
    rw [play_cons, ih fun d hd => leave d (.tail _ hd)]
    cases a with
    | giveUp => rfl
    | _ => exact absurd rfl (leave _ (.head _))

theorem IsLive.delivered {arrivals : Nat → List Operation} {x : Nat} {σ : List Action}
    (h : IsLive arrivals x σ) {c : Client} (registered : Registered c) :
    Delivered c (play ⟨c, []⟩ σ).client := by
  unfold IsLive at h
  -- a live instant ends with two turns, between which callers may only leave
  rw [agenda, instant, ← List.cons_append, ← List.append_assoc] at h
  obtain ⟨before, last, rfl, -, h⟩ := List.filter_eq_append_iff.1 h
  obtain ⟨leaving, last, rfl, gone, -, h⟩ := List.filter_eq_cons_iff.1 h
  obtain ⟨leaving', last, rfl, gone', -, h⟩ := List.filter_eq_cons_iff.1 h
  have ends : (play ⟨c, []⟩ (before ++ (leaving ++ .turn :: (leaving' ++ .turn :: last)))).client =
      (play ⟨c, []⟩ (before ++ leaving)).client.settle := by
    simp only [play_append, play_cons]
    rw [client_play_of_leaving fun a ha => List.filter_eq_nil_iff.1 h a ha, act,
      client_play_of_leaving gone', act]
    rfl
  have run := steps_play (s := ⟨c, []⟩) registered (before ++ leaving)
  rw [ends]
  exact delivered_settle (registered.steps run) run

end Scene

inductive Task.Asks (inTurn : Bool) (q : Inquiry) : Task → Prop
  | awaiting : Asks inTurn q (.awaiting n q inTurn)
  | refreshing : Asks inTurn q (.refreshing n deadline current q inTurn)

/-- An evaluation that goes on hands no event over, and dispatches none unless it returns. -/
structure Late (c : Client) (p : Task × Client) : Prop where
  heard : p.2.heard = c.heard
  due : p.2.due = c.due
  dispatched : c.dispatched <+: p.2.dispatched
  waits : p.1.reply? = none → Mute c p.2

variable {inTurn : Bool} {q : Inquiry} {t : Task} {p : Task × Client}

theorem Late.of_mute (h : Mute c p.2) : Late c p :=
  ⟨h.heard, h.due, h.dispatched ▸ List.prefix_rfl, fun _ => h⟩

theorem Waiting.asks (h : Waiting c inTurn q p) : p.1.Asks inTurn q := by
  cases h with
  | first => exact .awaiting
  | refresh => exact .refreshing

theorem Task.Asks.poll_of_undone (h : t.Asks inTurn q) (undone : (d.poll t).1.reply? = none) :
    d.poll t = (t, d) := by
  cases h with
  | awaiting =>
    rw [Client.poll] at undone ⊢
    split at undone
    · exact absurd undone reply?_answer_ne_none
    · rfl
  | refreshing =>
    rw [Client.poll] at undone ⊢
    split at undone
    · exact absurd undone reply?_answer_ne_none
    · next unready => exact if_neg unready

theorem asks_begin (undone : (c.begin inTurn (.evaluate q)).1.reply? = none) :
    (c.begin inTurn (.evaluate q)).1.Asks inTurn q := by
  rcases answers_or_waits (c := c) inTurn q with ⟨b, -, same⟩ | ⟨t, same, waiting⟩
  · exact absurd (same ▸ undone) reply?_answer_ne_none
  · exact same ▸ waiting.asks

theorem Evaluating.asks (h : Evaluating c inTurn q p) (undone : p.1.reply? = none) :
    p.1.Asks inTurn q := by
  induction h with
  | begin => exact asks_begin undone
  | poll _ before _ ih =>
    rw [(ih before).poll_of_undone undone]
    exact ih before

section

variable (later : c.config.delivery = .nonBlocking)

include later

theorem late_answer (q : Inquiry) (served : Option Served) : Late c (c.answer true q served) := by
  have dispatched (es : List Event) : (c.dispatch true es).heard = c.heard ∧
      (c.dispatch true es).due = c.due ∧
        c.dispatched <+: (c.dispatch true es).dispatched := by
    unfold Client.dispatch
    rw [if_pos (by simp [later])]
    split
    · exact ⟨rfl, rfl, List.prefix_rfl⟩
    · exact ⟨rfl, rfl, List.prefix_append _ _⟩
  refine ⟨?_, ?_, ?_, fun undone => absurd undone reply?_answer_ne_none⟩
  · cases q <;> exact (dispatched _).1
  · cases q <;> exact (dispatched _).2.1
  · cases q <;> exact (dispatched _).2.2

theorem Task.Asks.late (h : t.Asks true q) : Late c (c.poll t) := by
  by_cases undone : (c.poll t).1.reply? = none
  · rw [h.poll_of_undone undone]
    exact .of_mute (.refl c)
  · cases h with
    | awaiting =>
      rw [Client.poll] at undone ⊢
      split
      · exact late_answer later ..
      · exact .of_mute (.refl c)
    | refreshing =>
      rw [Client.poll]
      split
      · exact late_answer later ..
      · exact .of_mute (.refl c)

theorem late_begin (q : Inquiry) : Late c (c.begin true (.evaluate q)) := by
  have silent := mute_joinLoad c
  rcases answers_or_waits (c := c) true q with ⟨b, here, same⟩ | ⟨t, same, -⟩
  · rw [same]
    rcases here with rfl | rfl
    · exact late_answer later ..
    · have answered := late_answer (silent.config ▸ later) q c.joinLoad.2.state.specification
      exact ⟨answered.heard.trans silent.heard, answered.due.trans silent.due,
        silent.dispatched ▸ answered.dispatched,
        fun undone => absurd undone reply?_answer_ne_none⟩
  · rw [same]
    exact .of_mute silent

end

structure Hushed (base : List Event) (c : Client) : Prop where
  observed : c.observer.isSome
  later : c.config.delivery = .nonBlocking
  heard : ∃ es, c.heard = base ++ es ∧ ∀ e ∈ es, e.ofEvaluation = false
  onTheWay : ∀ e ∈ c.onTheWay, e.ofEvaluation = false

namespace Hushed

variable {base : List Event}

theorem mute (h : Hushed base c) (silent : Mute c d) : Hushed base d where
  observed := silent.observer ▸ h.observed
  later := silent.config ▸ h.later
  heard := silent.heard ▸ h.heard
  onTheWay := silent.onTheWay ▸ h.onTheWay

theorem deliver (h : Hushed base c) : Hushed base c.deliver := by
  obtain ⟨o, observed⟩ := Option.isSome_iff_exists.1 h.observed
  obtain ⟨es, heard, none⟩ := h.heard
  obtain ⟨noneDue, noneDispatched⟩ := List.forall_mem_append.1 h.onTheWay
  rw [Client.deliver, heard_handOver observed]
  refine ⟨h.observed, h.later, ⟨es ++ c.due, ?_, List.forall_mem_append.2 ⟨none, noneDue⟩⟩,
    noneDispatched⟩
  rw [heard, List.append_assoc]

theorem loads (h : Hushed base c) (told : LoadDispatches c ms d) : Hushed base d := by
  obtain ⟨o, observed⟩ := Option.isSome_iff_exists.1 h.observed
  obtain ⟨es, heard, none⟩ := h.heard
  have effect := told.1.effect observed
  have load (p : Message → Bool) : ∀ e ∈ (ms.filter p).map (·.event), e.ofEvaluation = false :=
    List.forall_mem_map.2 fun m hm => (told.2 m (List.mem_of_mem_filter hm)).2
  refine ⟨effect.observer ▸ h.observed, effect.config ▸ h.later,
    ⟨es ++ (ms.filter (!c.config.holdsBack ·)).map (·.event), ?_,
      List.forall_mem_append.2 ⟨none, load _⟩⟩, ?_⟩
  · rw [effect.heard, heard, List.append_assoc]
  · rw [effect.onTheWay]
    exact List.forall_mem_append.2 ⟨h.onTheWay, load _⟩

theorem defer (h : Hushed base c) : Hushed base c.defer := by
  refine ⟨h.observed, h.later, h.heard, fun e he => h.onTheWay e ?_⟩
  simpa [Client.onTheWay, Client.defer, rouse, (c.host.perm c.dispatched).mem_iff] using he

theorem turn (h : Hushed base c) : Hushed base c.turn := by
  obtain ⟨ms, told⟩ := dispatches_loadAll c.deliver
  exact (h.deliver.loads told).defer

end Hushed

structure HushedUntil (base : List Event) (q : Inquiry) (p : Task × Client) : Prop where
  heard : ∃ es, p.2.heard = base ++ es ∧ ∀ e ∈ es, e.ofEvaluation = false
  waits : p.1.reply? = none → p.1.Asks true q ∧ Hushed base p.2

namespace HushedUntil

variable {base : List Event}

theorem of_late (h : Hushed base c) (late : Late c p)
    (asks : p.1.reply? = none → p.1.Asks true q) : HushedUntil base q p where
  heard := late.heard ▸ h.heard
  waits undone := ⟨asks undone, h.mute (late.waits undone)⟩

theorem poll (asks : t.Asks true q) (h : Hushed base c) : HushedUntil base q (c.poll t) :=
  .of_late h (asks.late h.later) fun undone => (asks.poll_of_undone undone).symm ▸ asks

theorem atInstant (asks : t.Asks true q) (h : Hushed base c) :
    HushedUntil base q (c.atInstant t) := by
  have polled := poll asks h
  unfold Client.atInstant
  dsimp only
  split
  · exact polled
  · next waiting =>
    obtain ⟨asks, h⟩ := polled.waits (Option.not_isSome_iff_eq_none.1 waiting)
    exact poll asks h.turn

theorem start (h : Hushed base c) (q : Inquiry) : HushedUntil base q (c.start (.evaluate q)) := by
  have begun : HushedUntil base q (c.begin true (.evaluate q)) :=
    .of_late h (late_begin h.later q) asks_begin
  unfold Client.start
  dsimp only
  split
  · exact begun
  · next waiting =>
    obtain ⟨asks, h⟩ := begun.waits (Option.not_isSome_iff_eq_none.1 waiting)
    exact poll asks h.turn

theorem await (h : HushedUntil base q (t, c)) :
    ∃ es, (c.await t).2.heard = base ++ es ∧ ∀ e ∈ es, e.ofEvaluation = false := by
  fun_induction Client.await c t with
  | case1 => exact h.heard
  | case2 c t undone idle => exact (h.waits undone).2.turn.turn.heard
  | case3 c t undone x found next less settled ih =>
    obtain ⟨asks, hushed⟩ := h.waits undone
    exact ih (atInstant asks (hushed.turn.turn.mute ⟨rfl, rfl, rfl, rfl, rfl⟩))

end HushedUntil

theorem early_runOne (observed : c.observer.isSome) (later : c.config.delivery = .nonBlocking)
    (none : c.due = [] ∧ c.dispatched = []) (q : Inquiry) :
    (c.runOne (.evaluate q)).1.early = 0 := by
  have hushed : Hushed c.heard c :=
    ⟨observed, later, ⟨[], by simp⟩, by simp [onTheWay, none]⟩
  obtain ⟨es, heard, load⟩ := HushedUntil.await (t := (c.start (.evaluate q)).1)
    (c := (c.start (.evaluate q)).2) (.start hushed q)
  change (List.drop _ ((c.start _).2.await (c.start _).1).2.heard).countP _ = 0
  rw [heard, List.drop_left, List.countP_eq_zero]
  intro e he
  simp [load e he]

structure Delivers (b : Client) : Prop where
  relays : ∀ c, Steps b c → ∃ posted woken, Relays b posted woken c
  /-- What is dispatched was handed over once or is on its way: what is not held back in the order of
  dispatch, and the rest in the order in which the runtime wakes it. -/
  accounted : ∀ posted woken c, Relays b posted woken c → ∃ handed, Accounted posted woken handed c
  settled : ∀ c, Steps b c → Steps c c.settle ∧ c.settle.due = [] ∧ c.settle.dispatched = []
  atOnce : ∀ c inTurn es, Steps b c → b.config.delivery = .blocking ∨ inTurn = false →
    (c.dispatch inTurn es).heard = c.heard ++ es
  blocking : b.config.delivery = .blocking → ∀ posted woken c, Relays b posted woken c →
    c.heard = posted.map (·.event) ∧ c.due = [] ∧ c.dispatched = []
  late : b.config.delivery = .nonBlocking → ∀ c q, Steps b c →
    Late c (c.begin true (.evaluate q)) ∧ ∀ p d, Evaluating c true q p → p.1.reply? = none →
      Steps p.2 d → Late d (d.poll p.1)
  early : b.config.delivery = .nonBlocking → ∀ ops q,
    ((b.run ops).2.runOne (.evaluate q)).1.early = 0
  run : ∀ ops, Delivered b (b.run ops).2
  live : ∀ arrivals x σ, Scene.IsLive arrivals x σ → Delivered b (Scene.play ⟨b, []⟩ σ).client

theorem fresh_build (config : Config) (loader : Loader) (observer : Option Observer)
    (epoch : Instant) (inTurn : Bool) (host : Host) :
    Mute { config, loader, host, observer, epoch }
      (build config loader observer epoch inTurn host) := by
  unfold build
  dsimp only
  split
  · exact mute_joinLoad _
  · exact .refl _

theorem Evaluating.steps (h : Evaluating c inTurn q p) : Steps c p.2 := by
  induction h with
  | begin => exact .single (.begin inTurn (.evaluate q))
  | poll _ _ later ih => exact (ih.trans later).tail (.poll _)

/-- Every event of a client is handed over to its observer once: at once, or when the runtime wakes
it. -/
theorem delivers_build (config : Config) (loader : Loader) (observer : Observer) (epoch : Instant)
    (inTurn : Bool) (host : Host) :
    Delivers (build config loader (some observer) epoch inTurn host) := by
  have fresh := fresh_build config loader (some observer) epoch inTurn host
  have registered : Registered (build config loader (some observer) epoch inTurn host) := .build ..
  generalize build config loader (some observer) epoch inTurn host = b at fresh registered
  have observed : b.observer = some observer := fresh.observer
  have accounted {posted woken c} (run : Relays b posted woken c) :=
    run.accounted observed ⟨fresh.heard, fresh.due, fresh.dispatched⟩
  have delivered : Delivered b b := ⟨⟨_, _, .start⟩, fresh.due, fresh.dispatched⟩
  refine ⟨fun _ => exists_relays, fun _ _ _ => accounted, ?_, ?_, ?_, ?_, ?_,
    delivered.run registered, fun arrivals x σ live => live.delivered registered⟩
  · exact fun c steps => ⟨steps_settle (registered.steps steps), onTheWay_settle c⟩
  · intro c inTurn es steps now
    obtain ⟨same, -⟩ := setup_of_steps steps
    exact heard_dispatch ((observer_of_steps steps).trans observed) (same ▸ now) es
  · intro blocking posted woken c run
    obtain ⟨handed, account⟩ := accounted run
    exact account.of_blocking ((run.setup observed).1 ▸ blocking)
  · intro later c q steps
    obtain ⟨same, -⟩ := setup_of_steps steps
    refine ⟨late_begin (same ▸ later) q, fun p d evaluating undone more => ?_⟩
    obtain ⟨same', -⟩ := setup_of_steps (evaluating.steps.trans more)
    exact (evaluating.asks undone).late (same' ▸ same ▸ later)
  · intro later ops q
    have steps := steps_run registered ops
    obtain ⟨same, -⟩ := setup_of_steps steps
    have watched := observer_of_steps steps
    exact early_runOne (by simp [watched, observed]) (same ▸ later)
      (delivered.run registered ops).2 q

def hasty : Client :=
  let config : Config := { maxRetries := 1, retryDelay := 0, initialLoad := false }
  let loader := Loader.ofSteps { deed := .fail "first" } [{ deed := .fail "second" }]
  build config loader (some ⟨fun _ => false⟩) ⟨0, 0⟩ true .lastFirst

theorem reversed_hasty :
    let c := ((hasty.begin true .load).2.loadTimes 6).defer.deliver
    let first : Event := .loaderFailure 1 (.loader "first")
    let second : Event := .loaderFailure 2 (.loader "second")
    ∃ ms, Relays hasty ms [second, first] c ∧ c.due = [] ∧ (∀ m ∈ ms, m.inTurn) ∧
      ms.map (·.event) = [first, second] ∧ c.heard = [second, first] := by
  intro c first second
  obtain ⟨ms, told, load⟩ := dispatches_loadTimes (hasty.begin true .load).2 6
  have effect := told.effect (o := ⟨fun _ => false⟩) rfl
  have held : ms.filter hasty.config.holdsBack = ms :=
    List.filter_eq_self.2 fun m hm => by
      rw [Config.holdsBack, (load m hm).1]
      rfl
  have perm : ([second, first] ++ []).Perm
      ((hasty.begin true .load).2.loadTimes 6).dispatched := .swap ..
  have run : Relays hasty ([] ++ [] ++ ms) ([] ++ [second, first]) c :=
    (((Relays.start.work (.of_mute (mute_joinLoad hasty))).work told).rouse perm).deliver
  refine ⟨ms, run, rfl, fun m hm => (load m hm).1, ?_, rfl⟩
  calc ms.map (·.event)
    _ = (ms.filter hasty.config.holdsBack).map (·.event) := by rw [held]
    _ = ((hasty.begin true .load).2.loadTimes 6).dispatched := effect.dispatched.symm
    _ = [first, second] := rfl

end FeatureFlags.Client
