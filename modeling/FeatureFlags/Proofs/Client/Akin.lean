import FeatureFlags.Proofs.Client.Live

namespace FeatureFlags.Client

structure Akin (c d : Client) : Prop where
  config : d.config = { c.config with delivery := d.config.delivery }
  loader : d.loader = c.loader
  host : d.host = c.host
  epoch : d.epoch = c.epoch
  now : d.now = c.now
  state : d.state = c.state
  sequences : d.sequences = c.sequences
  calls : d.calls = c.calls
  issued : d.issued = c.issued
  stashed : d.stashed = c.stashed

structure Agrees {α : Type} (p q : α × Client) : Prop where
  value : q.1 = p.1
  client : Akin p.2 q.2

namespace Config

variable {k l : Config} (h : l = { k with delivery := l.delivery })

include h

theorem attempts_congr : l.attempts = k.attempts := by
  rw [h]
  rfl

theorem timeout?_congr : l.timeout? = k.timeout? := by
  rw [h]
  rfl

theorem staleTime?_congr : l.staleTime? = k.staleTime? := by
  rw [h]
  rfl

theorem refreshWait?_congr : l.refreshWait? = k.refreshWait? := by
  rw [h]
  rfl

theorem detailIn_congr : l.detailIn = k.detailIn := by
  rw [h]
  rfl

theorem detail_congr : l.detail = k.detail := by
  rw [h]
  rfl

theorem valueAs_congr : l.valueAs = k.valueAs := by
  rw [h]
  rfl

theorem allIn_congr (S : Specification) (now : Moment) (context : Context)
    (values : List (String × FlagValue)) (fs : List FeatureFlag) :
    l.allIn S now context values fs = k.allIn S now context values fs := by
  induction fs generalizing values with
  | nil => rfl
  | cons f fs ih =>
    rw [allIn, allIn, detailIn_congr h]
    simp only [ih]

theorem all_congr (served : Option Served) (now : Moment) (context : Context) :
    l.all served now context = k.all served now context := by
  cases served with
  | none =>
    rw [h]
    rfl
  | some s => exact allIn_congr h ..

end Config

variable {c d : Client}

namespace Akin

theorem of_alike (h : Alike c d) : Akin c d :=
  ⟨by rw [h.config], h.loader, h.host, h.epoch, h.now, h.state, h.sequences, h.calls, h.issued,
    h.stashed⟩

theorem refl (c : Client) : Akin c c := of_alike (.refl c)

theorem symm (h : Akin c d) : Akin d c :=
  ⟨by rw [h.config], h.loader.symm, h.host.symm, h.epoch.symm, h.now.symm, h.state.symm,
    h.sequences.symm, h.calls.symm, h.issued.symm, h.stashed.symm⟩

theorem trans {e : Client} (h : Akin c d) (g : Akin d e) : Akin c e :=
  ⟨by rw [g.config, h.config], g.loader.trans h.loader, g.host.trans h.host,
    g.epoch.trans h.epoch, g.now.trans h.now, g.state.trans h.state,
    g.sequences.trans h.sequences, g.calls.trans h.calls, g.issued.trans h.issued,
    g.stashed.trans h.stashed⟩

theorem between (h : Akin c d) {c' d' : Client} (left : Alike c c') (right : Alike d d') :
    Akin c' d' :=
  (of_alike left).symm.trans (h.trans (of_alike right))

variable (h : Akin c d)

include h

theorem timeOfDay : d.timeOfDay = c.timeOfDay := by
  rw [Client.timeOfDay, h.epoch, h.now, h.host, Client.timeOfDay]

theorem isFresh : d.isFresh = c.isFresh := by
  unfold Client.isFresh
  rw [h.state, h.now, Config.staleTime?_congr h.config]

theorem result? : d.result? = c.result? := by
  funext n
  simp only [Client.result?, sequence?, h.sequences]

theorem joinLoad : Agrees c.joinLoad d.joinLoad := by
  cases inFlight : c.state.inFlight with
  | some n =>
    rw [joinLoad_of_inFlight inFlight, joinLoad_of_inFlight (h.state ▸ inFlight)]
    exact ⟨rfl, h⟩
  | none =>
    rw [joinLoad_of_free inFlight, joinLoad_of_free (h.state ▸ inFlight), h.sequences,
      Config.attempts_congr h.config, h.now, h.state]
    exact ⟨rfl, h.config, h.loader, h.host, h.epoch, rfl, rfl, rfl, h.calls, h.issued, h.stashed⟩

theorem answer (inTurn : Bool) (q : Inquiry) (served : Option Served) :
    Agrees (c.answer inTurn q served) (d.answer inTurn q served) := by
  refine ⟨?_, h.between (alike_answer ..) (alike_answer ..)⟩
  cases q <;> simp only [Client.answer, h.timeOfDay, Config.detail_congr h.config,
    Config.valueAs_congr h.config, Config.all_congr h.config]

theorem inquire (inTurn : Bool) (q : Inquiry) :
    Agrees (c.inquire inTurn q) (d.inquire inTurn q) := by
  obtain ⟨number, joined⟩ := h.joinLoad
  unfold Client.inquire
  simp only [h.state, h.isFresh, h.now, Config.refreshWait?_congr h.config, number]
  split
  · split
    · exact joined.answer ..
    · exact ⟨rfl, joined⟩
  · split
    · exact h.answer ..
    · split
      · exact ⟨rfl, joined⟩
      · exact joined.answer ..

end Akin

mutual

theorem Akin.begin {c d : Client} (h : Akin c d) (inTurn : Bool) : (op : Operation) →
    Agrees (c.begin inTurn op) (d.begin inTurn op)
  | .load => by
    obtain ⟨number, joined⟩ := h.joinLoad
    unfold Client.begin
    exact ⟨congrArg Task.loading number, joined⟩
  | .snapshot => by
    unfold Client.begin
    exact ⟨by rw [h.state], h⟩
  | .sleep time => by
    unfold Client.begin
    exact ⟨by rw [h.now], h⟩
  | .evaluate q => h.inquire inTurn q
  | .join ops => by
    obtain ⟨tasks, client⟩ := h.beginAll inTurn ops
    unfold Client.begin
    exact ⟨congrArg Task.gather tasks, client⟩
  | .within time op => by
    obtain ⟨task, client⟩ := h.begin inTurn op
    unfold Client.begin
    exact ⟨by simp only [task, h.now], client⟩
  | .outOfTurn op => h.begin false op

theorem Akin.beginAll {c d : Client} (h : Akin c d) (inTurn : Bool) : (ops : List Operation) →
    Agrees (c.beginAll inTurn ops) (d.beginAll inTurn ops)
  | [] => ⟨rfl, h⟩
  | op :: ops => by
    obtain ⟨first, client⟩ := h.begin inTurn op
    obtain ⟨rest, client⟩ := client.beginAll inTurn ops
    unfold Client.beginAll
    exact ⟨congrArg₂ List.cons first rest, client⟩

end

mutual

theorem Akin.poll {c d : Client} (h : Akin c d) : (t : Task) → Agrees (c.poll t) (d.poll t)
  | .done _ => ⟨rfl, h⟩
  | .napping wake => by
    unfold Client.poll
    exact ⟨by rw [h.now], h⟩
  | .loading n => by
    unfold Client.poll
    rw [h.result?]
    split <;> exact ⟨rfl, h⟩
  | .awaiting n q inTurn => by
    unfold Client.poll
    rw [h.result?]
    split
    · exact h.answer inTurn q _
    · exact ⟨rfl, h⟩
  | .refreshing n deadline current q inTurn => by
    unfold Client.poll
    rw [h.result?, h.now, h.state]
    split
    · exact h.answer inTurn q _
    · exact ⟨rfl, h⟩
  | .joined ts => by
    obtain ⟨tasks, client⟩ := h.pollAll ts
    unfold Client.poll
    exact ⟨congrArg Task.gather tasks, client⟩
  | .limited deadline t => by
    obtain ⟨task, client⟩ := h.poll t
    unfold Client.poll
    exact ⟨by simp only [task, h.now], client⟩

theorem Akin.pollAll {c d : Client} (h : Akin c d) : (ts : List Task) →
    Agrees (c.pollAll ts) (d.pollAll ts)
  | [] => ⟨rfl, h⟩
  | t :: ts => by
    obtain ⟨first, client⟩ := h.poll t
    obtain ⟨rest, client⟩ := client.pollAll ts
    unfold Client.pollAll
    exact ⟨congrArg₂ List.cons first rest, client⟩

end

namespace Akin

variable (h : Akin c d)

include h

theorem move? : d.move? = c.move? := by
  funext s
  unfold Client.move?
  simp only [h.now, Client.call?, h.calls, Config.timeout?_congr h.config]

theorem newCall : d.newCall = c.newCall := by
  have skip : d.config.skipValidation = c.config.skipValidation := by rw [h.config]
  simp only [Client.newCall, h.calls, h.loader, h.now, h.issued, skip]

theorem giveUp : Akin c.giveUp d.giveUp := by
  unfold Client.giveUp
  rw [h.state, h.now]
  exact ⟨h.config, h.loader, h.host, h.epoch, rfl, rfl, h.sequences, h.calls, h.issued, h.stashed⟩

theorem install (served : Served) : Akin (c.install served) (d.install served) := by
  refine between ?_ (alike_install c served) (alike_install d served)
  rw [h.state, h.now]
  exact ⟨h.config, h.loader, h.host, h.epoch, rfl, rfl, h.sequences, h.calls, h.issued, h.stashed⟩

theorem tryNext (s : Sequence) : Agrees (c.tryNext s) (d.tryNext s) := by
  unfold Client.tryNext callLoader
  rw [h.newCall, h.now, Config.timeout?_congr h.config, h.calls, h.issued]
  exact ⟨rfl, h.config, h.loader, h.host, h.epoch, rfl, h.state, h.sequences, rfl, rfl, h.stashed⟩

theorem afterFailure (s : Sequence) (e : LoadError) (payload : Option Payload) :
    Agrees (c.afterFailure s e payload) (d.afterFailure s e payload) := by
  have told (es fs : List Event) : Akin (c.dispatch true es) (d.dispatch true fs) :=
    h.between (alike_dispatch ..) (alike_dispatch ..)
  have delay : d.config.retryDelay = c.config.retryDelay := by rw [h.config]
  unfold Client.afterFailure
  dsimp only
  split
  · exact ⟨by rw [Config.attempts_congr h.config], (told _ _).giveUp⟩
  · exact ⟨by rw [h.now, delay], told _ _⟩

theorem makeMove (s : Sequence) (m : Move) : Agrees (c.makeMove s m) (d.makeMove s m) := by
  cases m with
  | tryNext => exact h.tryNext s
  | conclude call token r =>
    unfold Client.makeMove
    dsimp only
    split
    · exact ⟨rfl, h.install _⟩
    · exact h.afterFailure s _ _

theorem moveSequence? : Option.Rel Akin c.moveSequence? d.moveSequence? := by
  unfold Client.moveSequence?
  rw [h.move?, h.sequences]
  cases splitFirst c.move? c.sequences with
  | none => exact .none
  | some split =>
    obtain ⟨sequence, client⟩ := h.makeMove split.element split.found
    exact .some ⟨client.config, client.loader, client.host, client.epoch, client.now,
      client.state, congrArg (split.before ++ · :: split.after) sequence, client.calls,
      client.issued, client.stashed⟩

theorem endCall? : Option.Rel Akin c.endCall? d.endCall? := by
  unfold Client.endCall?
  rw [h.now, h.calls, h.stashed, h.issued]
  cases splitFirst (Call.due? c.now) c.calls with
  | none => exact .none
  | some split =>
    exact .some ⟨h.config, h.loader, h.host, h.epoch, rfl, h.state, h.sequences, rfl, rfl, rfl⟩

theorem loadStep? : Option.Rel Akin c.loadStep? d.loadStep? := by
  have moves := h.moveSequence?
  unfold Client.loadStep?
  cases moveC : c.moveSequence? <;> cases moveD : d.moveSequence? <;> rw [moveC, moveD] at moves
  · exact h.endCall?
  · cases moves
  · cases moves
  · exact moves

theorem waitFor (x : Nat) : Akin (c.waitFor x) (d.waitFor x) := by
  refine ⟨h.config, h.loader, h.host, h.epoch, ?_, h.state, h.sequences, h.calls, h.issued,
    h.stashed⟩
  simp only [Client.waitFor, h.now]

end Akin

theorem loadAll_of_none (quiet : c.loadStep? = none) : c.loadAll = c := by
  unfold loadAll
  split
  · rfl
  · next found => cases quiet.symm.trans found

theorem loadAll_of_some (found : c.loadStep? = some d) : c.loadAll = d.loadAll := by
  rw [loadAll]
  split
  · next quiet => cases quiet.symm.trans found
  · next found' => cases found'.symm.trans found; rfl

theorem Akin.loadStep?_eq_none (h : Akin c d) (quiet : c.loadStep? = none) :
    d.loadStep? = none := by
  have same := h.loadStep?
  rw [quiet] at same
  cases found : d.loadStep? with
  | none => rfl
  | some e =>
    rw [found] at same
    cases same

theorem Akin.loadStep?_eq_some (h : Akin c d) {c' : Client} (found : c.loadStep? = some c') :
    ∃ d', d.loadStep? = some d' ∧ Akin c' d' := by
  have same := h.loadStep?
  rw [found] at same
  cases found' : d.loadStep? with
  | none =>
    rw [found'] at same
    cases same
  | some d' =>
    rw [found'] at same
    cases same with
    | some same => exact ⟨d', rfl, same⟩

theorem Akin.loadAll (h : Akin c d) : Akin c.loadAll d.loadAll := by
  fun_induction Client.loadAll c generalizing d with
  | case1 c quiet =>
    rw [loadAll_of_none (h.loadStep?_eq_none quiet)]
    exact h
  | case2 c next found less ih =>
    obtain ⟨next', found', same⟩ := h.loadStep?_eq_some found
    rw [loadAll_of_some found']
    exact ih same

theorem Akin.turn (h : Akin c d) : Akin c.turn d.turn :=
  (h.between (alike_deliver c) (alike_deliver d)).loadAll.between (alike_defer _) (alike_defer _)

end FeatureFlags.Client
