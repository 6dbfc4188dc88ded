import FeatureFlags.Proofs.Client.Landing
import FeatureFlags.Proofs.Client.Dispatch
import Mathlib.Data.List.Perm.Basic

/-!
Events from where they are dispatched to the observer. Some are handed over at once and others are held
back until the runtime wakes them. In which order it does is its own affair; but none is lost, and none
is handed over twice.
-/

namespace FeatureFlags.Client

open scoped List

structure Message where
  inTurn : Bool
  event : Event

def Config.holdsBack (k : Config) (m : Message) : Bool := m.inTurn && k.delivery = .nonBlocking

structure Mute (c d : Client) : Prop where
  config : d.config = c.config
  observer : d.observer = c.observer
  heard : d.heard = c.heard
  due : d.due = c.due
  dispatched : d.dispatched = c.dispatched

inductive Dispatches (c : Client) : List Message → Client → Prop
  | none : Dispatches c [] c
  | mute : Dispatches c ms d → Mute d e → Dispatches c ms e
  | dispatch (inTurn : Bool) (es : List Event) : Dispatches c ms d →
    Dispatches c (ms ++ es.map (.mk inTurn)) (d.dispatch inTurn es)

/-- A run from `b` with the messages that were dispatched and the events that the runtime woke, both
in their order. It wakes whatever it likes of what has yielded, whenever it likes. -/
inductive Relays (b : Client) : List Message → List Event → Client → Prop
  | start : Relays b [] [] b
  | work : Relays b posted woken c → Dispatches c ms d → Relays b (posted ++ ms) woken d
  | deliver : Relays b posted woken c → Relays b posted woken c.deliver
  | rouse : Relays b posted woken c → (es ++ kept).Perm c.dispatched →
    Relays b posted (woken ++ es) (c.rouse es kept)

def onTheWay (c : Client) : List Event := c.due ++ c.dispatched

/-- What became of the messages of a run, of which these were handed over. -/
structure Accounted (posted : List Message) (woken : List Event) (handed : List Message)
    (c : Client) : Prop where
  heard : c.heard = handed.map (·.event)
  atOnce : handed.filter (!c.config.holdsBack ·) = posted.filter (!c.config.holdsBack ·)
  heldBack : (handed.filter c.config.holdsBack).map (·.event) ++ c.due = woken
  waiting : ∀ e ∈ c.onTheWay, c.config.holdsBack ⟨true, e⟩
  once : (handed ++ c.onTheWay.map (Message.mk true)).Perm posted

variable {b c d e : Client} {ms ns : List Message}

theorem Mute.refl (c : Client) : Mute c c := ⟨rfl, rfl, rfl, rfl, rfl⟩

theorem Mute.onTheWay (h : Mute c d) : d.onTheWay = c.onTheWay := by
  rw [Client.onTheWay, h.due, h.dispatched, Client.onTheWay]

theorem heard_handOver {o : Observer} (observed : c.observer = some o) (es : List Event) :
    c.handOver es = { c with heard := c.heard ++ es } := by
  simp [handOver, observed, hearAll_eq]

theorem holdsBack_of_blocking {k : Config} (blocking : k.delivery = .blocking) (m : Message) :
    k.holdsBack m = false := by
  simp [Config.holdsBack, blocking]

theorem heard_dispatch {o : Observer} {inTurn : Bool} (observed : c.observer = some o)
    (now : c.config.delivery = .blocking ∨ inTurn = false) (es : List Event) :
    (c.dispatch inTurn es).heard = c.heard ++ es := by
  unfold Client.dispatch
  rw [if_neg (by rcases now with now | now <;> simp [now]), heard_handOver observed]

namespace Dispatches

theorem of_mute (h : Mute c d) : Dispatches c [] d := .mute .none h

theorem single (c : Client) (inTurn : Bool) (es : List Event) :
    Dispatches c (es.map (.mk inTurn)) (c.dispatch inTurn es) := .dispatch inTurn es .none

theorem trans (h : Dispatches c ms d) (g : Dispatches d ns e) : Dispatches c (ms ++ ns) e := by
  induction g with
  | none => rwa [List.append_nil]
  | mute _ same ih => exact .mute ih same
  | dispatch inTurn es _ ih =>
    rw [← List.append_assoc]
    exact .dispatch inTurn es ih

structure Effect (c : Client) (ms : List Message) (d : Client) : Prop where
  config : d.config = c.config
  observer : d.observer = c.observer
  due : d.due = c.due
  heard : d.heard = c.heard ++ (ms.filter (!c.config.holdsBack ·)).map (·.event)
  dispatched : d.dispatched = c.dispatched ++ (ms.filter c.config.holdsBack).map (·.event)

theorem Effect.onTheWay (h : Effect c ms d) :
    d.onTheWay = c.onTheWay ++ (ms.filter c.config.holdsBack).map (·.event) := by
  rw [Client.onTheWay, h.due, h.dispatched, ← List.append_assoc, Client.onTheWay]

theorem effect_single {o : Observer} (observed : c.observer = some o) (inTurn : Bool)
    (es : List Event) : Effect c (es.map (.mk inTurn)) (c.dispatch inTurn es) := by
  have holds (e : Event) : c.config.holdsBack ⟨inTurn, e⟩ =
      (inTurn && c.config.delivery = .nonBlocking) := rfl
  unfold Client.dispatch
  split
  · next later =>
    rw [observed]
    constructor <;> simp [List.filter_map, Function.comp_def, holds, later, observed]
  · next now =>
    rw [heard_handOver observed]
    constructor <;> simp [List.filter_map, Function.comp_def, holds, now]

theorem effect (h : Dispatches c ms d) {o : Observer} (observed : c.observer = some o) :
    Effect c ms d := by
  induction h with
  | none => exact ⟨rfl, rfl, rfl, by simp, by simp⟩
  | mute _ same ih =>
    exact ⟨same.config.trans ih.config, same.observer.trans ih.observer, same.due.trans ih.due,
      same.heard.trans ih.heard, same.dispatched.trans ih.dispatched⟩
  | @dispatch ms d inTurn es _ ih =>
    have last := effect_single (ih.observer.trans observed) inTurn es
    refine ⟨last.config.trans ih.config, last.observer.trans ih.observer, last.due.trans ih.due,
      ?_, ?_⟩
    · rw [last.heard, ih.heard, ih.config, List.filter_append, List.map_append, List.append_assoc]
    · rw [last.dispatched, ih.dispatched, ih.config, List.filter_append, List.map_append,
        List.append_assoc]

end Dispatches

theorem mute_joinLoad (c : Client) : Mute c c.joinLoad.2 := by
  cases inFlight : c.state.inFlight with
  | some n =>
    rw [joinLoad_of_inFlight inFlight]
    exact .refl c
  | none =>
    rw [joinLoad_of_free inFlight]
    exact ⟨rfl, rfl, rfl, rfl, rfl⟩

theorem dispatches_answer (c : Client) (inTurn : Bool) (q : Inquiry) (served : Option Served) :
    ∃ ms, Dispatches c ms (c.answer inTurn q served).2 := by
  cases q <;> exact ⟨_, .single c inTurn _⟩

theorem dispatches_inquire (c : Client) (inTurn : Bool) (q : Inquiry) :
    ∃ ms, Dispatches c ms (c.inquire inTurn q).2 := by
  have joined := Dispatches.of_mute (mute_joinLoad c)
  have joins (served : Option Served) :
      ∃ ms, Dispatches c ms (c.joinLoad.2.answer inTurn q served).2 := by
    obtain ⟨ms, answered⟩ := dispatches_answer c.joinLoad.2 inTurn q served
    exact ⟨_, joined.trans answered⟩
  unfold inquire
  split
  · dsimp only
    split
    · exact joins _
    · exact ⟨_, joined⟩
  · split
    · exact dispatches_answer ..
    · dsimp only
      split
      · exact ⟨_, joined⟩
      · exact joins _

mutual

theorem dispatches_begin (c : Client) (inTurn : Bool) : (op : Operation) →
    ∃ ms, Dispatches c ms (c.begin inTurn op).2
  | .load => ⟨_, .of_mute (mute_joinLoad c)⟩
  | .snapshot => ⟨_, .none⟩
  | .sleep _ => ⟨_, .none⟩
  | .evaluate q => dispatches_inquire c inTurn q
  | .join ops => dispatches_beginAll c inTurn ops
  | .within _ op => dispatches_begin c inTurn op
  | .outOfTurn op => dispatches_begin c false op

theorem dispatches_beginAll (c : Client) (inTurn : Bool) : (ops : List Operation) →
    ∃ ms, Dispatches c ms (c.beginAll inTurn ops).2
  | [] => ⟨_, .none⟩
  | op :: ops => by
    obtain ⟨ms, first⟩ := dispatches_begin c inTurn op
    obtain ⟨ns, rest⟩ := dispatches_beginAll (c.begin inTurn op).2 inTurn ops
    exact ⟨_, first.trans rest⟩

end

mutual

theorem dispatches_poll (c : Client) : (t : Task) → ∃ ms, Dispatches c ms (c.poll t).2
  | .done _ => ⟨_, .none⟩
  | .napping _ => ⟨_, .none⟩
  | .loading _ => by
    unfold poll
    split <;> exact ⟨_, .none⟩
  | .awaiting _ q inTurn => by
    unfold poll
    split
    · exact dispatches_answer c inTurn q _
    · exact ⟨_, .none⟩
  | .refreshing _ _ _ q inTurn => by
    unfold poll
    split
    · exact dispatches_answer c inTurn q _
    · exact ⟨_, .none⟩
  | .joined ts => by
    unfold poll
    exact dispatches_pollAll c ts
  | .limited _ t => by
    unfold poll
    exact dispatches_poll c t

theorem dispatches_pollAll (c : Client) : (ts : List Task) → ∃ ms, Dispatches c ms (c.pollAll ts).2
  | [] => ⟨_, .none⟩
  | t :: ts => by
    unfold pollAll
    obtain ⟨ms, first⟩ := dispatches_poll c t
    obtain ⟨ns, rest⟩ := dispatches_pollAll (c.poll t).2 ts
    exact ⟨_, first.trans rest⟩

end

def LoadDispatches (c : Client) (ms : List Message) (d : Client) : Prop :=
  Dispatches c ms d ∧ ∀ m ∈ ms, m.inTurn ∧ m.event.ofEvaluation = false

namespace LoadDispatches

theorem of_mute (h : Mute c d) : LoadDispatches c [] d := ⟨.of_mute h, List.forall_mem_nil _⟩

theorem single (c : Client) {e : Event} (load : e.ofEvaluation = false) :
    LoadDispatches c [⟨true, e⟩] (c.dispatch true [e]) :=
  ⟨.single c true [e], List.forall_mem_singleton.2 ⟨rfl, load⟩⟩

theorem trans (h : LoadDispatches c ms d) (g : LoadDispatches d ns e) :
    LoadDispatches c (ms ++ ns) e :=
  ⟨h.1.trans g.1, List.forall_mem_append.2 ⟨h.2, g.2⟩⟩

theorem mute (h : LoadDispatches c ms d) (g : Mute d e) : LoadDispatches c ms e :=
  ⟨.mute h.1 g, h.2⟩

end LoadDispatches

theorem ofEvaluation_ofFailure (attempt : Nat) (payload : Option Payload) (e : LoadError) :
    (Event.ofFailure attempt payload e).ofEvaluation = false := by
  unfold Event.ofFailure
  split <;> rfl

theorem dispatches_makeMove (c : Client) (s : Sequence) (m : Move) :
    ∃ ms, LoadDispatches c ms (c.makeMove s m).2 := by
  cases m with
  | tryNext => exact ⟨_, .of_mute ⟨rfl, rfl, rfl, rfl, rfl⟩⟩
  | conclude call token r =>
    unfold makeMove
    dsimp only
    split
    · next served _ =>
      let installed : Client := { c with state := { c.state with
        specification := some served, loadedAt := some c.now, inFlight := none } }
      have silent : LoadDispatches c [] installed := .of_mute ⟨rfl, rfl, rfl, rfl, rfl⟩
      exact ⟨_, silent.trans (.single installed rfl)⟩
    · have told (attempt : Nat) (payload : Option Payload) (e : LoadError) :=
        LoadDispatches.single c (ofEvaluation_ofFailure attempt payload e)
      unfold afterFailure
      dsimp only
      split
      · exact ⟨_, (told ..).mute ⟨rfl, rfl, rfl, rfl, rfl⟩⟩
      · exact ⟨_, told ..⟩

theorem dispatches_moveSequence? (h : c.moveSequence? = some d) :
    ∃ ms, LoadDispatches c ms d := by
  obtain ⟨before, s, after, m, -, -, rfl⟩ := of_moveSequence? h
  obtain ⟨ms, told⟩ := dispatches_makeMove c s m
  exact ⟨ms, told.mute ⟨rfl, rfl, rfl, rfl, rfl⟩⟩

theorem dispatches_loadStep? (h : c.loadStep? = some d) : ∃ ms, LoadDispatches c ms d := by
  rcases (Option.orElse_eq_some _ _ _).1 h with moved | ⟨-, ended⟩
  · exact dispatches_moveSequence? moved
  · obtain ⟨split, -, rfl⟩ := Option.map_eq_some_iff.1 ended
    exact ⟨_, .of_mute ⟨rfl, rfl, rfl, rfl, rfl⟩⟩

theorem dispatches_loadAll (c : Client) : ∃ ms, LoadDispatches c ms c.loadAll := by
  fun_induction loadAll c with
  | case1 c => exact ⟨_, .of_mute (.refl c)⟩
  | case2 c next found less ih =>
    obtain ⟨ms, first⟩ := dispatches_loadStep? found
    obtain ⟨ns, rest⟩ := ih
    exact ⟨_, first.trans rest⟩

theorem dispatches_loadTimes (c : Client) (k : Nat) :
    ∃ ms, LoadDispatches c ms (c.loadTimes k) := by
  induction k generalizing c with
  | zero => exact ⟨_, .of_mute (.refl c)⟩
  | succ k ih =>
    obtain ⟨ns, rest⟩ := ih (c.loadStep?.getD c)
    cases step : c.loadStep? with
    | none =>
      rw [step] at rest
      refine ⟨ns, ?_⟩
      rwa [loadTimes, step]
    | some d =>
      obtain ⟨ms, first⟩ := dispatches_loadStep? step
      rw [step] at rest
      refine ⟨ms ++ ns, ?_⟩
      rw [loadTimes, step]
      exact first.trans rest

theorem Step.relays {posted : List Message} {woken : List Event} (h : Relays b posted woken c)
    (step : Step c d) : ∃ ms es, Relays b (posted ++ ms) (woken ++ es) d := by
  have work {ms : List Message} (told : Dispatches c ms d) :
      ∃ ms es, Relays b (posted ++ ms) (woken ++ es) d :=
    ⟨ms, [], by simpa using h.work told⟩
  cases step with
  | begin inTurn op =>
    obtain ⟨ms, told⟩ := dispatches_begin c inTurn op
    exact work told
  | poll t =>
    obtain ⟨ms, told⟩ := dispatches_poll c t
    exact work told
  | move moved =>
    obtain ⟨ms, told, -⟩ := dispatches_moveSequence? moved
    exact work told
  | deliver => exact ⟨[], [], by simpa using h.deliver⟩
  | rouse perm => exact ⟨[], _, by simpa using h.rouse perm⟩
  | _ => exact work (.of_mute ⟨rfl, rfl, rfl, rfl, rfl⟩)

namespace Relays

variable {posted : List Message} {woken : List Event}

theorem steps (h : Relays b posted woken c) (steps : Steps c d) :
    ∃ ms es, Relays b (posted ++ ms) (woken ++ es) d := by
  induction steps with
  | refl => exact ⟨[], [], by simpa using h⟩
  | tail _ step ih =>
    obtain ⟨ms, es, run⟩ := ih
    obtain ⟨ns, fs, run⟩ := step.relays run
    exact ⟨ms ++ ns, es ++ fs, by simpa using run⟩

theorem setup (h : Relays b posted woken c) {o : Observer} (observed : b.observer = some o) :
    c.config = b.config ∧ c.observer = some o := by
  induction h with
  | start => exact ⟨rfl, observed⟩
  | work _ told ih =>
    have effect := told.effect ih.2
    exact ⟨effect.config.trans ih.1, effect.observer.trans ih.2⟩
  | @deliver _ _ c _ ih =>
    have same := alike_deliver c
    exact ⟨same.config.trans ih.1, same.observer.trans ih.2⟩
  | rouse _ _ ih => exact ih

end Relays

theorem mk_event_of_holdsBack {k : Config} {m : Message} (h : k.holdsBack m) : ⟨true, m.event⟩ = m := by
  obtain ⟨inTurn, e⟩ := m
  obtain rfl : inTurn = true := (Bool.and_eq_true_iff.1 h).1
  rfl

theorem map_event_filter (k : Config) (ms : List Message) :
    ((ms.filter k.holdsBack).map (·.event)).map (Message.mk true) = ms.filter k.holdsBack := by
  rw [List.map_map]
  exact (List.map_congr_left fun m hm => mk_event_of_holdsBack (List.mem_filter.1 hm).2).trans
    (List.map_id _)

namespace Accounted

variable {posted handed : List Message} {woken : List Event}

theorem work (h : Accounted posted woken handed c) {o : Observer} (observed : c.observer = some o)
    (told : Dispatches c ms d) :
    Accounted (posted ++ ms) woken (handed ++ ms.filter (!c.config.holdsBack ·)) d := by
  have effect := told.effect observed
  refine ⟨?_, ?_, ?_, ?_, ?_⟩
  · rw [effect.heard, h.heard, List.map_append]
  · rw [effect.config, List.filter_append, List.filter_append, h.atOnce, List.filter_filter]
    simp
  · rw [effect.config, effect.due, ← h.heldBack, List.filter_append, List.filter_filter]
    simp
  · rw [effect.onTheWay, effect.config]
    refine List.forall_mem_append.2 ⟨h.waiting, List.forall_mem_map.2 fun m hm => ?_⟩
    have held := (List.mem_filter.1 hm).2
    rwa [mk_event_of_holdsBack held]
  · rw [effect.onTheWay, List.map_append, map_event_filter]
    calc handed ++ ms.filter (!c.config.holdsBack ·) ++
          (c.onTheWay.map (Message.mk true) ++ ms.filter c.config.holdsBack)
      _ ~ handed ++ c.onTheWay.map (Message.mk true) ++
            (ms.filter (!c.config.holdsBack ·) ++ ms.filter c.config.holdsBack) := by
          simp only [List.append_assoc]
          refine List.Perm.append_left _ ?_
          simp only [← List.append_assoc]
          exact List.perm_append_comm.append_right _
      _ ~ posted ++ ms :=
          h.once.append (List.perm_append_comm.trans (List.filter_append_perm _ ms))

theorem deliver (h : Accounted posted woken handed c) {o : Observer}
    (observed : c.observer = some o) :
    Accounted posted woken (handed ++ c.due.map (Message.mk true)) c.deliver := by
  have delivered : c.deliver = { c with heard := c.heard ++ c.due, due := [] } := by
    rw [Client.deliver, heard_handOver observed]
  obtain ⟨waitingDue, waitingDispatched⟩ := List.forall_mem_append.1 h.waiting
  have held : (c.due.map (Message.mk true)).filter c.config.holdsBack = c.due.map (Message.mk true) :=
    List.filter_eq_self.2 (List.forall_mem_map.2 waitingDue)
  have late : (c.due.map (Message.mk true)).filter (!c.config.holdsBack ·) = [] :=
    List.filter_eq_nil_iff.2 (List.forall_mem_map.2 fun e he => by simp [waitingDue e he])
  have events : (c.due.map (Message.mk true)).map (·.event) = c.due := by
    rw [List.map_map]
    exact List.map_id _
  rw [delivered]
  refine ⟨?_, ?_, ?_, waitingDispatched, ?_⟩
  · rw [List.map_append, events, h.heard]
  · rw [List.filter_append, late, List.append_nil]
    exact h.atOnce
  · rw [List.filter_append, held, List.map_append, events, List.append_nil]
    exact h.heldBack
  · have once := h.once
    rwa [onTheWay, List.map_append, ← List.append_assoc] at once

theorem rouse (h : Accounted posted woken handed c) {es kept : List Event}
    (perm : (es ++ kept).Perm c.dispatched) :
    Accounted posted (woken ++ es) handed (c.rouse es kept) := by
  have onTheWay : (c.rouse es kept).onTheWay.Perm c.onTheWay := by
    simp only [Client.onTheWay, Client.rouse, List.append_assoc]
    exact perm.append_left c.due
  refine ⟨h.heard, h.atOnce, ?_, fun e he => h.waiting e (onTheWay.mem_iff.1 he), ?_⟩
  · rw [Client.rouse, ← List.append_assoc]
    exact congrArg (· ++ es) h.heldBack
  · exact ((onTheWay.map _).append_left handed).trans h.once

theorem of_blocking (h : Accounted posted woken handed c)
    (blocking : c.config.delivery = .blocking) :
    c.heard = posted.map (·.event) ∧ c.due = [] ∧ c.dispatched = [] := by
  have now := holdsBack_of_blocking blocking
  have all : handed = posted := by simpa only [now, Bool.not_false, List.filter_true] using h.atOnce
  have none : c.onTheWay = [] :=
    List.eq_nil_iff_forall_not_mem.2 fun e he => by simpa [now] using h.waiting e he
  exact ⟨all ▸ h.heard, List.append_eq_nil_iff.1 none⟩

end Accounted

theorem Relays.accounted {posted : List Message} {woken : List Event} (h : Relays b posted woken c)
    {o : Observer} (observed : b.observer = some o)
    (fresh : b.heard = [] ∧ b.due = [] ∧ b.dispatched = []) :
    ∃ handed, Accounted posted woken handed c := by
  induction h with
  | start =>
    obtain ⟨heard, due, dispatched⟩ := fresh
    have none : b.onTheWay = [] := by rw [onTheWay, due, dispatched, List.append_nil]
    exact ⟨[], heard, rfl, due, by simp [none], by simp [none]⟩
  | work before told ih =>
    obtain ⟨handed, account⟩ := ih
    exact ⟨_, account.work (before.setup observed).2 told⟩
  | deliver before ih =>
    obtain ⟨handed, account⟩ := ih
    exact ⟨_, account.deliver (before.setup observed).2⟩
  | rouse _ perm ih =>
    obtain ⟨handed, account⟩ := ih
    exact ⟨_, account.rouse perm⟩

end FeatureFlags.Client
