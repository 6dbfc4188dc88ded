import FeatureFlags.Proofs.Client.Step
import Mathlib.Data.List.Basic

namespace FeatureFlags.Client

variable {c d : Client}

def sent (c : Client) : List Event := c.heard ++ c.due ++ c.dispatched

def sentOfLoads (c : Client) : List Event := c.sent.filter (!·.ofEvaluation)

def Sends (c : Client) (es : List Event) (d : Client) : Prop :=
  d.sentOfLoads.Perm (c.sentOfLoads ++ es)

theorem hearAll_eq (o : Observer) (heard es : List Event) : o.hearAll heard es = heard ++ es := by
  induction es generalizing heard with
  | nil => simp [Observer.hearAll]
  | cons e es ih =>
    unfold Observer.hearAll Observer.hear
    split
    · next h =>
      split at h
      · cases h
      · cases h
        simp [ih]
    · next h =>
      split at h
      · cases h
        simp [ih]
      · cases h

theorem sent_handOver {o : Observer} (observed : c.observer = some o) (es : List Event) :
    (c.handOver es).sent.Perm (c.sent ++ es) := by
  have heard : c.handOver es = { c with heard := c.heard ++ es } := by
    simp [handOver, observed, hearAll_eq]
  rw [heard]
  simp only [sent, List.append_assoc]
  exact (List.perm_append_comm.trans (by simp)).append_left c.heard

theorem sent_dispatch {o : Observer} (observed : c.observer = some o) (inTurn : Bool)
    (es : List Event) : (c.dispatch inTurn es).sent.Perm (c.sent ++ es) := by
  unfold dispatch
  split
  · simp [observed, sent]
  · exact sent_handOver observed es

theorem dispatch_of_unobserved (unobserved : c.observer = none) (inTurn : Bool) (es : List Event) :
    c.dispatch inTurn es = c := by
  simp [dispatch, handOver, unobserved]

namespace Sends

variable {es fs : List Event}

theorem of_sent (h : d.sent = c.sent) : c.Sends [] d := by
  simp [Sends, sentOfLoads, h]

theorem refl (c : Client) : c.Sends [] c := of_sent rfl

theorem trans {e : Client} (h : c.Sends es d) (g : d.Sends fs e) : c.Sends (es ++ fs) e := by
  unfold Sends at *
  rw [← List.append_assoc]
  exact g.trans (h.append_right fs)

theorem unique (h : c.Sends es d) (g : c.Sends fs d) : es.Perm fs :=
  (List.perm_append_left_iff _).1 (h.symm.trans g)

theorem eq_of_single {e : Event} (h : c.Sends fs d) (g : c.Sends [e] d) : fs = [e] :=
  List.perm_singleton.1 (h.unique g)

theorem eq_nil (h : c.Sends fs d) (g : c.Sends [] d) : fs = [] := List.perm_nil.1 (h.unique g)

theorem dispatch {o : Observer} (observed : c.observer = some o) (inTurn : Bool) (es : List Event) :
    c.Sends (es.filter (!·.ofEvaluation)) (c.dispatch inTurn es) := by
  unfold Sends sentOfLoads
  rw [← List.filter_append]
  exact (sent_dispatch observed inTurn es).filter _

theorem dispatch_evaluation (inTurn : Bool) (h : ∀ e ∈ es, e.ofEvaluation) :
    c.Sends [] (c.dispatch inTurn es) := by
  cases observer : c.observer with
  | none =>
    rw [dispatch_of_unobserved observer]
    exact refl c
  | some o =>
    have none : es.filter (!·.ofEvaluation) = [] := by simpa [List.filter_eq_nil_iff] using h
    exact none ▸ dispatch observer inTurn es

end Sends

def Answer.OfEvaluation {α : Type} (a : Answer α) : Prop := ∀ e ∈ a.events, e.ofEvaluation

namespace Config

variable (c : Config) {S : Specification} {served : Option Served} {now : Moment} {flag : String}
  {type : FlagType} {context : Context}

theorem ofEvaluation_fallBack {reason : EvaluationError} :
    (c.fallBack flag type reason).OfEvaluation :=
  List.forall_mem_singleton.2 rfl

theorem ofEvaluation_detailIn : (c.detailIn S now flag type context).OfEvaluation := by
  unfold detailIn
  split
  · exact c.ofEvaluation_fallBack
  · split
    · have warnings (ws : List Warning) : ∀ e ∈ ws.map (Event.warning flag), e.ofEvaluation :=
        List.forall_mem_map.2 fun _ _ => rfl
      dsimp only
      split
      · exact warnings _
      · exact List.forall_mem_append.2 ⟨warnings _, c.ofEvaluation_fallBack⟩
    · split
      · exact List.forall_mem_nil _
      · exact c.ofEvaluation_fallBack

theorem ofEvaluation_detail : (c.detail served now flag type context).OfEvaluation := by
  cases served with
  | none => exact c.ofEvaluation_fallBack
  | some s => exact c.ofEvaluation_detailIn

theorem ofEvaluation_allIn (fs : List FeatureFlag) (values : List (String × FlagValue)) :
    (c.allIn S now context values fs).OfEvaluation := by
  induction fs generalizing values with
  | nil => exact List.forall_mem_nil _
  | cons f fs ih =>
    unfold allIn
    exact List.forall_mem_append.2 ⟨c.ofEvaluation_detailIn, ih _⟩

theorem ofEvaluation_all : (c.all served now context).OfEvaluation := by
  cases served with
  | none =>
    unfold all
    refine List.forall_mem_flatMap.2 (List.forall_mem_map.2 fun named _ => ?_)
    exact c.ofEvaluation_fallBack
  | some s => exact c.ofEvaluation_allIn _ _

end Config

theorem sends_answer (c : Client) (inTurn : Bool) (q : Inquiry) (served : Option Served) :
    c.Sends [] (c.answer inTurn q served).2 := by
  cases q with
  | detail flag type context => exact .dispatch_evaluation inTurn c.config.ofEvaluation_detail
  | value flag type context => exact .dispatch_evaluation inTurn c.config.ofEvaluation_detail
  | all context => exact .dispatch_evaluation inTurn c.config.ofEvaluation_all

theorem sends_joinLoad (c : Client) : c.Sends [] c.joinLoad.2 := by
  unfold joinLoad
  split
  · exact .refl c
  · exact .of_sent rfl

theorem sends_inquire (c : Client) (inTurn : Bool) (q : Inquiry) :
    c.Sends [] (c.inquire inTurn q).2 := by
  have joins (served : Option Served) : c.Sends [] (c.joinLoad.2.answer inTurn q served).2 :=
    (sends_joinLoad c).trans (sends_answer ..)
  unfold inquire
  split
  · dsimp only
    split
    · exact joins _
    · exact sends_joinLoad c
  · split
    · exact sends_answer ..
    · dsimp only
      split
      · exact sends_joinLoad c
      · exact joins _

mutual

theorem sends_begin (c : Client) (inTurn : Bool) : (op : Operation) →
    c.Sends [] (c.begin inTurn op).2
  | .load => sends_joinLoad c
  | .snapshot => .refl c
  | .sleep _ => .refl c
  | .evaluate q => sends_inquire c inTurn q
  | .join ops => sends_beginAll c inTurn ops
  | .within _ op => sends_begin c inTurn op
  | .outOfTurn op => sends_begin c false op

theorem sends_beginAll (c : Client) (inTurn : Bool) : (ops : List Operation) →
    c.Sends [] (c.beginAll inTurn ops).2
  | [] => .refl c
  | op :: ops => (sends_begin c inTurn op).trans (sends_beginAll _ inTurn ops)

end

mutual

theorem sends_poll (c : Client) : (t : Task) → c.Sends [] (c.poll t).2
  | .done _ => .refl c
  | .napping _ => .refl c
  | .loading _ => by
    unfold poll
    split <;> exact .refl c
  | .awaiting _ q inTurn => by
    unfold poll
    split
    · exact sends_answer c inTurn q _
    · exact .refl c
  | .refreshing _ _ _ q inTurn => by
    unfold poll
    split
    · exact sends_answer c inTurn q _
    · exact .refl c
  | .joined ts => by
    unfold poll
    exact sends_pollAll c ts
  | .limited _ t => by
    unfold poll
    exact sends_poll c t

theorem sends_pollAll (c : Client) : (ts : List Task) → c.Sends [] (c.pollAll ts).2
  | [] => .refl c
  | t :: ts => by
    unfold pollAll
    exact (sends_poll c t).trans (sends_pollAll _ ts)

end

theorem sends_deliver (c : Client) (observed : c.observer.isSome) : c.Sends [] c.deliver := by
  obtain ⟨o, observer⟩ := Option.isSome_iff_exists.1 observed
  apply Sends.of_sent
  simp [sent, deliver, handOver, observer, hearAll_eq]

theorem Effect.observer (h : Effect c d) : d.observer = c.observer := by
  cases h with
  | join free => rw [joinLoad_of_free free]
  | _ => rfl

theorem observer_of_steps (steps : Steps c d) : d.observer = c.observer := by
  induction steps with
  | refl => rfl
  | tail _ step ih =>
    obtain ⟨e, effect, same⟩ := step.effect
    exact same.observer.trans (effect.observer.trans ih)

theorem sends_rouse {woken kept : List Event} (perm : (woken ++ kept).Perm c.dispatched) :
    c.Sends [] (c.rouse woken kept) := by
  have same : (c.rouse woken kept).sent.Perm c.sent := by
    simp only [sent, rouse, List.append_assoc]
    exact (perm.append_left c.due).append_left c.heard
  rw [Sends, List.append_nil]
  exact same.filter _

theorem Step.sends_of_ne (step : Step c d) (observed : c.observer.isSome)
    (still : c.moveSequence? ≠ some d) : c.Sends [] d := by
  cases step with
  | begin inTurn op => exact sends_begin c inTurn op
  | poll t => exact sends_poll c t
  | move moved => exact absurd moved still
  | finish => exact .of_sent rfl
  | issue => exact .of_sent rfl
  | deliver => exact sends_deliver c observed
  | rouse perm => exact sends_rouse perm
  | wait => exact .of_sent rfl

theorem Step.eq_nil_of_ne (step : Step c d) (observed : c.observer.isSome)
    (still : c.moveSequence? ≠ some d) {fs : List Event} (sends : c.Sends fs d) : fs = [] :=
  sends.eq_nil (step.sends_of_ne observed still)

section

variable {o : Observer} (observed : c.observer = some o) (s : Sequence)

include observed

theorem sends_afterFailure (e : LoadError) (payload : Option Payload) :
    c.Sends [.ofFailure (c.config.attempts - s.triesLeft) payload e]
      (c.afterFailure s e payload).2 := by
  have load : Event.ofEvaluation (.ofFailure (c.config.attempts - s.triesLeft) payload e) =
      false := by
    unfold Event.ofFailure
    split <;> rfl
  have told := Sends.dispatch observed true [.ofFailure (c.config.attempts - s.triesLeft) payload e]
  rw [List.filter_cons_of_pos (by simp [load]), List.filter_nil] at told
  unfold afterFailure
  dsimp only
  split
  · exact told
  · exact told

theorem sends_install (served : Served) : c.Sends [.loaded served] (c.install served) :=
  Sends.dispatch (c := { c with state := { c.state with
    specification := some served, loadedAt := some c.now, inFlight := none } }) observed true
    [.loaded served]

end

theorem sends_makeMove (observed : c.observer.isSome) (s : Sequence) (m : Move) :
    ∃ fs : List Event, fs.length ≤ 1 ∧ c.Sends fs (c.makeMove s m).2 := by
  obtain ⟨o, observer⟩ := Option.isSome_iff_exists.1 observed
  cases m with
  | tryNext => exact ⟨[], Nat.zero_le _, .of_sent rfl⟩
  | conclude call token r =>
    unfold makeMove
    dsimp only
    split
    · exact ⟨[_], Nat.le_refl 1, sends_install observer _⟩
    · exact ⟨[_], Nat.le_refl 1, sends_afterFailure observer s _ _⟩

theorem Step.sends (step : Step c d) (observed : c.observer.isSome) :
    ∃ fs : List Event, fs.length ≤ 1 ∧ c.Sends fs d := by
  by_cases moved : c.moveSequence? = some d
  · obtain ⟨before, s, after, m, parts, move, rfl⟩ := of_moveSequence? moved
    exact sends_makeMove observed s m
  · exact ⟨[], Nat.zero_le _, step.sends_of_ne observed moved⟩

end FeatureFlags.Client
