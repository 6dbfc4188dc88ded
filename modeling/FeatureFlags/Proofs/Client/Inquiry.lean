import FeatureFlags.Proofs.Client.Refresh

namespace FeatureFlags.Client

inductive Evaluating (c : Client) (inTurn : Bool) (q : Inquiry) : Task × Client → Prop
  | begin : Evaluating c inTurn q (c.begin inTurn (.evaluate q))
  | poll : Evaluating c inTurn q p → p.1.reply? = none → Steps p.2 d →
    Evaluating c inTurn q (d.poll p.1)

/-- What an evaluation gets at `d` that began at `c`: what is served, or where nothing was served
what the sequence has loaded that it waited for. -/
inductive Gets (c d : Client) : Option Served → Prop
  | serves : Gets c d d.state.specification
  | loads : c.state.specification = none → d.result? c.joinLoad.1 = some r → Gets c d r.toOption

inductive Waiting (c : Client) (inTurn : Bool) (q : Inquiry) : Task × Client → Prop
  | first : c.state.specification = none → Steps c d →
    Waiting c inTurn q (.awaiting c.joinLoad.1 q inTurn, d)
  | refresh : c.state.specification = some current → Steps c d →
    Waiting c inTurn q (.refreshing c.joinLoad.1 limit current q inTurn, d)

def Answered (c : Client) (inTurn : Bool) (q : Inquiry) (p : Task × Client) : Prop :=
  ∃ d served, Steps c d ∧ Gets c d served ∧ p = d.answer inTurn q served

variable {c d : Client} {inTurn : Bool} {q : Inquiry} {p : Task × Client}

theorem reply?_answer_ne_none {served : Option Served} :
    (c.answer inTurn q served).1.reply? ≠ none :=
  Option.isSome_iff_ne_none.1 (reply?_answer c inTurn q served)

theorem answers_or_waits (inTurn : Bool) (q : Inquiry) :
    (∃ b, (b = c ∨ b = c.joinLoad.2) ∧
      c.begin inTurn (.evaluate q) = b.answer inTurn q b.state.specification) ∨
    ∃ t, c.begin inTurn (.evaluate q) = (t, c.joinLoad.2) ∧
      Waiting c inTurn q (t, c.joinLoad.2) := by
  have joined : Steps c c.joinLoad.2 := .single (.begin true .load)
  have kept := (keeps_joinLoad c).specification
  rw [begin]
  cases served : c.state.specification with
  | none =>
    rw [inquire, served]
    dsimp only
    split
    · exact .inl ⟨_, .inr rfl, by rw [kept, served]⟩
    · exact .inr ⟨_, rfl, .first served joined⟩
  | some current =>
    rcases inquire_cases served inTurn q with ⟨-, same⟩ | ⟨-, -, same⟩ | ⟨-, -, -, same⟩
    · exact .inl ⟨_, .inl rfl, by rw [same, served]⟩
    · exact .inl ⟨_, .inr rfl, by rw [same, kept, served]⟩
    · exact .inr ⟨_, same, .refresh served joined⟩

theorem answered_of_begin (inTurn : Bool) (q : Inquiry) :
    Answered c inTurn q (c.begin inTurn (.evaluate q)) ∨
      Waiting c inTurn q (c.begin inTurn (.evaluate q)) := by
  rcases answers_or_waits (c := c) inTurn q with ⟨b, here, same⟩ | ⟨t, same, waiting⟩
  · refine .inl ⟨b, _, ?_, ?_, same⟩
    · rcases here with rfl | rfl
      · exact .refl
      · exact .single (.begin true .load)
    · exact .serves
  · exact .inr (same ▸ waiting)

theorem Waiting.poll (h : Waiting c inTurn q p) (flight : Flight c) (steps : Steps p.2 d) :
    Answered c inTurn q (d.poll p.1) ∨ Waiting c inTurn q (d.poll p.1) := by
  cases h with
  | first unserved before =>
    have later := before.trans steps
    rw [Client.poll]
    split
    · next ended => exact .inl ⟨d, _, later, .loads unserved ended, rfl⟩
    · exact .inr (.first unserved later)
  | refresh served before =>
    have later := before.trans steps
    rw [Client.poll]
    split
    · obtain ⟨latest, current⟩ := Option.isSome_iff_exists.1
        (flight.served_steps later (Option.isSome_of_eq_some served))
      exact .inl ⟨d, _, later, .serves, by rw [current, Option.getD_some]⟩
    · exact .inr (.refresh served later)

theorem Evaluating.answered_or_waiting (h : Evaluating c inTurn q p) (flight : Flight c) :
    Answered c inTurn q p ∨ Waiting c inTurn q p := by
  induction h with
  | begin => exact answered_of_begin inTurn q
  | poll _ undone steps ih =>
    rcases ih with ⟨d, served, -, -, rfl⟩ | waiting
    · exact absurd undone reply?_answer_ne_none
    · exact waiting.poll flight steps

theorem Evaluating.answered (h : Evaluating c inTurn q p) (flight : Flight c) {r : Reply}
    (replied : p.1.reply? = some r) : Answered c inTurn q p := by
  refine (h.answered_or_waiting flight).resolve_right fun waiting => ?_
  cases waiting <;> cases replied

theorem begin_evaluate_of_undone (undone : (c.begin inTurn (.evaluate q)).1.reply? = none) :
    (c.begin inTurn (.evaluate q)).2 = c.joinLoad.2 := by
  rcases answers_or_waits (c := c) inTurn q with ⟨b, -, same⟩ | ⟨t, same, -⟩
  · exact absurd (same ▸ undone) reply?_answer_ne_none
  · rw [same]

theorem Evaluating.waits (h : Evaluating c inTurn q p) (flight : Flight c)
    (undone : p.1.reply? = none) (still : (d.poll p.1).1.reply? = none) :
    d.poll p.1 = (p.1, d) := by
  rcases h.answered_or_waiting flight with ⟨e, served, -, -, rfl⟩ | waiting
  · exact absurd undone reply?_answer_ne_none
  cases waiting with
  | first =>
    rw [Client.poll] at still ⊢
    split at still
    · exact absurd still reply?_answer_ne_none
    · rfl
  | refresh =>
    rw [Client.poll] at still ⊢
    split at still
    · exact absurd still reply?_answer_ne_none
    · next unready => exact if_neg unready

theorem Evaluating.atInstant (h : Evaluating c inTurn q p) (undone : p.1.reply? = none)
    (steps : Steps p.2 d) (registered : Registered d) :
    Evaluating c inTurn q (d.atInstant p.1) := by
  have polled := h.poll undone steps
  unfold Client.atInstant
  dsimp only
  split
  · exact polled
  · next waits =>
    have known := registered.step (.poll p.1)
    exact polled.poll (Option.not_isSome_iff_eq_none.1 waits) (steps_turn known)

theorem evaluating_await {t : Task} {r : Reply} (registered : Registered d)
    (replied : (d.await t).1 = some r) (b : Client) (h : Evaluating c inTurn q (t, b))
    (steps : Steps b d) : ∃ p, Evaluating c inTurn q p ∧ p.1.reply? = some r := by
  revert b
  fun_induction Client.await d t with
  | case1 d t s done =>
    intro b h steps
    cases replied
    exact ⟨_, h, done⟩
  | case2 => cases replied
  | case3 d t waiting x found next less settled ih =>
    intro b h steps
    have waited : Steps d (d.settle.waitFor x) := (steps_settle registered).tail (.wait x)
    have known := registered.steps waited
    have arrived := h.atInstant waiting (steps.trans waited) known
    exact ih (known.steps (steps_atInstant known t)) replied _ arrived .refl

theorem evaluating_runOne (registered : Registered c) {r : Reply}
    (replied : (c.runOne (.evaluate q)).1.reply = some r) :
    ∃ p, Evaluating c true q p ∧ p.1.reply? = some r := by
  have known := registered.step (.begin true (.evaluate q))
  have started : Evaluating c true q (c.start (.evaluate q)) := by
    unfold start
    dsimp only
    split
    · exact .begin
    · next waits =>
      exact Evaluating.begin.poll (Option.not_isSome_iff_eq_none.1 waits) (steps_turn known)
  exact evaluating_await (registered.steps (steps_start registered _)) replied _ started .refl

end FeatureFlags.Client
