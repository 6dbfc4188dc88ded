import FeatureFlags.Proofs.Client.Idle

namespace FeatureFlags.Client

structure Scene where
  client : Client
  callers : List (Option Task) := []

inductive Action
  | begin (inTurn : Bool) (op : Operation)
  | poll (caller : Nat)
  | giveUp (caller : Nat)
  | load
  | deliver
  | defer
  | turn
  | wait (instant : Nat)

def Action.stays : Action → Bool
  | .giveUp _ => false
  | _ => true

def Action.begins : Action → Bool
  | .begin .. => true
  | _ => false

namespace Scene

def task? (s : Scene) (caller : Nat) : Option Task := s.callers[caller]?.join

def act (s : Scene) : Action → Scene
  | .begin inTurn op =>
    let begun := s.client.begin inTurn op
    { client := begun.2, callers := s.callers ++ [some begun.1] }
  | .poll i =>
    match s.task? i with
    | some t =>
      let polled := s.client.poll t
      { client := polled.2, callers := s.callers.set i (some polled.1) }
    | none => s
  | .giveUp i => { s with callers := s.callers.set i none }
  | .load => { s with client := s.client.loadStep?.getD s.client }
  | .deliver => { s with client := s.client.deliver }
  | .defer => { s with client := s.client.defer }
  | .turn => { s with client := s.client.turn }
  | .wait x => { s with client := s.client.waitFor x }

def play (s : Scene) (σ : List Action) : Scene := σ.foldl act s

/-- The client is as far in both scenes, and so is every caller who is there in both; others than
those who are gone are there in both or in none. -/
structure Agree (gone : Nat → Prop) (s t : Scene) : Prop where
  now : t.client.now = s.client.now
  state : t.client.state = s.client.state
  results : t.client.result? = s.client.result?
  calls : t.client.calls = s.client.calls
  tasks : ∀ i a b, s.task? i = some a → t.task? i = some b → a = b
  stays : ∀ i, ¬ gone i → t.task? i = s.task? i

structure Thins (gone : Nat → Prop) (s t : Scene) : Prop where
  client : Akin s.client t.client
  length : t.callers.length = s.callers.length
  tasks : ∀ i a, t.task? i = some a → s.task? i = some a
  stays : ∀ i, ¬ gone i → t.task? i = s.task? i

variable {s t : Scene} {σ τ : List Action}

@[simp] theorem play_nil : s.play [] = s := rfl

@[simp] theorem play_cons (a : Action) : s.play (a :: σ) = (s.act a).play σ := rfl

@[simp] theorem play_append : s.play (σ ++ τ) = (s.play σ).play τ := List.foldl_append

theorem join_getElem?_concat (as : List (Option α)) (a : Option α) (i : Nat) :
    (as ++ [a])[i]?.join = if i = as.length then a else as[i]?.join := by
  split
  · next last => simp [last]
  · next other =>
    by_cases earlier : i < as.length
    · rw [List.getElem?_append_left earlier]
    · rw [List.getElem?_eq_none (by simp; omega), List.getElem?_eq_none (by omega)]

theorem join_getElem?_set (as : List (Option α)) (a : Option α) (i j : Nat) :
    (as.set i a)[j]?.join = if i = j ∧ j < as.length then a else as[j]?.join := by
  rw [List.getElem?_set]
  by_cases same : i = j
  · subst same
    by_cases there : i < as.length <;> simp [there]
  · simp [same]

namespace Thins

variable {gone : Nat → Prop}

theorem refl (s : Scene) : Thins gone s s := ⟨.refl _, rfl, fun _ _ => id, fun _ _ => rfl⟩

theorem trans {u : Scene} (h : Thins gone s t) (g : Thins gone t u) : Thins gone s u :=
  ⟨h.client.trans g.client, g.length.trans h.length, fun i a there => h.tasks i a (g.tasks i a there),
    fun i stays => (g.stays i stays).trans (h.stays i stays)⟩

theorem agree (h : Thins gone s t) : s.Agree gone t :=
  ⟨h.client.now, h.client.state, h.client.result?, h.client.calls,
    fun i _ _ inS inT => Option.some.inj (inS.symm.trans (h.tasks i _ inT)), h.stays⟩

theorem withClient (h : Thins gone s t) {c d : Client} (same : Akin c d) :
    Thins gone { s with client := c } { t with client := d } :=
  ⟨same, h.length, h.tasks, h.stays⟩

theorem begin (h : Thins gone s t) (inTurn : Bool) (op : Operation) :
    Thins gone (s.act (.begin inTurn op)) (t.act (.begin inTurn op)) := by
  obtain ⟨task, client⟩ := h.client.begin inTurn op
  refine ⟨client, by simp [act, h.length], fun i a there => ?_, fun i stays => ?_⟩
  · simp only [task?, act, join_getElem?_concat, h.length, task] at there ⊢
    split
    · next last => rwa [if_pos last] at there
    · next other =>
      rw [if_neg other] at there
      exact h.tasks i a there
  · have same : t.callers[i]?.join = s.callers[i]?.join := h.stays i stays
    simp only [task?, act, join_getElem?_concat, h.length, task, same]

theorem giveUp (h : Thins gone s t) {i : Nat} (leaves : gone i) :
    Thins gone s (t.act (.giveUp i)) := by
  refine ⟨h.client, by simp [act, h.length], fun j a there => ?_, fun j stays => ?_⟩
  · simp only [task?, act, join_getElem?_set] at there
    split at there
    · cases there
    · exact h.tasks j a there
  · have other : i ≠ j := fun same => stays (same ▸ leaves)
    simp only [task?, act, List.getElem?_set_ne other]
    exact h.stays j stays

theorem poll (h : Thins gone s t) (i : Nat) : Thins gone (s.act (.poll i)) (t.act (.poll i)) := by
  cases there : s.task? i with
  | none =>
    have away : t.task? i = none := by
      by_contra present
      obtain ⟨a, present⟩ := Option.ne_none_iff_exists'.1 present
      cases there.symm.trans (h.tasks i a present)
    simpa only [act, there, away] using h
  | some a =>
    cases there' : t.task? i with
    | none =>
      -- the task is there in one scene alone, so its caller is one of those who left
      have left : gone i := by
        by_contra stays
        cases there.symm.trans ((h.stays i stays).symm.trans there')
      simp only [act, there, there']
      refine ⟨h.client.between (alike_poll ..) (.refl _), by simp [h.length], ?_, ?_⟩
      · intro j b there
        have other : i ≠ j := by
          rintro rfl
          cases there'.symm.trans there
        simp only [task?, List.getElem?_set_ne other]
        exact h.tasks j b there
      · intro j stays
        have other : i ≠ j := fun same => stays (same ▸ left)
        simp only [task?, List.getElem?_set_ne other]
        exact h.stays j stays
    | some b =>
      obtain rfl : a = b := Option.some.inj (there.symm.trans (h.tasks i b there'))
      obtain ⟨task, client⟩ := h.client.poll a
      simp only [act, there, there']
      refine ⟨client, by simp [h.length], fun j b there => ?_, fun j stays => ?_⟩
      · simp only [task?, join_getElem?_set, h.length, task] at there ⊢
        split
        · next same => rwa [if_pos same] at there
        · next other =>
          rw [if_neg other] at there
          exact h.tasks j b there
      · have same : t.callers[j]?.join = s.callers[j]?.join := h.stays j stays
        simp only [task?, join_getElem?_set, h.length, task, same]

theorem act (h : Thins gone s t) {a : Action} (stays : a.stays) :
    Thins gone (s.act a) (t.act a) := by
  cases a with
  | begin inTurn op => exact h.begin inTurn op
  | poll i => exact h.poll i
  | giveUp i => cases stays
  | load =>
    cases quiet : s.client.loadStep? with
    | none =>
      have quiet' := h.client.loadStep?_eq_none quiet
      exact h.withClient (by rw [quiet, quiet']; exact h.client)
    | some c =>
      obtain ⟨d, step, same⟩ := h.client.loadStep?_eq_some quiet
      exact h.withClient (by rw [quiet, step]; exact same)
  | deliver => exact h.withClient (h.client.between (alike_deliver _) (alike_deliver _))
  | defer => exact h.withClient (h.client.between (alike_defer _) (alike_defer _))
  | turn => exact h.withClient h.client.turn
  | wait x => exact h.withClient (h.client.waitFor x)

theorem play (h : Thins gone s t) (leave : ∀ i, .giveUp i ∈ σ → gone i) :
    Thins gone (s.play (σ.filter (·.stays))) (t.play σ) := by
  induction σ generalizing s t with
  | nil => exact h
  | cons a σ ih =>
    have later : ∀ i, .giveUp i ∈ σ → gone i := fun i leaves => leave i (.tail _ leaves)
    cases a with
    | giveUp i => exact ih (h.giveUp (leave i (.head _))) later
    | _ => exact ih (h.act rfl) later

end Thins

theorem agree_of_stays (s : Scene) (same : σ.filter (·.stays) = τ.filter (·.stays)) :
    (s.play σ).Agree (fun i => .giveUp i ∈ σ ∨ .giveUp i ∈ τ) (s.play τ) := by
  have left : Thins (.giveUp · ∈ σ) (s.play (σ.filter (·.stays))) (s.play σ) :=
    (Thins.refl s).play fun _ => id
  have right : Thins (.giveUp · ∈ τ) (s.play (τ.filter (·.stays))) (s.play τ) :=
    (Thins.refl s).play fun _ => id
  rw [← same] at right
  have client := left.client.symm.trans right.client
  refine ⟨client.now, client.state, client.result?, client.calls, fun i a b inS inT => ?_,
    fun i stays => ?_⟩
  · exact Option.some.inj ((left.tasks i a inS).symm.trans (right.tasks i b inT))
  · rw [not_or] at stays
    rw [right.stays i stays.2, left.stays i stays.1]

def Leads (s t : Scene) : Prop := ∃ σ : List Action, (∀ a ∈ σ, a.stays) ∧ s.play σ = t

namespace Leads

theorem refl (s : Scene) : Leads s s := ⟨[], by simp, rfl⟩

theorem trans {u : Scene} : Leads s t → Leads t u → Leads s u := by
  rintro ⟨σ, stay, rfl⟩ ⟨τ, stay', rfl⟩
  exact ⟨σ ++ τ, List.forall_mem_append.2 ⟨stay, stay'⟩, play_append⟩

theorem act (a : Action) (stays : a.stays) (s : Scene) : Leads s (s.act a) :=
  ⟨[a], by simpa using stays, rfl⟩

end Leads

section

variable (c : Client) (ts : List (Option Task)) (t : Task)

theorem leads_settle : Leads ⟨c, ts⟩ ⟨c.settle, ts⟩ :=
  (Leads.act .turn rfl _).trans (Leads.act .turn rfl _)

theorem leads_poll : Leads ⟨c, ts ++ [some t]⟩ ⟨(c.poll t).2, ts ++ [some (c.poll t).1]⟩ := by
  have last : task? ⟨c, ts ++ [some t]⟩ ts.length = some t := by simp [task?]
  have polled := Leads.act (.poll ts.length) rfl ⟨c, ts ++ [some t]⟩
  simpa only [Scene.act, last, List.set_append_right _ _ (Nat.le_refl _), Nat.sub_self,
    List.set_cons_zero] using polled

theorem leads_atInstant :
    Leads ⟨c, ts ++ [some t]⟩ ⟨(c.atInstant t).2, ts ++ [some (c.atInstant t).1]⟩ := by
  have polled := leads_poll c ts t
  unfold atInstant
  dsimp only
  split
  · exact polled
  · exact polled.trans ((Leads.act .turn rfl _).trans (leads_poll ..))

theorem leads_await : ∃ t', Leads ⟨c, ts ++ [some t]⟩ ⟨(c.await t).2, ts ++ [some t']⟩ ∧
    t'.reply? = (c.await t).1 := by
  fun_induction Client.await c t with
  | case1 c t r done => exact ⟨t, .refl _, done⟩
  | case2 c t undone idle => exact ⟨t, leads_settle .., undone⟩
  | case3 c t undone x found next less settled ih =>
    obtain ⟨t', later, reply⟩ := ih
    have waits := Leads.act (.wait x) rfl ⟨c.settle, ts ++ [some t]⟩
    exact ⟨t', (leads_settle ..).trans (waits.trans ((leads_atInstant _ ts t).trans later)), reply⟩

theorem leads_runOne (op : Operation) : ∃ t', Leads ⟨c, ts⟩ ⟨(c.runOne op).2, ts ++ [some t']⟩ ∧
    t'.reply? = (c.runOne op).1.reply := by
  have begins := Leads.act (.begin true op) rfl ⟨c, ts⟩
  have starts : Leads ⟨c, ts⟩ ⟨(c.start op).2, ts ++ [some (c.start op).1]⟩ := by
    unfold start
    dsimp only
    split
    · exact begins
    · exact begins.trans ((Leads.act .turn rfl _).trans (leads_poll ..))
  obtain ⟨t', waits, reply⟩ := leads_await (c.start op).2 ts (c.start op).1
  exact ⟨t', starts.trans (waits.trans (leads_settle ..)), reply⟩

theorem leads_run (ops : List Operation) :
    ∃ us, Leads ⟨c, ts⟩ ⟨(c.run ops).2, ts ++ us⟩ ∧
      us.map (·.bind Task.reply?) = (c.run ops).1.map (·.reply) := by
  induction ops generalizing c ts with
  | nil =>
    refine ⟨[], ?_, rfl⟩
    rw [List.append_nil]
    exact .refl _
  | cons op ops ih =>
    obtain ⟨t, first, reply⟩ := leads_runOne c ts op
    obtain ⟨us, rest, replies⟩ := ih (c.runOne op).2 (ts ++ [some t])
    rw [List.append_assoc, List.singleton_append] at rest
    exact ⟨some t :: us, first.trans rest, congrArg₂ List.cons reply replies⟩

end

end Scene

end FeatureFlags.Client
