import FeatureFlags.Client.Run
import Mathlib.Logic.Relation

/-!
Steps of a client in any order. Callers begin operations and go on with them or give them up
whenever they like, and a loader ends its calls at any time with anything that it can come by.
-/

namespace FeatureFlags.Client

def Issued (c : Client) (v : Validator) : Prop :=
  0 < v.serial ∧ v.serial ≤ c.issued ∧
    ∀ k ∈ c.calls, k.validator.serial = v.serial → k.validator = v

/-- What a loader can return: no verdict but that of a validator on some payload. -/
inductive MayReturn (c : Client) : Except LoadError Verdict → Prop
  | fail : MayReturn c (.error (.loader message))
  | panic : MayReturn c (.error .panicked)
  | verdict : c.Issued v → MayReturn c (.ok (v.validate payload))

inductive Step (c : Client) : Client → Prop
  | begin (inTurn : Bool) (op : Operation) : Step c (c.begin inTurn op).2
  | poll (t : Task) : Step c (c.poll t).2
  | move : c.moveSequence? = some d → Step c d
  | finish {kept : List (Nat × Validator)} : c.calls = before ++ k :: after → k.ending = none →
      c.MayReturn r → (∀ v ∈ kept, c.Issued v.2) →
      Step c { c with calls := before ++ { k with ending := some r } :: after, stashed := kept }
  | issue : Step c { c with issued := c.issued + 1 }
  | deliver : Step c c.deliver
  /-- The runtime wakes some of what has yielded, in any order. -/
  | rouse : (woken ++ kept).Perm c.dispatched → Step c (c.rouse woken kept)
  | wait (x : Nat) : Step c (c.waitFor x)

abbrev Steps : Client → Client → Prop := Relation.ReflTransGen Step

def Reachable (c : Client) : Prop :=
  ∃ config loader observer epoch inTurn host,
    Steps (build config loader observer epoch inTurn host) c

inductive Effect (c : Client) : Client → Prop
  | idle : Effect c c
  | join : c.state.inFlight = none → Effect c c.joinLoad.2
  | call : c.sequences = before ++ s :: after → s.phase = .resting wake → wake ≤ c.now →
      s.triesLeft ≠ 0 →
      Effect c { (c.tryNext s).2 with sequences := before ++ (c.tryNext s).1 :: after }
  | load : c.sequences = before ++ s :: after → c.move? s = some (.conclude call token r) →
      judge call token r = .ok served →
      Effect c { c with
        state := { c.state with
          specification := some served, loadedAt := some c.now, inFlight := none }
        sequences := before ++ { s with phase := .ended (.ok served) } :: after }
  | rest : c.sequences = before ++ s :: after → c.move? s = some (.conclude call token r) →
      judge call token r = .error (e, payload) → s.triesLeft ≠ 0 →
      Effect c { c with
        sequences := before ++ { s with phase := .resting (c.now + c.config.retryDelay) } :: after }
  | giveUp : c.sequences = before ++ s :: after → c.move? s = some (.conclude call token r) →
      judge call token r = .error (e, payload) → s.triesLeft = 0 →
      Effect c { c with
        state := { c.state with loadFailedAt := some c.now, inFlight := none }
        sequences := before ++ { s with phase := .ended (.error ⟨c.config.attempts, e⟩) } :: after }
  | finish {kept : List (Nat × Validator)} : c.calls = before ++ k :: after → k.ending = none →
      c.MayReturn r → (∀ v ∈ kept, c.Issued v.2) →
      Effect c { c with calls := before ++ { k with ending := some r } :: after, stashed := kept }
  | issue : Effect c { c with issued := c.issued + 1 }
  | wait (x : Nat) : Effect c (c.waitFor x)

variable {c d : Client}

theorem Step.defer (c : Client) : Step c c.defer :=
  .rouse (by simpa using c.host.perm c.dispatched)

theorem Reachable.steps (h : Reachable c) (steps : Steps c d) : Reachable d := by
  obtain ⟨config, loader, observer, epoch, inTurn, host, before⟩ := h
  exact ⟨config, loader, observer, epoch, inTurn, host, before.trans steps⟩

protected theorem Reachable.invariant {P : Client → Prop}
    (built : ∀ config loader observer epoch inTurn host,
      P (build config loader observer epoch inTurn host))
    (kept : ∀ c d, Reachable c → P c → Step c d → P d) (h : Reachable c) : P c := by
  obtain ⟨config, loader, observer, epoch, inTurn, host, steps⟩ := h
  induction steps with
  | refl => exact built ..
  | tail before step ih => exact kept _ _ ⟨_, _, _, _, _, _, before⟩ ih step

theorem joinLoad_of_inFlight {n : Nat} (h : c.state.inFlight = some n) : c.joinLoad = (n, c) := by
  simp [joinLoad, h]

theorem joinLoad_of_free (h : c.state.inFlight = none) :
    c.joinLoad = (c.sequences.length + 1, { c with
      sequences := c.sequences ++
        [{ number := c.sequences.length + 1, triesLeft := c.config.attempts,
           phase := .resting c.now }]
      state := { c.state with inFlight := some (c.sequences.length + 1) } }) := by
  simp [joinLoad, h]

theorem inFlight_joinLoad (c : Client) : c.joinLoad.2.state.inFlight = some c.joinLoad.1 := by
  cases inFlight : c.state.inFlight with
  | some n => rw [joinLoad_of_inFlight inFlight, inFlight]
  | none => rw [joinLoad_of_free inFlight]

theorem now_joinLoad (c : Client) : c.joinLoad.2.now = c.now := by
  cases inFlight : c.state.inFlight with
  | some n => rw [joinLoad_of_inFlight inFlight]
  | none => rw [joinLoad_of_free inFlight]

theorem calls_joinLoad (c : Client) : c.joinLoad.2.calls = c.calls := by
  cases inFlight : c.state.inFlight with
  | some n => rw [joinLoad_of_inFlight inFlight]
  | none => rw [joinLoad_of_free inFlight]

theorem joinLoad_joinLoad : c.joinLoad.2.joinLoad = c.joinLoad := by
  cases h : c.state.inFlight with
  | some n => rw [joinLoad_of_inFlight h, joinLoad_of_inFlight h]
  | none =>
    rw [joinLoad_of_free h]
    exact joinLoad_of_inFlight rfl

theorem Alike.joinLoad (h : Alike c d) : Alike c.joinLoad.2 d.joinLoad.2 := by
  cases inFlight : c.state.inFlight with
  | some n =>
    rw [joinLoad_of_inFlight inFlight, joinLoad_of_inFlight (h.state ▸ inFlight)]
    exact h
  | none =>
    rw [joinLoad_of_free inFlight, joinLoad_of_free (h.state ▸ inFlight)]
    constructor <;> simp [h.config, h.loader, h.host, h.observer, h.epoch, h.now, h.state,
      h.sequences, h.calls, h.issued, h.stashed]

theorem Alike.giveUp (h : Alike c d) : Alike c.giveUp d.giveUp :=
  ⟨h.config, h.loader, h.host, h.observer, h.epoch, h.now,
    by simp [Client.giveUp, h.state, h.now], h.sequences, h.calls, h.issued, h.stashed⟩

theorem Alike.setSequences (h : Alike c d) (ss : List Sequence) :
    Alike { c with sequences := ss } { d with sequences := ss } :=
  ⟨h.config, h.loader, h.host, h.observer, h.epoch, h.now, h.state, rfl, h.calls, h.issued,
    h.stashed⟩

theorem alike_install (c : Client) (served : Served) :
    Alike
      { c with state := { c.state with
        specification := some served, loadedAt := some c.now, inFlight := none } }
      (c.install served) :=
  alike_dispatch ..

def Begun (c d : Client) : Prop := Alike c d ∨ Alike c.joinLoad.2 d

namespace Begun

theorem refl : Begun c c := .inl (.refl c)

theorem joinLoad : Begun c c.joinLoad.2 := .inr (.refl _)

theorem trans {e : Client} (h : Begun c d) (g : Begun d e) : Begun c e := by
  rcases h with h | h
  · rcases g with g | g
    · exact .inl (h.trans g)
    · exact .inr (h.joinLoad.trans g)
  · rcases g with g | g
    · exact .inr (h.trans g)
    · have again := h.joinLoad
      rw [joinLoad_joinLoad] at again
      exact .inr (again.trans g)

theorem now (h : Begun c d) : d.now = c.now := by
  rcases h with same | joined
  · exact same.now
  · exact joined.now.trans (now_joinLoad c)

theorem calls (h : Begun c d) : d.calls = c.calls := by
  rcases h with same | joined
  · exact same.calls
  · exact joined.calls.trans (calls_joinLoad c)

end Begun

theorem begun_answer (inTurn : Bool) (q : Inquiry) (served : Option Served) :
    Begun c (c.answer inTurn q served).2 :=
  .inl (alike_answer c inTurn q served)

theorem begun_inquire (inTurn : Bool) (q : Inquiry) : Begun c (c.inquire inTurn q).2 := by
  unfold inquire
  split
  · dsimp only
    split
    · exact Begun.joinLoad.trans (begun_answer ..)
    · exact .joinLoad
  · split
    · exact begun_answer ..
    · dsimp only
      split
      · exact .joinLoad
      · exact Begun.joinLoad.trans (begun_answer ..)

mutual

theorem begun_begin (c : Client) (inTurn : Bool) : (op : Operation) → Begun c (c.begin inTurn op).2
  | .load => .joinLoad
  | .snapshot => .refl
  | .sleep _ => .refl
  | .evaluate q => begun_inquire inTurn q
  | .join ops => begun_beginAll c inTurn ops
  | .within _ op => begun_begin c inTurn op
  | .outOfTurn op => begun_begin c false op

theorem begun_beginAll (c : Client) (inTurn : Bool) :
    (ops : List Operation) → Begun c (c.beginAll inTurn ops).2
  | [] => .refl
  | op :: ops => (begun_begin c inTurn op).trans (begun_beginAll _ inTurn ops)

end

theorem effect_of_moveSequence? (h : c.moveSequence? = some d) : ∃ e, Effect c e ∧ Alike e d := by
  obtain ⟨before, s, after, m, parts, move, rfl⟩ := of_moveSequence? h
  cases m with
  | tryNext =>
    obtain ⟨wake, phase, due, left⟩ := move?_tryNext move
    exact ⟨_, .call parts phase due left, .refl _⟩
  | conclude call token r =>
    simp only [makeMove]
    cases judged : judge call token r with
    | ok served => exact ⟨_, .load parts move judged, (alike_install c served).setSequences _⟩
    | error failure =>
      obtain ⟨e, payload⟩ := failure
      simp only [afterFailure]
      split
      · next left =>
        exact ⟨_, .giveUp parts move judged left, (alike_dispatch ..).giveUp.setSequences _⟩
      · next left => exact ⟨_, .rest parts move judged left, (alike_dispatch ..).setSequences _⟩

theorem Step.effect (h : Step c d) : ∃ e, Effect c e ∧ Alike e d := by
  cases h with
  | begin inTurn op =>
    rcases begun_begin c inTurn op with same | joined
    · exact ⟨c, .idle, same⟩
    · cases inFlight : c.state.inFlight with
      | some n =>
        rw [joinLoad_of_inFlight inFlight] at joined
        exact ⟨c, .idle, joined⟩
      | none => exact ⟨_, .join inFlight, joined⟩
  | poll t => exact ⟨c, .idle, alike_poll c t⟩
  | move h => exact effect_of_moveSequence? h
  | finish parts running possible known => exact ⟨_, .finish parts running possible known, .refl _⟩
  | issue => exact ⟨_, .issue, .refl _⟩
  | deliver => exact ⟨c, .idle, alike_deliver c⟩
  | rouse => exact ⟨c, .idle, alike_rouse c _ _⟩
  | wait x => exact ⟨_, .wait x, .refl _⟩

theorem Effect.setup (h : Effect c d) : d.config = c.config ∧ d.loader = c.loader := by
  cases h with
  | join free =>
    rw [joinLoad_of_free free]
    exact ⟨rfl, rfl⟩
  | _ => exact ⟨rfl, rfl⟩

theorem setup_of_steps (steps : Steps c d) : d.config = c.config ∧ d.loader = c.loader := by
  induction steps with
  | refl => exact ⟨rfl, rfl⟩
  | tail _ step ih =>
    obtain ⟨e, effect, same⟩ := step.effect
    obtain ⟨config, loader⟩ := effect.setup
    exact ⟨same.config.trans (config.trans ih.1), same.loader.trans (loader.trans ih.2)⟩

structure Keeps (c d : Client) : Prop where
  sequences : ∀ s ∈ c.sequences, s ∈ d.sequences
  specification : d.state.specification = c.state.specification
  loadedAt : d.state.loadedAt = c.state.loadedAt
  loadFailedAt : d.state.loadFailedAt = c.state.loadFailedAt

theorem Keeps.refl (c : Client) : Keeps c c := ⟨fun _ hs => hs, rfl, rfl, rfl⟩

theorem Alike.keeps (h : Alike c d) : Keeps c d :=
  ⟨fun _ hs => h.sequences.symm ▸ hs, by rw [h.state], by rw [h.state], by rw [h.state]⟩

theorem keeps_joinLoad (c : Client) : Keeps c c.joinLoad.2 := by
  cases inFlight : c.state.inFlight with
  | some n =>
    rw [joinLoad_of_inFlight inFlight]
    exact .refl c
  | none =>
    rw [joinLoad_of_free inFlight]
    exact ⟨fun _ hs => List.mem_append_left _ hs, rfl, rfl, rfl⟩

theorem Keeps.trans {e : Client} (h : Keeps c d) (g : Keeps d e) : Keeps c e :=
  ⟨fun s hs => g.sequences s (h.sequences s hs), g.specification.trans h.specification,
    g.loadedAt.trans h.loadedAt, g.loadFailedAt.trans h.loadFailedAt⟩

theorem Step.move_or_keeps (h : Step c d) : c.moveSequence? = some d ∨ Keeps c d := by
  cases h with
  | begin inTurn op =>
    rcases begun_begin c inTurn op with same | joined
    · exact .inr same.keeps
    · exact .inr ((keeps_joinLoad c).trans joined.keeps)
  | poll t => exact .inr (alike_poll c t).keeps
  | move moved => exact .inl moved
  | finish => exact .inr ⟨fun _ hs => hs, rfl, rfl, rfl⟩
  | issue => exact .inr ⟨fun _ hs => hs, rfl, rfl, rfl⟩
  | deliver => exact .inr (alike_deliver c).keeps
  | rouse => exact .inr (alike_rouse c _ _).keeps
  | wait => exact .inr ⟨fun _ hs => hs, rfl, rfl, rfl⟩

end FeatureFlags.Client
