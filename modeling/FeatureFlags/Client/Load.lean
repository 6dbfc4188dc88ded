import FeatureFlags.Client.State

namespace FeatureFlags.Client

def joinLoad (c : Client) : Nat × Client :=
  match c.state.inFlight with
  | some n => (n, c)
  | none =>
    let n := c.sequences.length + 1
    let s : Sequence :=
      { number := n, triesLeft := c.config.attempts, phase := .resting c.now }
    (n, { c with
      sequences := c.sequences ++ [s]
      state := { c.state with inFlight := some n } })

/-- A client as it is built. Without a later turn the initial load is left to the first use. -/
def build (config : Config) (loader : Loader) (observer : Option Observer) (epoch : Instant)
    (inTurn : Bool) (host : Host := .lastFirst) : Client :=
  let c : Client := { config, loader, host, observer, epoch }
  if inTurn && config.initialLoad then c.joinLoad.2 else c

inductive Move
  | tryNext
  | conclude (call : Nat) (token : UInt64) (result : Except LoadError Verdict)

/-- A call that ended is looked at before the deadline. -/
def move? (c : Client) (s : Sequence) : Option Move :=
  match s.phase with
  | .ended _ => none
  | .resting wake => if wake ≤ c.now && s.triesLeft != 0 then some .tryNext else none
  | .awaiting call token deadline =>
    match (c.call? call).bind (·.ending), deadline with
    | some r, _ => some (.conclude call token r)
    | none, some d =>
      if d ≤ c.now then some (.conclude call token (.error (.timeout (c.config.timeout?.getD 0))))
      else none
    | none, none => none

def judge (call : Nat) (token : UInt64) : Except LoadError Verdict → Except (LoadError × Option Payload) Served
  | .error e => .error (e, none)
  | .ok v =>
    if v.token = token then
      match v.outcome with
      | .ok S => .ok ⟨S, call⟩
      | .error r => .error (.invalid r, some v.payload)
    else .error (.contractViolation, none)

def newCall (c : Client) : Call :=
  let number := c.calls.length + 1
  let step := c.loader number
  { number, startedAt := c.now, endsAt := c.now + step.delay,
    validator := ⟨c.issued + 1, c.config.skipValidation⟩, deed := step.deed }

def callLoader (c : Client) : Client :=
  { c with calls := c.calls ++ [c.newCall], issued := c.issued + 1 }

def install (c : Client) (served : Served) : Client :=
  let c := { c with
    state := { c.state with specification := some served, loadedAt := some c.now, inFlight := none } }
  c.dispatch true [.loaded served]

def giveUp (c : Client) : Client :=
  { c with state := { c.state with loadFailedAt := some c.now, inFlight := none } }

def tryNext (c : Client) (s : Sequence) : Sequence × Client :=
  let call := c.newCall
  -- the deadline counts from the call, not from the sequence
  let deadline := c.config.timeout?.map (c.now + ·)
  ({ s with triesLeft := s.triesLeft - 1,
            phase := .awaiting call.number call.validator.token deadline }, c.callLoader)

def afterFailure (c : Client) (s : Sequence) (e : LoadError) (payload : Option Payload) :
    Sequence × Client :=
  let told := c.dispatch true [.ofFailure (c.config.attempts - s.triesLeft) payload e]
  if s.triesLeft = 0 then
    ({ s with phase := .ended (.error ⟨c.config.attempts, e⟩) }, told.giveUp)
  else ({ s with phase := .resting (c.now + c.config.retryDelay) }, told)

def makeMove (c : Client) (s : Sequence) : Move → Sequence × Client
  | .tryNext => c.tryNext s
  | .conclude call token result =>
    match judge call token result with
    | .ok served => ({ s with phase := .ended (.ok served) }, c.install served)
    | .error (e, payload) => c.afterFailure s e payload

def takeStashed (slot : Nat) (own : Validator) (stashed : List (Nat × Validator)) :
    Validator × List (Nat × Validator) :=
  match stashed.lookup slot with
  | some v => (v, stashed.filter (·.1 != slot))
  | none => (own, stashed)

structure Return where
  result : Except LoadError Verdict
  stashed : List (Nat × Validator)
  issued : Nat

def Call.carryOut (call : Call) (stashed : List (Nat × Validator)) (issued : Nat) : Return :=
  match call.deed with
  | .fail m => ⟨.error (.loader m), stashed, issued⟩
  | .panic => ⟨.error .panicked, stashed, issued⟩
  | .stash slot m =>
    ⟨.error (.loader m), (slot, call.validator) :: stashed.filter (·.1 != slot), issued⟩
  | .serve p => ⟨.ok (call.validator.validate p), stashed, issued⟩
  | .replay slot p =>
    let (v, stashed) := takeStashed slot call.validator stashed
    ⟨.ok (v.validate p), stashed, issued⟩
  | .borrow skip p => ⟨.ok (Validator.validate ⟨issued + 1, skip⟩ p), stashed, issued + 1⟩

def Call.due? (now : Nat) (call : Call) : Option Unit :=
  if call.ending.isNone && call.endsAt ≤ now then some () else none

structure Split (α β : Type) where
  before : List α
  element : α
  found : β
  after : List α

def splitFirst (f : α → Option β) : List α → Option (Split α β)
  | [] => none
  | a :: as =>
    match f a with
    | some b => some ⟨[], a, b, as⟩
    | none => (splitFirst f as).map fun s => { s with before := a :: s.before }

def moveSequence? (c : Client) : Option Client :=
  (splitFirst c.move? c.sequences).map fun split =>
    let moved := c.makeMove split.element split.found
    { moved.2 with sequences := split.before ++ moved.1 :: split.after }

def endCall? (c : Client) : Option Client :=
  (splitFirst (Call.due? c.now) c.calls).map fun split =>
    let returned := split.element.carryOut c.stashed c.issued
    { c with
      calls := split.before ++ { split.element with ending := some returned.result } :: split.after
      stashed := returned.stashed
      issued := returned.issued }

/-- One step of loading at this instant. Sequences move before calls end, so a call that ends at a
deadline ends too late. -/
def loadStep? (c : Client) : Option Client := c.moveSequence? <|> c.endCall?

def Sequence.work (s : Sequence) : Nat :=
  match s.phase with
  | .resting _ => 3 * s.triesLeft
  | .awaiting .. => 3 * s.triesLeft + 1
  | .ended _ => 0

def unfinished (c : Client) : Nat := c.calls.countP (·.ending.isNone)

def Sequence.totalWork : List Sequence → Nat
  | [] => 0
  | s :: ss => s.work + totalWork ss

@[simp] theorem Sequence.totalWork_append (ss ts : List Sequence) :
    totalWork (ss ++ ts) = totalWork ss + totalWork ts := by
  induction ss with
  | nil => simp [totalWork]
  | cons s ss ih => simp [totalWork, ih, Nat.add_assoc]

def work (c : Client) : Nat := Sequence.totalWork c.sequences + c.unfinished

theorem splitFirst_eq {f : α → Option β} {as : List α} {s : Split α β}
    (h : splitFirst f as = some s) :
    as = s.before ++ s.element :: s.after ∧ f s.element = some s.found := by
  induction as generalizing s with
  | nil => cases h
  | cons a as ih =>
    unfold splitFirst at h
    split at h
    · next found =>
      cases h
      exact ⟨rfl, found⟩
    · obtain ⟨rest, hr, rfl⟩ := Option.map_eq_some_iff.1 h
      obtain ⟨parts, found⟩ := ih hr
      exact ⟨congrArg (a :: ·) parts, found⟩

theorem of_moveSequence? {c d : Client} (h : c.moveSequence? = some d) :
    ∃ before s after m, c.sequences = before ++ s :: after ∧ c.move? s = some m ∧
      d = { (c.makeMove s m).2 with sequences := before ++ (c.makeMove s m).1 :: after } := by
  obtain ⟨split, found, rfl⟩ := Option.map_eq_some_iff.1 h
  obtain ⟨parts, move⟩ := splitFirst_eq found
  exact ⟨_, _, _, _, parts, move, rfl⟩

namespace Alike

theorem unfinished {c d : Client} (h : Alike c d) : d.unfinished = c.unfinished := by
  simp only [Client.unfinished, h.calls]

theorem work {c d : Client} (h : Alike c d) : d.work = c.work := by
  simp only [Client.work, h.unfinished, h.sequences]

end Alike

theorem unfinished_callLoader (c : Client) : c.callLoader.unfinished = c.unfinished + 1 := by
  simp [callLoader, newCall, unfinished]

theorem unfinished_install (c : Client) (served : Served) :
    (c.install served).unfinished = c.unfinished := by
  exact (alike_dispatch _ _ _).unfinished

theorem work_afterFailure (c : Client) (s : Sequence) (e : LoadError) (p : Option Payload) :
    (c.afterFailure s e p).1.work + (c.afterFailure s e p).2.unfinished ≤
      3 * s.triesLeft + c.unfinished := by
  unfold afterFailure
  split
  · exact Nat.add_le_add (Nat.zero_le _) (Nat.le_of_eq (alike_dispatch ..).unfinished)
  · exact Nat.le_of_eq (by simp [Sequence.work, (alike_dispatch ..).unfinished])

theorem move?_tryNext {c : Client} {s : Sequence} (h : c.move? s = some .tryNext) :
    ∃ wake, s.phase = .resting wake ∧ wake ≤ c.now ∧ s.triesLeft ≠ 0 := by
  unfold move? at h
  split at h
  · cases h
  · next wake phase =>
    split at h
    · next due => exact ⟨wake, phase, by simpa using due⟩
    · cases h
  · split at h
    · cases h
    · split at h <;> cases h
    · cases h

theorem move?_conclude {c : Client} {s : Sequence} {call : Nat} {token : UInt64}
    {r : Except LoadError Verdict} (h : c.move? s = some (.conclude call token r)) :
    ∃ deadline, s.phase = .awaiting call token deadline ∧
      ((c.call? call).bind (·.ending) = some r ∨
        r = .error (.timeout (c.config.timeout?.getD 0)) ∧ ∃ d, deadline = some d ∧ d ≤ c.now) := by
  unfold move? at h
  split at h
  · cases h
  · split at h <;> cases h
  · next phase =>
    split at h
    · next returned =>
      cases h
      exact ⟨_, phase, .inl returned⟩
    · next d _ =>
      split at h
      · next late =>
        cases h
        exact ⟨some d, phase, .inr ⟨rfl, d, rfl, late⟩⟩
      · cases h
    · cases h

theorem work_makeMove {c : Client} {s : Sequence} {m : Move} (h : c.move? s = some m) :
    (c.makeMove s m).1.work + (c.makeMove s m).2.unfinished < s.work + c.unfinished := by
  cases m with
  | tryNext =>
    obtain ⟨wake, phase, -, left⟩ := move?_tryNext h
    simp only [makeMove, tryNext, Sequence.work, phase, unfinished_callLoader]
    omega
  | conclude call token result =>
    obtain ⟨deadline, phase, -⟩ := move?_conclude h
    have : s.work = 3 * s.triesLeft + 1 := by simp [Sequence.work, phase]
    simp only [makeMove]
    split
    · simp only [unfinished_install, Sequence.work] at this ⊢
      omega
    · have := work_afterFailure c s
      grind

theorem work_moveSequence? {c c' : Client} (h : c.moveSequence? = some c') : c'.work < c.work := by
  obtain ⟨before, s, after, m, parts, move, rfl⟩ := of_moveSequence? h
  have less := work_makeMove move
  simp only [unfinished] at less
  simp only [work, unfinished, parts, Sequence.totalWork_append, Sequence.totalWork]
  omega

theorem work_endCall? {c c' : Client} (h : c.endCall? = some c') : c'.work < c.work := by
  obtain ⟨split, hc, rfl⟩ := Option.map_eq_some_iff.1 h
  obtain ⟨parts, hd⟩ := splitFirst_eq hc
  have running : split.element.ending.isNone = true := by
    unfold Call.due? at hd
    grind
  simp only [work, unfinished, parts, List.countP_append, List.countP_cons, running]
  simp

theorem work_loadStep? {c c' : Client} (h : c.loadStep? = some c') : c'.work < c.work := by
  rcases hm : c.moveSequence? with _ | d
  · exact work_endCall? (by simpa [loadStep?, hm] using h)
  · obtain rfl : d = c' := by simpa [loadStep?, hm] using h
    exact work_moveSequence? hm

def loadAll (c : Client) : Client :=
  match h : c.loadStep? with
  | none => c
  | some next =>
    have := work_loadStep? h
    next.loadAll
termination_by c.work

theorem work_loadAll_le (c : Client) : c.loadAll.work ≤ c.work := by
  fun_induction loadAll c with
  | case1 => exact Nat.le_refl _
  | case2 c next h less ih => omega

theorem work_loadAll_lt {c : Client} (h : c.loadStep? ≠ none) : c.loadAll.work < c.work := by
  unfold loadAll
  split
  · contradiction
  · next next hn =>
    have := work_loadStep? hn
    exact Nat.lt_of_le_of_lt next.work_loadAll_le this

end FeatureFlags.Client
