import FeatureFlags.Client.Load

namespace FeatureFlags.Client

inductive Inquiry
  | detail (flag : String) (type : FlagType) (context : Context)
  | value (flag : String) (type : FlagType) (context : Context)
  | all (context : Context)

inductive Operation
  | load
  | snapshot
  | sleep (time : Nat)
  | evaluate (inquiry : Inquiry)
  | join (operations : List Operation)
  | within (time : Nat) (operation : Operation)
  /-- Runs where no later turn takes place. -/
  | outOfTurn (operation : Operation)

inductive Reply
  | loaded (result : Except LoadFailure Served)
  | snapshot (served : Option Served)
  | slept
  | detail (result : Except TypeMismatch Detail)
  | value (result : Except TypeMismatch FlagValue)
  | all (values : List (String × FlagValue))
  | joined (replies : List Reply)
  | gaveUp

inductive Task
  | done (reply : Reply)
  | napping (wake : Nat)
  | loading (sequence : Nat)
  | awaiting (sequence : Nat) (inquiry : Inquiry) (inTurn : Bool)
  | refreshing (sequence deadline : Nat) (current : Served) (inquiry : Inquiry) (inTurn : Bool)
  | joined (tasks : List Task)
  | limited (deadline : Nat) (task : Task)

def answer (c : Client) (inTurn : Bool) (q : Inquiry) (served : Option Served) : Task × Client :=
  match q with
  | .detail flag type context =>
    let a := c.config.detail served c.timeOfDay flag type context
    (.done (.detail a.result), c.dispatch inTurn a.events)
  | .value flag type context =>
    let a := c.config.detail served c.timeOfDay flag type context
    (.done (.value (a.result.map (c.config.valueAs type))), c.dispatch inTurn a.events)
  | .all context =>
    let a := c.config.all served c.timeOfDay context
    (.done (.all a.result), c.dispatch inTurn a.events)

def isFresh (c : Client) : Bool :=
  match c.state.loadedAt, c.config.staleTime? with
  | some loadedAt, some staleTime => c.now - loadedAt ≤ staleTime
  | _, _ => false

/-- A fresh specification answers at once. Otherwise a load is under way from here on; it is waited
for, unless some load failed before, by the first inquiry as long as it takes and by later ones for a
bounded time. -/
def inquire (c : Client) (inTurn : Bool) (q : Inquiry) : Task × Client :=
  match c.state.specification with
  | none =>
    let joined := c.joinLoad
    if c.state.loadFailedAt.isSome then joined.2.answer inTurn q none
    else (.awaiting joined.1 q inTurn, joined.2)
  | some current =>
    if c.isFresh then c.answer inTurn q (some current)
    else
      let joined := c.joinLoad
      match c.config.refreshWait?, c.state.loadFailedAt with
      | some wait, none => (.refreshing joined.1 (c.now + wait) current q inTurn, joined.2)
      | _, _ => joined.2.answer inTurn q (some current)

def Task.reply? : Task → Option Reply
  | .done r => some r
  | _ => none

def Task.gather (tasks : List Task) : Task :=
  match tasks.mapM reply? with
  | some replies => .done (.joined replies)
  | none => .joined tasks

def Task.limit (now deadline : Nat) (t : Task) : Task :=
  match t with
  | .done r => .done r
  | t => if deadline ≤ now then .done .gaveUp else .limited deadline t

mutual

def begin (c : Client) (inTurn : Bool) : Operation → Task × Client
  | .load =>
    let joined := c.joinLoad
    (.loading joined.1, joined.2)
  | .snapshot => (.done (.snapshot c.state.specification), c)
  | .sleep time => (if time = 0 then .done .slept else .napping (c.now + time), c)
  | .evaluate q => c.inquire inTurn q
  | .join ops =>
    let begun := c.beginAll inTurn ops
    (.gather begun.1, begun.2)
  | .within time op =>
    let begun := c.begin inTurn op
    (begun.1.limit c.now (c.now + time), begun.2)
  | .outOfTurn op => c.begin false op

def beginAll (c : Client) (inTurn : Bool) : List Operation → List Task × Client
  | [] => ([], c)
  | op :: ops =>
    let first := c.begin inTurn op
    let rest := first.2.beginAll inTurn ops
    (first.1 :: rest.1, rest.2)

end

mutual

def poll (c : Client) : Task → Task × Client
  | .done r => (.done r, c)
  | .napping wake => (if wake ≤ c.now then .done .slept else .napping wake, c)
  | .loading n =>
    match c.result? n with
    | some r => (.done (.loaded r), c)
    | none => (.loading n, c)
  | .awaiting n q inTurn =>
    match c.result? n with
    | some r => c.answer inTurn q r.toOption
    | none => (.awaiting n q inTurn, c)
  | .refreshing n deadline current q inTurn =>
    if (c.result? n).isSome || deadline ≤ c.now then
      c.answer inTurn q (some (c.state.specification.getD current))
    else (.refreshing n deadline current q inTurn, c)
  | .joined ts =>
    let polled := c.pollAll ts
    (.gather polled.1, polled.2)
  | .limited deadline t =>
    let polled := c.poll t
    (polled.1.limit c.now deadline, polled.2)

def pollAll (c : Client) : List Task → List Task × Client
  | [] => ([], c)
  | t :: ts =>
    let first := c.poll t
    let rest := first.2.pollAll ts
    (first.1 :: rest.1, rest.2)

end

theorem alike_answer (c : Client) (inTurn : Bool) (q : Inquiry) (served : Option Served) :
    Alike c (c.answer inTurn q served).2 := by
  cases q <;> exact alike_dispatch ..

mutual

theorem alike_poll (c : Client) : (t : Task) → Alike c (c.poll t).2
  | .done _ => .refl c
  | .napping _ => .refl c
  | .loading _ => by
    unfold poll
    split <;> exact .refl c
  | .awaiting _ q inTurn => by
    unfold poll
    split
    · exact alike_answer c inTurn q _
    · exact .refl c
  | .refreshing _ _ _ q inTurn => by
    unfold poll
    split
    · exact alike_answer c inTurn q _
    · exact .refl c
  | .joined ts => by
    unfold poll
    exact alike_pollAll c ts
  | .limited _ t => by
    unfold poll
    exact alike_poll c t

theorem alike_pollAll (c : Client) : (ts : List Task) → Alike c (c.pollAll ts).2
  | [] => .refl c
  | t :: ts => by
    unfold pollAll
    exact (alike_poll c t).trans (alike_pollAll _ ts)

end

end FeatureFlags.Client
