import FeatureFlags.Client.Answer

/-!
A client at an instant: the specification it serves, the load sequences it has begun, the calls of its
loader, and its events on their way to the observer. Time is counted in milliseconds from when the
client was built, and moves only when everything waits.
-/

namespace FeatureFlags

namespace Client

inductive Phase
  | resting (wake : Nat)
  | awaiting (call : Nat) (token : UInt64) (deadline : Option Nat)
  | ended (result : Except LoadFailure Served)

structure Sequence where
  number : Nat
  triesLeft : Nat
  phase : Phase

/-- A call of the loader, which may outlast the try that made it. -/
structure Call where
  number : Nat
  startedAt : Nat
  endsAt : Nat
  validator : Validator
  deed : Deed
  ending : Option (Except LoadError Verdict) := none

structure State where
  specification : Option Served := none
  loadedAt : Option Nat := none
  loadFailedAt : Option Nat := none
  inFlight : Option Nat := none

/-- Where a client runs: the clocks of the place, and the order in which the runtime wakes all that
has yielded to it. -/
structure Host where
  zone : Zone
  order : List Event → List Event
  perm (es : List Event) : (order es).Perm es

def Host.lastFirst : Host := ⟨.utc, List.reverse, List.reverse_perm⟩

structure Observer where
  panicsOn : Event → Bool

inductive Hearing
  | returned (heard : List Event)
  | panicked (heard : List Event)

def Observer.hear (o : Observer) (heard : List Event) (e : Event) : Hearing :=
  if o.panicsOn e then .panicked (heard ++ [e]) else .returned (heard ++ [e])

def Observer.hearAll (o : Observer) (heard : List Event) : List Event → List Event
  | [] => heard
  | e :: es =>
    match o.hear heard e with
    | .returned heard => o.hearAll heard es
    | .panicked heard => o.hearAll heard es

end Client

/-- Events are `dispatched` first, `due` when the runtime has woken them, and then `heard`. -/
structure Client where
  config : Client.Config
  loader : Client.Loader
  host : Client.Host
  observer : Option Client.Observer := none
  epoch : Instant := ⟨0, 0⟩
  now : Nat := 0
  state : Client.State := {}
  sequences : List Client.Sequence := []
  calls : List Client.Call := []
  issued : Nat := 0
  stashed : List (Nat × Client.Validator) := []
  dispatched : List Client.Event := []
  due : List Client.Event := []
  heard : List Client.Event := []

namespace Client

def timeOfDay (c : Client) : Moment := ⟨c.epoch.addMillis c.now, c.host.zone⟩

def handOver (c : Client) (events : List Event) : Client :=
  match c.observer with
  | none => c
  | some o => { c with heard := o.hearAll c.heard events }

/-- Sends events on their way. They are handed over at once if the client is blocking or if there is
no later turn to wait for. -/
def dispatch (c : Client) (inTurn : Bool) (events : List Event) : Client :=
  if inTurn && c.config.delivery = .nonBlocking then
    match c.observer with
    | none => c
    | some _ => { c with dispatched := c.dispatched ++ events }
  else c.handOver events

def deliver (c : Client) : Client := { c.handOver c.due with due := [] }

def rouse (c : Client) (woken kept : List Event) : Client :=
  { c with due := c.due ++ woken, dispatched := kept }

def defer (c : Client) : Client := c.rouse (c.host.order c.dispatched) []

def sequence? (c : Client) (number : Nat) : Option Sequence :=
  c.sequences.find? (·.number = number)

def call? (c : Client) (number : Nat) : Option Call := c.calls.find? (·.number = number)

def result? (c : Client) (number : Nat) : Option (Except LoadFailure Served) :=
  match (c.sequence? number).map Sequence.phase with
  | some (.ended r) => some r
  | _ => none

structure Alike (c d : Client) : Prop where
  config : d.config = c.config
  loader : d.loader = c.loader
  host : d.host = c.host
  observer : d.observer = c.observer
  epoch : d.epoch = c.epoch
  now : d.now = c.now
  state : d.state = c.state
  sequences : d.sequences = c.sequences
  calls : d.calls = c.calls
  issued : d.issued = c.issued
  stashed : d.stashed = c.stashed

namespace Alike

theorem refl (c : Client) : Alike c c := ⟨rfl, rfl, rfl, rfl, rfl, rfl, rfl, rfl, rfl, rfl, rfl⟩

theorem trans {c d e : Client} (h : Alike c d) (g : Alike d e) : Alike c e :=
  ⟨g.config.trans h.config, g.loader.trans h.loader, g.host.trans h.host,
    g.observer.trans h.observer, g.epoch.trans h.epoch, g.now.trans h.now, g.state.trans h.state,
    g.sequences.trans h.sequences, g.calls.trans h.calls,
    g.issued.trans h.issued, g.stashed.trans h.stashed⟩

theorem events (c : Client) (dispatched due heard : List Event) :
    Alike c { c with dispatched, due, heard } :=
  ⟨rfl, rfl, rfl, rfl, rfl, rfl, rfl, rfl, rfl, rfl, rfl⟩

end Alike

theorem alike_handOver (c : Client) (es : List Event) : Alike c (c.handOver es) := by
  unfold handOver
  split
  · exact .refl c
  · exact .events c _ _ _

theorem alike_dispatch (c : Client) (inTurn : Bool) (es : List Event) :
    Alike c (c.dispatch inTurn es) := by
  unfold dispatch
  split
  · split
    · exact .refl c
    · exact .events c _ _ _
  · exact alike_handOver c es

theorem alike_deliver (c : Client) : Alike c c.deliver :=
  (alike_handOver c c.due).trans (.events _ _ _ _)

theorem alike_rouse (c : Client) (woken kept : List Event) : Alike c (c.rouse woken kept) :=
  .events c _ _ _

theorem alike_defer (c : Client) : Alike c c.defer := alike_rouse c _ _

end Client

end FeatureFlags
