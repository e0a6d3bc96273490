-- The suspensions of a request, one after the other. At most one cycle is current. A new
-- one may be started when there is none, or from the target of a dispatch; it takes the
-- place of the old one, whose listeners are told.
import WebRequest.Async.Cycle

namespace WebRequest.Async

/-- What the container waits on: the handle of a cycle, and the end of the channel on which the
resumption arrives. Cycles are given by their place. -/
structure Span where
  context : Nat
  channel : Nat
  deriving DecidableEq, Repr

/-- The suspensions of a request. -/
structure Lifecycle where
  supported : Bool
  defaultTimeout : Nat
  /-- The path the request was received on. -/
  path : String
  /-- All cycles, in the order they were started. -/
  cycles : List Cycle := []
  /-- The place of the current cycle. -/
  current : Option Nat := none
  /-- The place of the cycle whose resumption nobody has asked for yet. -/
  receiver : Option Nat := none
  deriving DecidableEq, Repr

namespace Lifecycle

def cycle? (l : Lifecycle) (place : Nat) : Option Cycle := l.cycles[place]?

def currentCycle? (l : Lifecycle) : Option Cycle := l.current.bind l.cycle?

def state (l : Lifecycle) : State :=
  match l.currentCycle? with
  | some c => c.state
  | none => .sync

/-- The request is suspended and has not been dispatched. -/
def isStarted (l : Lifecycle) : Bool := l.state = .started

def describe (l : Lifecycle) : String :=
  "AsyncLifecycle \x7b supported: " ++ toString l.supported ++ ", state: " ++ l.state.name ++
    ", cycles: " ++ toString l.cycles.length ++ " \x7d"

def modify (l : Lifecycle) (place : Nat) (f : Cycle → Cycle) : Lifecycle :=
  { l with cycles := l.cycles.modify place f }

/-- Nobody can receive the resumption of the cycle at a place any more. -/
def deafen (l : Lifecycle) (place : Nat) : Lifecycle :=
  l.modify place fun c => { c with heard := false }

/-- Drops the receiver that nobody asked for. -/
def dropReceiver (l : Lifecycle) : Lifecycle :=
  match l.receiver with
  | some place => { l.deafen place with receiver := none }
  | none => l

def call {α : Type} (l : Lifecycle) (place : Nat) (f : Cycle → Outcome Cycle α) :
    Option (Outcome Lifecycle α) :=
  (l.cycle? place).map fun c => (f c).within fun c => l.modify place fun _ => c

/-! ## Starting -/

def launch (l : Lifecycle) (exchange : Exchange) : Lifecycle :=
  let place := l.cycles.length
  let l := l.dropReceiver
  { l with
    cycles := l.cycles ++
      [{ number := place + 1, exchange, path := l.path, timeout := l.defaultTimeout }],
    current := some place,
    receiver := some place }

/-- Starts a new cycle after the old listeners have been told. The answer is its place. -/
def startAfter (l : Lifecycle) (exchange : Exchange) (listeners : List Registration) :
    Attempt Lifecycle Nat :=
  { answer := .ok l.cycles.length, state := l.launch exchange,
    effects := Cycle.notices listeners .start exchange ++
      [.log .debug "async started" [("cycle", toString (l.cycles.length + 1))]] }

/-- Suspends the request. -/
def start (l : Lifecycle) (exchange : Exchange) : Attempt Lifecycle Nat :=
  if !l.supported then .refuse l .asyncUnsupported
  else
    match l.state, l.current, l.currentCycle? with
    | .started, _, _ => .refuse l .alreadyStarted
    | .completed, _, _ => .refuse l .alreadyCompleted
    | .dispatched, some place, some c =>
      if !c.taken then .refuse l .startBeforeDispatch
      else
        (l.modify place fun c => { c with superseded := true, listeners := [] }).startAfter
          exchange c.listeners
    | _, _, _ => l.startAfter exchange []

/-! ## The handles -/

/-- The place of the current cycle, while the request is suspended or dispatched. -/
def context (l : Lifecycle) : Except RequestFault Nat :=
  match l.current, l.state with
  | some place, .started | some place, .dispatched => .ok place
  | _, _ => .error (.illegalState .notAsync)

/-- What the container waits on; it can be had once for every cycle. -/
def takeSpan (l : Lifecycle) : Attempt Lifecycle Span :=
  match l.current, l.receiver with
  | some context, some channel =>
    .succeed { l with receiver := none } { context, channel }
  | _, _ => .refuse l.dropReceiver .noSpan

/-! ## Dispatches -/

/-- The target of a pending dispatch takes over. -/
def enterDispatch (l : Lifecycle) : Attempt Lifecycle Unit :=
  match l.current, l.currentCycle? with
  | some place, some c =>
    if !c.superseded && c.dispatchPending then
      .succeed (l.modify place fun c => { c with taken := true }) ()
    else .refuse l .noDispatch
  | _, _ => .refuse l .noDispatch

/-- The target of a dispatch returns. If it left the request as it was, the cycle is over. The
answer is the state of the request. -/
def exitDispatch (l : Lifecycle) : Outcome Lifecycle State :=
  match l.current, l.currentCycle? with
  | some place, some c =>
    if c.inTarget then
      { answer := .sync,
        state := { (l.modify place fun c => { c with superseded := true, listeners := [] }) with
          current := none },
        effects := [.log .debug "async dispatch returned, back to sync" [c.numberField]] ++
          Cycle.notices c.listeners .completion c.exchange }
    else { answer := c.state, state := l }
  | _, _ => { answer := .sync, state := l }

@[simp] theorem length_cycles_modify (l : Lifecycle) (place : Nat) (f : Cycle → Cycle) :
    (l.modify place f).cycles.length = l.cycles.length := by
  simp [modify]

theorem length_cycles_launch (l : Lifecycle) (exchange : Exchange) :
    (l.launch exchange).cycles.length = l.cycles.length + 1 := by
  unfold launch dropReceiver
  cases l.receiver <;> simp [deafen]

end Lifecycle

end WebRequest.Async
