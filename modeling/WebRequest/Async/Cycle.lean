-- One suspension of a request, from its start to its end. A cycle is suspended until it
-- is dispatched, completed or out of time, and exactly one of these resumes it. A
-- dispatched cycle ends when the dispatch returns, completes, or starts a new cycle.
import WebRequest.Effect
import WebRequest.Target

namespace WebRequest.Async

/-! ## States -/

/-- How a request stands towards its suspension, as it reports it. -/
inductive State where
  | sync
  | started
  | dispatched
  | completed
  deriving DecidableEq, Repr

def State.name : State → String
  | .sync => "Sync"
  | .started => "Started"
  | .dispatched => "Dispatched"
  | .completed => "Completed"

/-- How far a cycle has come. -/
inductive Phase where
  | started
  | dispatched
  | completed
  deriving DecidableEq, Repr

def Phase.state : Phase → State
  | .started => .started
  | .dispatched => .dispatched
  | .completed => .completed

/-- What a suspended request is resumed with. -/
inductive Resumption where
  | dispatch (target : String)
  | complete
  | timedOut
  deriving DecidableEq, Repr

/-! ## Cycles -/

/-- One suspension of a request. -/
structure Cycle where
  /-- The number of the cycle among those of its request, from one on. -/
  number : Nat
  exchange : Exchange
  /-- The path the request was received on. -/
  path : String
  phase : Phase := .started
  /-- The dispatch target has taken over. -/
  taken : Bool := false
  /-- The dispatch has returned, or a new cycle was started from its target. -/
  superseded : Bool := false
  /-- The time the suspension may take, in milliseconds; zero is no limit. -/
  timeout : Nat
  listeners : List Registration := []
  /-- The resumption has not been sent yet. -/
  armed : Bool := true
  /-- The resumption that was sent. -/
  sent : Option Resumption := none
  /-- Someone can still receive the resumption. -/
  heard : Bool := true
  deriving DecidableEq, Repr

namespace Cycle

/-- The state that a handle of the cycle reports. -/
def state (c : Cycle) : State := if c.superseded then .sync else c.phase.state

/-- Why the cycle takes no more calls. -/
def refusal? (c : Cycle) : Option Misuse :=
  if c.superseded then some .superseded
  else if c.phase = .completed then some .completed
  else none

/-- The cycle takes calls. -/
def isLive (c : Cycle) : Bool := c.refusal?.isNone

/-- A dispatch of the cycle waits for its target. -/
def dispatchPending (c : Cycle) : Bool := c.phase = .dispatched && !c.taken

/-- The dispatch target of the cycle is at work. -/
def inTarget (c : Cycle) : Bool := !c.superseded && c.phase = .dispatched && c.taken

/-- What is found where the resumption arrives. When none can come any more, the request counts
as completed. -/
def received? (c : Cycle) : Option Resumption :=
  match c.sent with
  | some r => some r
  | none => if c.armed then none else some .complete

def describe (c : Cycle) : String :=
  "AsyncContext \x7b cycle: " ++ toString c.number ++ ", state: " ++ c.state.name ++ " \x7d"

/-- Sends the resumption, once; nobody may be left to receive it. -/
def signal (c : Cycle) (r : Resumption) : Outcome Cycle Unit :=
  if !c.armed then { answer := (), state := c }
  else if c.heard then { answer := (), state := { c with armed := false, sent := some r } }
  else
    { answer := (), state := { c with armed := false },
      effects := [.log .warn "async span dropped before the request was resumed"] }

/-- Tells every listener of an occasion. -/
def notices (listeners : List Registration) (occasion : Occasion) (exchange : Exchange) :
    List Effect :=
  listeners.map fun r => .notified r occasion exchange

/-- The number of the cycle, as a log entry names it. -/
def numberField (c : Cycle) : String × String := ("cycle", toString c.number)

/-- Milliseconds in the unit that suits them. -/
def durationText (ms : Nat) : String :=
  if ms = 0 then "0ns"
  else if ms < 1000 then toString ms ++ "ms"
  else
    let thousandths := (Nat.toDigits 10 (1000 + ms % 1000)).drop 1
    let part := String.ofList (thousandths.reverse.dropWhile (· = '0')).reverse
    toString (ms / 1000) ++ (if part.isEmpty then "" else "." ++ part) ++ "s"

/-! ## Calls -/

/-- A call that only a live cycle takes. -/
def whenLive {α : Type} (c : Cycle) (call : Attempt Cycle α) : Attempt Cycle α :=
  match c.refusal? with
  | some misuse => .refuse c misuse
  | none => call

/-- Dispatches the request to a target, which is resolved against its path. -/
def dispatchTo (c : Cycle) (path : String) : Attempt Cycle Unit :=
  match Target.resolve? c.path path with
  | none => .refuse c (.invalidTarget path)
  | some target =>
    c.whenLive <|
      if c.phase ≠ .started then .refuse c .alreadyDispatched
      else
        let signalled :=
          { c with phase := .dispatched, taken := false }.signal (.dispatch target)
        (signalled.map Except.ok).after
          [.log .debug "async dispatch" [c.numberField, ("target", target)]]

/-- Dispatches the request to the path it was received on. -/
def dispatch (c : Cycle) : Attempt Cycle Unit := c.dispatchTo c.path

/-- Completes the request. A pending dispatch has to be taken first. -/
def complete (c : Cycle) : Attempt Cycle Unit :=
  c.whenLive <|
    if c.dispatchPending then .refuse c .completeBeforeDispatch
    else
      let signalled := { c with phase := .completed, listeners := [] }.signal .complete
      { answer := .ok (), state := signalled.state,
        effects := [.log .debug "async complete" [c.numberField]] ++ signalled.effects ++
          notices c.listeners .completion c.exchange }

/-- Lets the time of a suspended cycle run out. The answer is whether it was suspended. -/
def expire (c : Cycle) : Outcome Cycle Bool :=
  if c.superseded || c.phase ≠ .started then { answer := false, state := c }
  else
    { answer := true,
      state := { c with phase := .completed, armed := false, listeners := [] },
      effects := [.log .warn "async processing timed out"
          [c.numberField, ("timeout", durationText c.timeout)]] ++
        notices c.listeners .timeout c.exchange ++ notices c.listeners .completion c.exchange }

/-- Changes the time the suspension may take. -/
def setTimeout (c : Cycle) (timeout : Nat) : Attempt Cycle Unit :=
  c.whenLive (.succeed { c with timeout } ())

/-- Registers a listener behind the others. -/
def addListener (c : Cycle) (label : Option String) : Attempt Cycle Unit :=
  let r : Registration := { cycle := c.number, place := c.listeners.length, label }
  c.whenLive (.succeed { c with listeners := c.listeners ++ [r] } ())

/-- A refused call leaves the cycle as it was. -/
theorem whenLive_of_refusal {α : Type} {c : Cycle} {m : Misuse} (h : c.refusal? = some m)
    (call : Attempt Cycle α) : c.whenLive call = .refuse c m := by
  simp [whenLive, h]

theorem whenLive_of_live {α : Type} {c : Cycle} (h : c.refusal? = none) (call : Attempt Cycle α) :
    c.whenLive call = call := by
  simp [whenLive, h]

end Cycle

end WebRequest.Async
