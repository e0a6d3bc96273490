-- Runs of the operations that suspend and resume a request. Handles are given by the
-- place of their cycle, so an operation may name the handle of any cycle, also of one
-- that ended long ago. A time limit may run out at any moment.
import WebRequest.Proofs.Runs
import WebRequest.Request.Suspension

namespace WebRequest.Suspension

open Async

/-! ## What can happen to a request -/

/-- A call on the handle of a cycle. -/
inductive Call where
  | dispatch
  | dispatchTo (target : String)
  | complete
  | setTimeout (ms : Nat)
  | addListener (label : Option String)
  deriving DecidableEq, Repr

/-- An operation on a request, or on the handle of one of its cycles. -/
inductive Operation where
  | start (exchange : Exchange)
  | context
  | takeSpan
  | enterDispatch
  | exitDispatch
  | call (place : Nat) (call : Call)
  deriving DecidableEq, Repr

/-- An operation, or the time limit of a cycle that runs out. -/
inductive Event where
  | operation (op : Operation)
  | expiry (place : Nat)
  deriving DecidableEq, Repr

inductive Answer where
  | done
  | handle (place : Nat)
  | span (span : Span)
  | state (state : State)
  | expired (wasSuspended : Bool)
  | failed (fault : RequestFault)
  /-- There is no such handle. -/
  | absent
  deriving DecidableEq, Repr

/-- The answer of an operation that may fail. -/
def Answer.ofExcept {α : Type} (success : α → Answer) : Except RequestFault α → Answer
  | .ok a => success a
  | .error fault => .failed fault

@[simp] theorem Answer.ofExcept_ok {α : Type} (success : α → Answer) (a : α) :
    Answer.ofExcept success (.ok a) = success a := rfl

@[simp] theorem Answer.ofExcept_error {α : Type} (success : α → Answer) (fault : RequestFault) :
    Answer.ofExcept success (.error fault) = .failed fault := rfl

def Call.on (c : Cycle) : Call → Attempt Cycle Unit
  | .dispatch => c.dispatch
  | .dispatchTo target => c.dispatchTo target
  | .complete => c.complete
  | .setTimeout ms => c.setTimeout ms
  | .addListener label => c.addListener label

/-- The outcome of an event for the cycle at a place. -/
def onHandle (r : Request) (place : Nat) (f : Cycle → Outcome Cycle Answer) :
    Outcome Request Answer :=
  (r.callCycle place f).getD { answer := .absent, state := r }

def perform (r : Request) : Event → Outcome Request Answer
  | .operation (.start exchange) => (r.startAsync exchange).map (.ofExcept .handle)
  | .operation .context => { answer := .ofExcept .handle r.lifecycle.context, state := r }
  | .operation .takeSpan => r.takeSpan.map (.ofExcept .span)
  | .operation .enterDispatch => r.enterDispatch.map (.ofExcept fun _ => .done)
  | .operation .exitDispatch => r.exitDispatch.map .state
  | .operation (.call place call) =>
    onHandle r place fun c => (call.on c).map (.ofExcept fun _ => .done)
  | .expiry place => onHandle r place fun c => c.expire.map .expired

/-- A moment of a run. -/
abbrev Moment := Runs.Moment perform

/-- The request after a run of events. -/
abbrev after (r : Request) (events : List Event) : Request := Runs.after perform r events

/-- The moments of a run, in order. -/
abbrev history (r : Request) (events : List Event) : List Moment := Runs.history perform r events

/-! ## Notices -/

/-- What a listener is told. -/
structure Notice where
  registration : Registration
  occasion : Occasion
  exchange : Exchange
  deriving DecidableEq, Repr

/-- The notices among the effects, in order. -/
def notices (effects : List Effect) : List Notice :=
  effects.filterMap fun
    | .notified registration occasion exchange => some ⟨registration, occasion, exchange⟩
    | _ => none

/-- What the listeners are told at a moment. -/
def Moment.notices (m : Moment) : List Notice := Suspension.notices m.effects

@[simp] theorem notices_nil : notices [] = [] := rfl

@[simp] theorem notices_append (a b : List Effect) : notices (a ++ b) = notices a ++ notices b :=
  List.filterMap_append

@[simp] theorem notices_log (level : Level) (message : String) (fields : List (String × String))
    (rest : List Effect) : notices (.log level message fields :: rest) = notices rest := rfl

@[simp] theorem notices_notices (rs : List Registration) (o : Occasion) (e : Exchange) :
    notices (Cycle.notices rs o e) = rs.map fun r => ⟨r, o, e⟩ := by
  unfold notices Cycle.notices
  induction rs with
  | nil => rfl
  | cons r rest ih => exact congrArg (⟨r, o, e⟩ :: ·) ih

end WebRequest.Suspension
