-- What an operation does besides answering: it writes to the log, it calls the splitter
-- of a multipart body, and it notifies listeners. Effects are values, in the order in
-- which they happen, so that laws can speak about them.
import WebRequest.Bytes
import WebRequest.Charset.Basic
import WebRequest.Async.Listener
import WebRequest.Fault

namespace WebRequest

/-- How grave a log entry is. -/
inductive Level where
  | debug
  | info
  | warn
  | error
  deriving DecidableEq, Repr

def Level.name : Level → String
  | .debug => "DEBUG"
  | .info => "INFO"
  | .warn => "WARN"
  | .error => "ERROR"

/-- An entry of the log, with named texts. -/
structure LogEntry where
  level : Level
  message : String
  fields : List (String × String) := []
  deriving DecidableEq, Repr

/-- Something an operation does that others can see. -/
inductive Effect where
  | logged (entry : LogEntry)
  | split (boundary : String) (body : Bytes) (charset : Charset)
  | notified (registration : Async.Registration) (occasion : Async.Occasion)
      (exchange : Async.Exchange)
  deriving DecidableEq, Repr

namespace Effect

/-- An entry of the log as an effect. -/
def log (level : Level) (message : String) (fields : List (String × String) := []) : Effect :=
  .logged { level, message, fields }

/-- The log entries among the effects. -/
def entries (effects : List Effect) : List LogEntry :=
  effects.filterMap fun
    | .logged entry => some entry
    | _ => none

/-- What a listener without a name is told leaves no trace; all else but the log is shown. -/
def isShown : Effect → Bool
  | .logged _ => false
  | .split .. => true
  | .notified r .. => r.label.isSome

end Effect

/-! ## Outcomes -/

/-- What an operation comes to: its answer, the state after it, and its effects. -/
structure Outcome (σ α : Type) where
  answer : α
  state : σ
  effects : List Effect := []
  deriving DecidableEq, Repr

/-- An operation that may fail with a fault. -/
abbrev Attempt (σ α : Type) := Outcome σ (Except RequestFault α)

namespace Outcome

variable {σ τ α β : Type}

/-- The same outcome with another answer. -/
def map (f : α → β) (o : Outcome σ α) : Outcome σ β :=
  { answer := f o.answer, state := o.state, effects := o.effects }

/-- The same outcome within a larger state. -/
def within (put : σ → τ) (o : Outcome σ α) : Outcome τ α :=
  { answer := o.answer, state := put o.state, effects := o.effects }

/-- What happened before the outcome. -/
def after (effects : List Effect) (o : Outcome σ α) : Outcome σ α :=
  { o with effects := effects ++ o.effects }

/-- Goes on with the state and the answer. -/
def andThen (o : Outcome σ α) (next : α → σ → Outcome τ β) : Outcome τ β :=
  (next o.answer o.state).after o.effects

end Outcome

namespace Attempt

variable {σ α β : Type}

/-- A success that changes nothing. -/
def succeed (state : σ) (answer : α) : Attempt σ α := { answer := .ok answer, state }

/-- A failure that changes nothing. -/
def fail (state : σ) (fault : RequestFault) : Attempt σ α := { answer := .error fault, state }

/-- A call that the state does not allow. -/
def refuse (state : σ) (misuse : Misuse) : Attempt σ α := fail state (.illegalState misuse)

/-- Goes on after a success; a failure is final. -/
def bind (o : Attempt σ α) (next : α → σ → Attempt σ β) : Attempt σ β :=
  o.andThen fun answer state =>
    match answer with
    | .ok a => next a state
    | .error f => fail state f

end Attempt

end WebRequest
