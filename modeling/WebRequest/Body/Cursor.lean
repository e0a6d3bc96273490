-- The place in a body up to which it has been read. There is one for every body, and
-- all who read the body move it. A cursor that met the end, a failure or a limit lets go
-- of the transport, and nothing can be read any more.
import WebRequest.Body.Frame
import WebRequest.Effect

namespace WebRequest

/-- An operation that may fail, and may be given up. -/
abbrev Waiting (σ α : Type) := Outcome σ (Awaited (Except RequestFault α))

namespace Body

/-- The place up to which a body has been read. -/
structure Cursor where
  /-- What is still to come; `none` once the body is over. -/
  transport : Option Transport
  /-- How many bytes have been read. -/
  read : Nat := 0
  deriving DecidableEq, Repr

namespace Cursor

variable {σ : Type}

def start (t : Transport) : Cursor := { transport := some t }

/-- Nothing will be read any more, as far as can be told. -/
def isFinished (c : Cursor) : Bool := c.transport.all Transport.isAtEnd

/-- What a consumer of a body comes to. -/
structure Taken (σ : Type) where
  state : σ
  cursor : Cursor
  ending : Ending
  effects : List Effect := []

/-- Gives the chunks of the body to a consumer, until it says that it has enough. -/
def feed (take : σ → Bytes → σ × Bool) (patience : Patience) (s : σ) (c : Cursor) : Taken σ :=
  match c.transport with
  | none => { state := s, cursor := c, ending := .finished }
  | some t =>
    let fed := Body.feed take patience c.read s t.frames
    match fed.ending with
    | .finished =>
      { state := fed.state, cursor := { transport := none, read := fed.read },
        ending := .finished,
        effects := [.log .debug "request body finished" [("size", toString fed.read)]] }
    | .failed fault =>
      { state := fed.state, cursor := { transport := none, read := fed.read },
        ending := .failed fault,
        effects := [.log .error "failed to read request body"
          [("cause", fault.message), ("read", toString fed.read)]] }
    | ending =>
      { state := fed.state,
        cursor := { transport := some { t with frames := fed.rest }, read := fed.read },
        ending }

/-! ## Reading -/

/-- The next chunk, or `none` at the end. A chunk is never empty. -/
def nextChunk (patience : Patience) (c : Cursor) : Waiting Cursor (Option Bytes) :=
  let taken := c.feed (fun _ chunk => (some chunk, true)) patience none
  { answer :=
      match taken.ending with
      | .failed fault => .ready (.error (.ofTransport fault))
      | .abandoned => .abandoned
      | _ => .ready (.ok taken.state),
    state := taken.cursor, effects := taken.effects }

/-- Chunks collected under a limit. -/
structure Collected where
  /-- The chunks, the last one first. -/
  chunks : List Bytes := []
  size : Nat := 0
  /-- A chunk would have exceeded the limit. -/
  exceeded : Bool := false

def Collected.bytes (s : Collected) : Bytes := s.chunks.reverse.flatten

/-- Collects one more chunk, unless the limit forbids it. -/
def Collected.add (limit : Option Nat) (s : Collected) (chunk : Bytes) : Collected × Bool :=
  let size := s.size + chunk.length
  if limit.any (· < size) then ({ s with exceeded := true }, true)
  else ({ s with chunks := chunk :: s.chunks, size }, false)

/-- All of the rest. A body beyond the limit is refused, and its rest is lost. -/
def readToEnd (limit : Option Nat) (patience : Patience) (c : Cursor) : Waiting Cursor Bytes :=
  let taken := c.feed (Collected.add limit) patience {}
  match taken.ending with
  | .failed fault =>
    { answer := .ready (.error (.ofTransport fault)), state := taken.cursor,
      effects := taken.effects }
  | .abandoned => { answer := .abandoned, state := taken.cursor, effects := taken.effects }
  | .finished =>
    { answer := .ready (.ok taken.state.bytes), state := taken.cursor, effects := taken.effects }
  | .enough =>
    let limit := limit.getD 0
    { answer := .ready (.error (.invalidParameters (.bodyTooLarge limit))),
      state := { taken.cursor with transport := none },
      effects := taken.effects ++
        [.log .warn "request body exceeds the limit, discarding the rest"
          [("max_size", toString limit), ("read", toString taken.cursor.read)]] }

end Cursor

end Body

end WebRequest
