-- What a transport delivers of a body, frame by frame, and how a consumer takes it.
-- Only data counts: trailers, empty data and waits are passed over. A consumer that has
-- only so much patience is gone after so many waits, and takes nothing further.
import WebRequest.Fault
import WebRequest.Bytes
import WebRequest.Patience

namespace WebRequest.Body

/-- Something a transport delivers. -/
inductive Frame where
  | data (bytes : Bytes)
  | trailers
  /-- Nothing yet. -/
  | waiting
  | failure (fault : TransportFault)
  deriving DecidableEq, Repr

/-- A body on its way. -/
structure Transport where
  frames : List Frame
  /-- The transport can tell that no frame is left. -/
  endKnown : Bool := false
  deriving DecidableEq, Repr

namespace Transport

def empty : Transport := { frames := [], endKnown := true }

/-- A body that is there as a whole. -/
def full (bytes : Bytes) : Transport :=
  { frames := if bytes.isEmpty then [] else [.data bytes], endKnown := true }

/-- The transport reports that it is at its end. -/
def isAtEnd (t : Transport) : Bool := t.endKnown && t.frames.isEmpty

end Transport

/-- Why a consumer stopped. -/
inductive Ending where
  /-- It has enough. -/
  | enough
  /-- No frame is left. -/
  | finished
  | failed (fault : TransportFault)
  /-- Its patience ran out. -/
  | abandoned
  deriving DecidableEq, Repr

/-- What a consumer of frames comes to. -/
structure Fed (σ : Type) where
  state : σ
  rest : List Frame
  /-- How many bytes have been taken so far. -/
  read : Nat
  ending : Ending

variable {σ : Type}

/-- Gives the data of the frames to a consumer, until it says that it has enough. -/
def feed (take : σ → Bytes → σ × Bool) (patience : Patience) (read : Nat) (s : σ) :
    List Frame → Fed σ
  | [] => { state := s, rest := [], read, ending := .finished }
  | .failure fault :: rest => { state := s, rest, read, ending := .failed fault }
  | .trailers :: rest => feed take patience read s rest
  | .waiting :: rest =>
    match Patience.afterWait patience with
    | some patience => feed take patience read s rest
    | none => { state := s, rest, read, ending := .abandoned }
  | .data bytes :: rest =>
    if bytes.isEmpty then feed take patience read s rest
    else
      let (s, enough) := take s bytes
      if enough then { state := s, rest, read := read + bytes.length, ending := .enough }
      else feed take patience (read + bytes.length) s rest

/-- The data of the frames up to the first failure. -/
def dataOf : List Frame → Bytes
  | [] => []
  | .data bytes :: rest => bytes ++ dataOf rest
  | .failure _ :: _ => []
  | _ :: rest => dataOf rest

end WebRequest.Body
