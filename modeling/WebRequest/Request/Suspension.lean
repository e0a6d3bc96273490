-- Suspending a request and what follows: its dispatch, completion or timeout, and the
-- run of a dispatch target.
import WebRequest.Async.Wait
import WebRequest.Request.Basic

namespace WebRequest.Request

open Async

/-- The request with its suspensions changed. -/
def withLifecycle (r : Request) (lifecycle : Lifecycle) : Request := { r with lifecycle }

/-- Suspends the request. The answer is the place of the new cycle. -/
def startAsync (r : Request) (exchange : Exchange) : Attempt Request Nat :=
  (Attempt.bind (r.lifecycle.start exchange) fun place l =>
    { answer := .ok place, state := l,
      effects := [.log .debug "request suspended" [("request_id", toString r.id)]] }).within
    r.withLifecycle

/-- What the container waits on. -/
def takeSpan (r : Request) : Attempt Request Span := r.lifecycle.takeSpan.within r.withLifecycle

def enterDispatch (r : Request) : Attempt Request Unit :=
  let o := r.lifecycle.enterDispatch
  { answer := o.answer,
    state := { r with
      lifecycle := o.state,
      dispatchKind := if o.answer.toBool then .async else r.dispatchKind },
    effects := o.effects }

def exitDispatch (r : Request) : Outcome Request State :=
  r.lifecycle.exitDispatch.within r.withLifecycle

def callCycle {α : Type} (r : Request) (place : Nat) (call : Cycle → Outcome Cycle α) :
    Option (Outcome Request α) :=
  (r.lifecycle.call place call).map fun o => o.within r.withLifecycle

/-- The resumption that has arrived on the channel of a span. -/
def arrived? (r : Request) (span : Span) : Option Resumption :=
  (r.lifecycle.cycle? span.channel).bind Cycle.received?

/-- How long a wait on a span may take; zero is no limit. -/
def timeLimit (r : Request) (span : Span) : Nat :=
  ((r.lifecycle.cycle? span.context).map (·.timeout)).getD 0

/-- Lets the time of a span run out. The answer is whether its cycle was suspended. -/
def expire (r : Request) (span : Span) : Outcome Request Bool :=
  (r.callCycle span.context Cycle.expire).getD { answer := false, state := r }

/-- What a wait on a span looks at. -/
def watch (span : Span) : Watch Request where
  arrived r := r.arrived? span
  expire r := r.expire span

/-- The container lets go of the request: nobody will ask for its resumption. -/
def release (r : Request) : Request := r.withLifecycle r.lifecycle.dropReceiver

end WebRequest.Request
