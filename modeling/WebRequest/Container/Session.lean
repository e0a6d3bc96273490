-- A container at work, with everything it has handed out: requests, and the streams,
-- readers, contexts and spans that belong to them. Each kind is numbered from zero in the
-- order of handing out. A request that was let go keeps serving the handles that were
-- taken from it.
import WebRequest.Container.Basic
import WebRequest.Request.Body
import WebRequest.Request.Parameters
import WebRequest.Request.Suspension

namespace WebRequest

/-- A request in the hands of a container. -/
structure Held where
  request : Request
  /-- The container has let go of it. -/
  released : Bool := false

/-- A container at work. Handles name their request by its place. -/
structure Session where
  container : Container := {}
  requests : Array Held := #[]
  streams : Array Nat := #[]
  readers : Array Nat := #[]
  /-- The request of a context, and the place of its cycle. -/
  contexts : Array (Nat × Nat) := #[]
  /-- The request of a span, and the span until it is used up. -/
  spans : Array (Nat × Option Async.Span) := #[]
  /-- The locales still to be listed. -/
  localeLists : Array (List Locale) := #[]
  /-- The parameter tables handed out, with their requests. -/
  tables : Array (Nat × Parameters.Table) := #[]

namespace Session

variable {α β : Type}

/-- An operation on a session; the answer is `none` if it names a handle that is not there. -/
abbrev Action (α : Type) := Session → Outcome Session (Option α)

/-- An operation that may fail. -/
abbrev FallibleAction (α : Type) := Action (Except RequestFault α)

/-- An operation that may fail, and may be given up. -/
abbrev WaitingAction (α : Type) := Action (Awaited (Except RequestFault α))

/-- The handle is not there. -/
def absent : Action α := fun s => { answer := none, state := s }

/-- Only asks. -/
def ask (question : Session → Option α) : Action α := fun s =>
  { answer := question s, state := s }

/-! ## Requests -/

/-- Receives a request. The answer is its number. -/
def receive (a : Request.Arrival) : Action Nat := fun s =>
  let o := s.container.receive a
  { answer := some s.requests.size,
    state := { s with container := o.state, requests := s.requests.push { request := o.answer } },
    effects := o.effects }

def reload (settings : Settings) : Action Unit := fun s =>
  ((s.container.reload settings).within fun container => { s with container }).map some

/-- The request at a place, unless it was let go. -/
def request? (s : Session) (r : Nat) : Option Request :=
  (s.requests[r]?.filter fun h => !h.released).map (·.request)

/-- Changes a request, also one that was let go. -/
def onHeld (r : Nat) (f : Request → Outcome Request α) : Action α := fun s =>
  match s.requests[r]? with
  | none => absent s
  | some h =>
    let o := f h.request
    { answer := some o.answer,
      state := { s with requests := s.requests.setIfInBounds r { h with request := o.state } },
      effects := o.effects }

/-- Changes a request that has not been let go. -/
def onRequest (r : Nat) (f : Request → Outcome Request α) : Action α := fun s =>
  match s.request? r with
  | none => absent s
  | some _ => onHeld r f s

def askRequest (r : Nat) (question : Request → α) : Action α :=
  ask fun s => (s.request? r).map question

/-- Lets go of a request. -/
def release (r : Nat) : Action Unit := fun s =>
  match s.request? r with
  | none => absent s
  | some request =>
    { answer := some (),
      state := { s with
        requests := s.requests.setIfInBounds r { request := request.release, released := true } } }

/-! ## Handing out -/

/-- Goes on with the session after a success, and turns the answer into a handle. -/
def handOut (act : FallibleAction α) (give : α → Session → Nat × Session) :
    FallibleAction Nat := fun s =>
  let o := act s
  match o.answer with
  | none => { o with answer := none }
  | some (.error f) => { o with answer := some (.error f) }
  | some (.ok a) =>
    let (handle, state) := give a o.state
    { answer := some (.ok handle), state, effects := o.effects }

def openStream (r : Nat) : FallibleAction Nat :=
  handOut (onRequest r Request.openStream) fun () s =>
    (s.streams.size, { s with streams := s.streams.push r })

def openReader (r : Nat) : FallibleAction Nat :=
  handOut (onRequest r Request.openReader) fun () s =>
    (s.readers.size, { s with readers := s.readers.push r })

/-- Hands out a context of the cycle at a place. -/
def giveContext (r place : Nat) (s : Session) : Nat × Session :=
  (s.contexts.size, { s with contexts := s.contexts.push (r, place) })

/-- Suspends a request. The answer is the number of the context. -/
def startAsync (r : Nat) (exchange : Async.Exchange) : FallibleAction Nat :=
  handOut (onRequest r fun q => q.startAsync exchange) (giveContext r)

/-- The context of a suspended request. -/
def asyncContext (r : Nat) : FallibleAction Nat :=
  handOut (askRequest r fun q => q.lifecycle.context) (giveContext r)

/-- What the container waits on. -/
def takeSpan (r : Nat) : FallibleAction Nat :=
  handOut (onRequest r Request.takeSpan) fun span s =>
    (s.spans.size, { s with spans := s.spans.push (r, some span) })

/-- The locales of a request, to be listed one by one. -/
def listLocales (r : Nat) : Action (List Locale) := fun s =>
  match s.request? r with
  | none => absent s
  | some q =>
    { answer := some q.locales, state := { s with localeLists := s.localeLists.push q.locales } }

/-- The next of the locales, and how many are left. -/
def nextLocale (l : Nat) : Action (Option Locale × Nat) := fun s =>
  match s.localeLists[l]? with
  | none => absent s
  | some ls =>
    { answer := some (ls.head?, ls.length - 1),
      state := { s with localeLists := s.localeLists.setIfInBounds l (ls.drop 1) } }

/-- The table of the parameters, with what it is compared with: for every table handed out so
far, whether it is the same one, and whether it agrees. -/
def parameterTable (r : Nat) (patience : Patience) :
    WaitingAction (Parameters.Table × List (Bool × Bool)) := fun s =>
  let o := onRequest r (Request.parameterTable patience) s
  match o.answer with
  | some (.ready (.ok table)) =>
    let state := { o.state with tables := o.state.tables.push (r, table) }
    let compared := state.tables.toList.map fun (q, t) => (q == r, table.agrees t)
    { answer := some (.ready (.ok (table, compared))), state, effects := o.effects }
  | answer => { o with answer := answer.map fun a => a.map fun e => e.map fun t => (t, []) }

/-! ## Using handles -/

def onStream (handle : Nat) (f : Request → Outcome Request α) : Action α := fun s =>
  match s.streams[handle]? with
  | none => absent s
  | some r => onHeld r f s

def onReader (handle : Nat) (f : Request → Outcome Request α) : Action α := fun s =>
  match s.readers[handle]? with
  | none => absent s
  | some r => onHeld r f s

/-- The cycle of a context. -/
def cycle? (s : Session) (handle : Nat) : Option Async.Cycle := do
  let (r, place) ← s.contexts[handle]?
  let held ← s.requests[r]?
  held.request.lifecycle.cycle? place

def onCycle (r place : Nat) (call : Async.Cycle → Outcome Async.Cycle α) : Action α := fun s =>
  match s.requests[r]? with
  | none => absent s
  | some h =>
    match h.request.callCycle place call with
    | none => absent s
    | some o =>
      { answer := some o.answer,
        state := { s with requests := s.requests.setIfInBounds r { h with request := o.state } },
        effects := o.effects }

def onContext (handle : Nat) (call : Async.Cycle → Outcome Async.Cycle α) : Action α := fun s =>
  match s.contexts[handle]? with
  | none => absent s
  | some (r, place) => onCycle r place call s

/-! ## Spans -/

/-- Nobody listens on the channel of a span any more. -/
def closeChannel (r : Nat) (span : Async.Span) (s : Session) : Session :=
  (onHeld r (fun q => { answer := (), state := q.withLifecycle (q.lifecycle.deafen span.channel) })
    s).state

/-- Uses up a span. -/
def useSpan (handle : Nat) (s : Session) : Option (Nat × Async.Span × Session) :=
  match s.spans[handle]? with
  | some (r, some span) =>
    some (r, span, { s with spans := s.spans.setIfInBounds handle (r, none) })
  | _ => none

def dropSpan (handle : Nat) : Action Unit := fun s =>
  match useSpan handle s with
  | none => absent s
  | some (r, span, s) => { answer := some (), state := closeChannel r span s }

/-- What a wait on a span of a request looks at. -/
def watch (r : Nat) (span : Async.Span) : Async.Watch Session where
  arrived s := s.requests[r]?.bind fun h => (Request.watch span).arrived h.request
  expire s := (onHeld r (Request.watch span).expire s).map fun a => a.getD false

/-- The end of a wait: what the request is resumed with, when, and the answers of what was done
meanwhile. -/
structure Resumed (α : Type) where
  resumption : Async.Resumption
  time : Nat
  answers : List α

/-- Waits on a span, while the planned things happen. The span is used up, also by a wait that
is given up. -/
def resume (handle : Nat) (patience : Patience) (plan : List (Async.Planned Session α)) :
    Action (Awaited (Resumed α)) := fun s =>
  match useSpan handle s with
  | none => absent s
  | some (r, span, s) =>
    let watch := watch r span
    let limit := (s.requests[r]?.map fun h => h.request.timeLimit span).getD 0
    let waited := Async.Waited.run watch limit patience plan s
    { answer := some <|
        match waited.abandoned, waited.vigil with
        | false, .ended resumption time =>
          .ready { resumption, time, answers := waited.answers.reverse }
        | _, _ => .abandoned,
      state := closeChannel r span waited.state, effects := waited.effects }

end Session

end WebRequest
