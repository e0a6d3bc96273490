-- A request as its handler sees it: its head, its body and parameters, the attributes
-- attached to it, the connection it came on, and its suspensions. It keeps the settings
-- that were in force when it was received.
import WebRequest.AcceptLanguage
import WebRequest.Async.Lifecycle
import WebRequest.Connection
import WebRequest.Head.Basic
import WebRequest.Parameters.Parser

namespace WebRequest

/-- Why a handler is run: for the request as it came, or for a dispatch after a suspension. -/
inductive DispatchKind where
  | request
  | async
  deriving DecidableEq, Repr

def DispatchKind.name : DispatchKind → String
  | .request => "Request"
  | .async => "Async"

structure Request where
  id : Nat
  protocolId : Option String
  head : RequestHead
  connection : Connection
  endpoint : Endpoint
  settings : Settings
  attributes : Attributes := {}
  encoding : BodyEncoding
  body : Body.Access
  parser : Parameters.Parser := {}
  dispatchKind : DispatchKind := .request
  lifecycle : Async.Lifecycle

namespace Request

/-- What arrives at a container. -/
structure Arrival where
  head : RequestHead
  transport : Body.Transport
  connection : Connection := {}
  endpoint : Endpoint := {}
  protocolId : Option String := none

/-- The request of an arrival, under the given settings. -/
def receive (a : Arrival) (settings : Settings) (id : Nat) : Request :=
  { id, protocolId := a.protocolId, head := a.head, connection := a.connection,
    endpoint := a.endpoint, settings,
    encoding :=
      { context := settings.contextEncoding, container := settings.containerEncoding,
        declared := a.head.declaredCharset },
    body := .untouched a.transport,
    lifecycle :=
      { supported := a.endpoint.asyncSupported, defaultTimeout := settings.asyncTimeout,
        path := a.head.uri.path } }

/-! ## Where the request was addressed -/

/-- The scheme of the target, or else that of the connection. -/
def scheme (r : Request) : String := r.head.uri.scheme.getD r.connection.scheme

/-- The port that a scheme uses when none is given. -/
def defaultPort (scheme : String) : Option Nat :=
  if scheme == "http" || scheme == "ws" then some 80
  else if scheme == "https" || scheme == "wss" then some 443
  else none

/-- The host that the client asked for, or else the near end of the connection. -/
def serverName (r : Request) : Option String :=
  match r.head.authority with
  | some a => some a.host
  | none => r.connection.localName

/-- The port that the client asked for, or else that of the near end. -/
def serverPort (r : Request) : Option Nat :=
  match r.head.authority with
  | some a => a.port.or (defaultPort r.scheme)
  | none => r.connection.localAddress.map (·.port)

/-- A dispatch target, resolved against the path of the request. -/
def dispatchTarget? (r : Request) (target : String) : Option String :=
  Target.resolve? r.head.uri.path target

/-! ## Locales -/

/-- The locales of the client, the most preferred first; the default one if it names none. -/
def locales (r : Request) : List Locale :=
  match AcceptLanguage.negotiate (r.head.fields.texts "accept-language") with
  | [] => [r.settings.defaultLocale]
  | ls => ls

/-- The locale that the client prefers. -/
def locale (r : Request) : Locale := r.locales.head?.getD r.settings.defaultLocale

/-! ## Attributes -/

/-- Attaches a value under a name, or takes away what is attached if there is no value. -/
def setAttribute (name : String) (value : Option Value) (r : Request) : Outcome Request Unit :=
  { answer := (), state := { r with attributes := r.attributes.set name value } }

/-- Attaches a value under a name. The answer is how many names are bound then. -/
def insertAttribute (name : String) (value : Value) (r : Request) : Outcome Request Nat :=
  let attributes := r.attributes.insert name value
  { answer := attributes.size, state := { r with attributes } }

/-- Takes away the value attached under a name. The answer is that value. -/
def takeAttribute (name : String) (r : Request) : Outcome Request (Option Value) :=
  let (value, attributes) := r.attributes.take name
  { answer := value, state := { r with attributes } }

/-- Prepares the request for another use: nothing stays attached to it. -/
def recycle (r : Request) : Outcome Request Unit :=
  { answer := (), state := { r with attributes := .empty },
    effects := [.log .debug "request recycled"
      [("request_id", toString r.id), ("attributes", toString r.attributes.size)]] }

def describe (r : Request) : String :=
  "RequestFacade \x7b request_id: " ++ toString r.id ++ ", method: " ++ r.head.method ++
    ", uri: " ++ r.head.uri.text ++ ", body: " ++ r.body.describe ++ ", parser: " ++
    r.parser.describe ++ ", async: " ++ r.lifecycle.describe ++ ", .. \x7d"

/-- There is always a locale, and the preferred one leads the list. -/
theorem head?_locales (r : Request) : r.locales.head? = some r.locale := by
  have h : r.locales ≠ [] := by
    unfold locales
    split <;> simp_all
  cases hl : r.locales with
  | nil => exact absurd hl h
  | cons a l => simp [locale, hl]

end Request

end WebRequest
