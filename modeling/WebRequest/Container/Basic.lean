-- Containers receive requests. Each request gets the next number and the settings of
-- the moment; new settings concern only the requests to come.
import WebRequest.Request.Basic

namespace WebRequest

structure Container where
  settings : Settings := {}
  /-- The number of the next request. -/
  nextId : Nat := 1
  deriving DecidableEq, Repr

namespace Container

def receive (c : Container) (a : Request.Arrival) : Outcome Container Request :=
  { answer := Request.receive a c.settings c.nextId,
    state := { c with nextId := c.nextId + 1 },
    effects := [.log .debug "request created"
      [("request_id", toString c.nextId), ("method", a.head.method), ("uri", a.head.uri.text)]] }

def reload (c : Container) (settings : Settings) : Outcome Container Unit :=
  { answer := (), state := { c with settings },
    effects := [.log .info "request configuration reloaded"] }

end Container

end WebRequest
