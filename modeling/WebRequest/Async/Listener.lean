-- Those who wait for the end of a cycle. A listener is registered on one cycle, keeps
-- its place among the registrations of that cycle, and hears of the cycle's ending
-- together with the exchange that was captured when a cycle started.
import WebRequest.Attributes

namespace WebRequest.Async

/-- The wrappers of the request and of the response that a cycle was started with. -/
structure Exchange where
  request : Option Value := none
  response : Option Value := none
  deriving DecidableEq, Repr

/-- There are no wrappers: request and response are those that came. -/
def Exchange.isOriginal (e : Exchange) : Bool := e.request.isNone && e.response.isNone

/-- Which of the two wrappers are there. -/
def Exchange.describe (e : Exchange) : String :=
  "AsyncEvent \x7b wrapped_request: " ++ toString e.request.isSome ++
    ", wrapped_response: " ++ toString e.response.isSome ++ " \x7d"

/-- What a listener is told: that a new cycle took over, that the cycle completed, or that its
time ran out. -/
inductive Occasion where
  | start
  | completion
  | timeout
  deriving DecidableEq, Repr

/-- A listener registered on a cycle. -/
structure Registration where
  /-- The number of the cycle. -/
  cycle : Nat
  /-- The place among the registrations of the cycle. -/
  place : Nat
  /-- The name under which it reports; a listener without one stays silent. -/
  label : Option String
  deriving DecidableEq, Repr

end WebRequest.Async
