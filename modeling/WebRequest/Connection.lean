-- What the container knows of a connection: the addresses of both ends, names for
-- them, and how it is secured. Names that were not given come from the addresses, and
-- the scheme comes from whether the connection is secure.
import WebRequest.SocketAddress

namespace WebRequest

/-- A connection, as its container describes it. -/
structure Connection where
  id : String := ""
  protocolId : String := ""
  localAddress : Option SocketAddress := none
  remoteAddress : Option SocketAddress := none
  givenLocalName : Option String := none
  givenRemoteHost : Option String := none
  givenScheme : Option String := none
  secure : Bool := false
  deriving DecidableEq, Repr

namespace Connection

/-- The name of the near end. -/
def localName (c : Connection) : Option String :=
  c.givenLocalName.or (c.localAddress.map (·.host.text))

def remoteHost (c : Connection) : Option String :=
  c.givenRemoteHost.or (c.remoteAddress.map (·.host.text))

/-- The scheme that requests on this connection use. -/
def scheme (c : Connection) : String :=
  c.givenScheme.getD (if c.secure then "https" else "http")

end Connection

end WebRequest
