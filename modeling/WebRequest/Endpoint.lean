-- What an endpoint allows: whether its requests can be suspended, and whether and how
-- multipart bodies are taken.
import WebRequest.Parameters.Multipart

namespace WebRequest

/-- How an endpoint takes multipart bodies. -/
structure MultipartSupport where
  limits : Parameters.MultipartLimits := {}
  splitter : Parameters.Splitter

/-- What an endpoint allows. -/
structure Endpoint where
  asyncSupported : Bool := false
  multipart : Option MultipartSupport := none

def Endpoint.describe (e : Endpoint) : String :=
  "EndpointConfig \x7b async_supported: " ++ toString e.asyncSupported ++ ", multipart: " ++
    (match e.multipart with
      | none => "None"
      | some m => "Some(" ++ m.limits.describe ++ ")") ++ " \x7d"

end WebRequest
