-- What can go wrong with a request, by cause, and the wording of each cause. A fault
-- of the transport met while parameters are parsed becomes a fault of the parameters.

namespace WebRequest

/-! ## The transport -/

/-- The kinds of input and output faults told apart. -/
inductive IoKind where
  | connectionReset
  | unexpectedEnd
  | timedOut
  | brokenPipe
  | invalidData
  | other
  deriving DecidableEq, Repr

def IoKind.message : IoKind → String
  | .connectionReset => "connection reset"
  | .unexpectedEnd => "unexpected end of file"
  | .timedOut => "timed out"
  | .brokenPipe => "broken pipe"
  | .invalidData => "invalid data"
  | .other => "other error"

/-- A fault of input or output, with a text of its own or the text of its kind. -/
structure IoFault where
  kind : IoKind
  detail : Option String := none
  deriving DecidableEq, Repr

def IoFault.message (f : IoFault) : String := f.detail.getD f.kind.message

/-- A fault reported by the transport of a body. -/
inductive TransportFault where
  | io (fault : IoFault)
  | other (detail : String)
  deriving DecidableEq, Repr

def TransportFault.message : TransportFault → String
  | .io f => f.message
  | .other detail => detail

/-! ## Parameters -/

/-- Why the parameters could not be built. -/
inductive ParameterFault where
  | malformedEncoding (source reason : String)
  | undecodableBytes (charset : String)
  | tooManyParameters (limit : Nat)
  | bodyTooLarge (limit : Nat)
  | tooManyParts (limit : Nat)
  | fileTooLarge (name : String) (size limit : Nat)
  | missingBoundary
  | multipart (reason : String)
  | io (fault : IoFault)
  deriving DecidableEq, Repr

namespace ParameterFault

def message : ParameterFault → String
  | .malformedEncoding source reason =>
    "malformed percent-encoding in " ++ source ++ ": " ++ reason
  | .undecodableBytes charset => "parameter bytes are not valid " ++ charset
  | .tooManyParameters limit => "parameter count exceed the limit " ++ toString limit
  | .bodyTooLarge limit => "request body size exceed the limit " ++ toString limit
  | .tooManyParts limit => "multipart part count exceed the limit " ++ toString limit
  | .fileTooLarge name size limit =>
    "multipart file part '" ++ name ++ "' size " ++ toString size ++ " exceed the limit " ++
      toString limit
  | .missingBoundary => "multipart content type has no boundary"
  | .multipart reason => "multipart decode error: " ++ reason
  | .io f => "io error while reading request body: " ++ f.message

/-- A parameter that cannot be decoded may be skipped; a limit may not. -/
def isRecoverable : ParameterFault → Bool
  | .malformedEncoding .. | .undecodableBytes .. => true
  | _ => false

end ParameterFault

/-! ## Calls out of order -/

/-- The ways to call an operation in a state that does not allow it. -/
inductive Misuse where
  | openedAsReader
  | openedAsStream
  | alreadyOpened
  | parsingInterrupted
  | superseded
  | completed
  | invalidTarget (path : String)
  | alreadyDispatched
  | completeBeforeDispatch
  | asyncUnsupported
  | alreadyStarted
  | alreadyCompleted
  | startBeforeDispatch
  | notAsync
  | noSpan
  | noDispatch
  | other (reason : String)
  deriving DecidableEq, Repr

def Misuse.reason : Misuse → String
  | .openedAsReader => "the body has already been opened as a reader"
  | .openedAsStream => "the body has already been opened as a stream"
  | .alreadyOpened => "the body has already been opened"
  | .parsingInterrupted => "parameter parsing was interrupted and can not be resumed"
  | .superseded => "the async context has been superseded"
  | .completed => "the async context has completed"
  | .invalidTarget path => "invalid dispatch target '" ++ path ++ "'"
  | .alreadyDispatched => "dispatch has already been called for this async cycle"
  | .completeBeforeDispatch => "a dispatch is pending, complete from the dispatch target"
  | .asyncUnsupported => "async processing is not supported for this request"
  | .alreadyStarted => "async processing has already started"
  | .alreadyCompleted => "async processing has already completed"
  | .startBeforeDispatch => "a dispatch is pending for this request"
  | .notAsync => "the request is not in async mode"
  | .noSpan => "the request has no suspended async cycle"
  | .noDispatch => "no async dispatch pending"
  | .other reason => reason

/-! ## Requests -/

/-- Why an operation on a request failed. -/
inductive RequestFault where
  | illegalState (misuse : Misuse)
  | unsupportedEncoding (name : String)
  | malformedInput (reason : String)
  | invalidParameters (fault : ParameterFault)
  | io (fault : IoFault)
  | body (detail : String)
  | deserialize (reason : String)
  deriving DecidableEq, Repr

namespace RequestFault

def message : RequestFault → String
  | .illegalState misuse => "illegal state: " ++ misuse.reason
  | .unsupportedEncoding name => "unsupported encoding: " ++ name
  | .malformedInput reason => "malformed input: " ++ reason
  | .invalidParameters f => "invalid parameters: " ++ f.message
  | .io f => "io error: " ++ f.message
  | .body detail => "body error: " ++ detail
  | .deserialize reason => "deserialize parameters error: " ++ reason

/-- A call out of order and a failure to build the parameters belong to one class. -/
def isIllegalState : RequestFault → Bool
  | .illegalState _ | .invalidParameters _ => true
  | _ => false

def isUnsupportedEncoding : RequestFault → Bool
  | .unsupportedEncoding _ => true
  | _ => false

/-- The wordings of the causes below a fault, the nearest one first. -/
def causes : RequestFault → List String
  | .invalidParameters (.io f) => [(ParameterFault.io f).message, f.message]
  | .invalidParameters f => [f.message]
  | .io f => [f.message]
  | .body detail => [detail]
  | _ => []

/-- The input or output fault at the root, if there is one. -/
def ioFault? : RequestFault → Option IoFault
  | .io f | .invalidParameters (.io f) => some f
  | _ => none

/-- A fault of the transport, as a read reports it. -/
def ofTransport : TransportFault → RequestFault
  | .io f => .io f
  | .other detail => .body detail

/-- A fault met while draining the body for parameters. -/
def whileDraining : RequestFault → RequestFault
  | .io f => .invalidParameters (.io f)
  | .body detail => .invalidParameters (.io { kind := .other, detail := some detail })
  | f => f

end RequestFault

end WebRequest
