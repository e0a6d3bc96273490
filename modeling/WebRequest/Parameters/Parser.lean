-- Building the parameters of a request, once. The query comes first; the body follows if
-- it is a form that nobody has opened. A fault ends the building, and what was stored up
-- to it stays. A building that is given up midway is never taken up again.
import WebRequest.Body.Access
import WebRequest.Endpoint
import WebRequest.Head.MediaType
import WebRequest.Parameters.Form
import WebRequest.Parameters.Table
import WebRequest.Settings

namespace WebRequest.Parameters

/-- What the media type says about the parameters of a body. -/
inductive BodyKind where
  | urlEncoded
  | multipart (boundary : Option String)
  | other
  deriving DecidableEq, Repr

/-- The kind of a body. The suffix of the subtype does not count. -/
def BodyKind.of : Option MediaType → BodyKind
  | none => .other
  | some m =>
    if m.type == "application" && m.subtype == "x-www-form-urlencoded" then .urlEncoded
    else if m.type == "multipart" && m.subtype == "form-data" then
      .multipart (m.parameter? "boundary")
    else .other

/-! ## Storing -/

/-- How pairs are stored. -/
structure Rules where
  maxCount : Nat
  policy : FailurePolicy
  deriving DecidableEq, Repr

/-- Stores the result of one pair. A pair without a name is passed over, and does not count; a
fault that can be recovered from is passed over if the policy says so. -/
def store (rules : Rules) (t : Table) : Form.PairResult → Outcome Table (Except ParameterFault Unit)
  | .ok (name, value) =>
    if name.isEmpty then
      { answer := .ok (), state := t,
        effects := [.log .debug "skipping parameter with empty name"] }
    else if rules.maxCount ≤ t.valueCount then
      { answer := .error (.tooManyParameters rules.maxCount), state := t }
    else { answer := .ok (), state := t.append name value }
  | .error f =>
    if rules.policy = .skip ∧ f.isRecoverable then
      { answer := .ok (), state := t,
        effects := [.log .warn "skipping undecodable parameter" [("cause", f.message)]] }
    else { answer := .error f, state := t }

/-- Stores results up to the first fault, behind the effects `done`, which stand in reverse. -/
def storeFrom (rules : Rules) (t : Table) (done : List Effect) :
    List Form.PairResult → Outcome Table (Except ParameterFault Unit)
  | [] => { answer := .ok (), state := t, effects := done.reverse }
  | p :: ps =>
    let o := store rules t p
    let done := o.effects.reverse ++ done
    match o.answer with
    | .error f => { answer := .error f, state := o.state, effects := done.reverse }
    | .ok () => storeFrom rules o.state done ps

/-- Stores results up to the first fault. -/
def storeAll (rules : Rules) (t : Table) (pairs : List Form.PairResult) :
    Attempt Table Unit :=
  (storeFrom rules t [] pairs).map (·.mapError .invalidParameters)

/-- What the parameters are built from. -/
structure Input where
  query : Option String
  kind : BodyKind
  settings : Settings
  endpoint : Endpoint

/-- How the pairs of the request are stored. -/
def Input.rules (i : Input) : Rules :=
  { maxCount := i.settings.maxParameterCount, policy := i.settings.failurePolicy }

/-- What building changes. -/
structure Building where
  table : Table := {}
  files : List FilePart := []
  access : Body.Access
  encoding : BodyEncoding

/-! ## Sources of parameters -/

/-- An operation on what is being built. -/
abbrev Stage := Building → Waiting Building Unit

/-- A stage that follows another if that one succeeds. -/
def Stage.andThen (first second : Stage) : Stage := fun b =>
  let o := first b
  match o.answer with
  | .ready (.ok ()) => (second o.state).after o.effects
  | _ => o

/-- A stage that fails and changes nothing. -/
def Stage.fail (f : RequestFault) : Stage := fun b => { answer := .ready (.error f), state := b }

def Stage.skip : Stage := fun b => { answer := .ready (.ok ()), state := b }

/-- A stage that only writes to the log. -/
def Stage.note (message : String) (fields : List (String × String) := []) : Stage := fun b =>
  { answer := .ready (.ok ()), state := b, effects := [.log .debug message fields] }

def storing (rules : Rules) (pairs : List Form.PairResult) : Stage := fun b =>
  let o := storeAll rules b.table pairs
  { answer := .ready o.answer, state := { b with table := o.state }, effects := o.effects }

/-- Reads the body and goes on with its bytes. -/
def draining (limit : Option Nat) (patience : Patience) (next : Bytes → Stage) : Stage := fun b =>
  let o := b.access.consume limit patience
  let drained := { b with access := o.state }
  match o.answer with
  | .abandoned => { answer := .abandoned, state := drained, effects := o.effects }
  | .ready (.error f) =>
    { answer := .ready (.error f.whileDraining), state := drained, effects := o.effects }
  | .ready (.ok bytes) => (next bytes drained).after o.effects

/-- Resolves the charset of the body and goes on with it. -/
def decoding (next : Charset → Stage) : Stage := fun b =>
  match b.encoding.resolve with
  | .error f => Stage.fail f b
  | .ok charset => next charset b

/-- Stores the fields of accepted parts and keeps the files, unless storing fails. -/
def storingParts (rules : Rules) (parts : List Part) : Stage :=
  (storing rules ((fieldsOf parts).map .ok)).andThen fun b =>
    { answer := .ready (.ok ()), state := { b with files := b.files ++ filesOf parts } }

/-- Splits a multipart body and takes its parts, if they keep within the limits. -/
def splitting (rules : Rules) (m : MultipartSupport) (boundary : String) (charset : Charset)
    (bytes : Bytes) : Stage := fun b =>
  let split := [Effect.split boundary bytes charset]
  let next : Stage :=
    match m.splitter boundary bytes charset with
    | .error f => .fail (.invalidParameters f)
    | .ok parts =>
      match m.limits.fault? parts with
      | some f => .fail (.invalidParameters f)
      | none => storingParts rules parts
  (next b).after split

/-- The parameters of the query. -/
def fromQuery (i : Input) : Stage :=
  match i.query with
  | none => .skip
  | some query => storing i.rules (Form.pairs ⟨.utf8, .query⟩ (Bytes.ofText query))

/-- The parameters of a url-encoded body. -/
def fromForm (i : Input) (patience : Patience) : Stage :=
  decoding fun charset =>
    draining (some i.settings.maxPostSize) patience fun bytes =>
      storing i.rules (Form.pairs ⟨charset, .body⟩ bytes)

/-- The parameters and files of a multipart body. -/
def fromMultipart (i : Input) (patience : Patience) (boundary : Option String) : Stage :=
  match i.endpoint.multipart, boundary with
  | none, _ => .note "multipart is not configured for this endpoint, body left unread"
  | some _, none => .fail (.invalidParameters .missingBoundary)
  | some m, some boundary =>
    decoding fun charset =>
      draining m.limits.maxRequestSize patience fun bytes =>
        splitting i.rules m boundary charset bytes

/-- The parameters of the body, if it is a form that nobody has opened. -/
def fromBody (i : Input) (patience : Patience) : Stage := fun b =>
  match i.kind with
  | .other => Stage.skip b
  | kind =>
    match b.access.mode with
    | .unopened =>
      match kind with
      | .multipart boundary => fromMultipart i patience boundary b
      | _ => fromForm i patience b
    | mode =>
      Stage.note "body already opened by the handler, skipping body parameters"
        [("mode", mode.name)] b

/-- The parameters of query and body. -/
def building (i : Input) (patience : Patience) : Stage :=
  (fromQuery i).andThen (fromBody i patience)

/-! ## The parser -/

/-- How far the building has come. -/
inductive Progress where
  | notStarted
  | inProgress
  | done
  deriving DecidableEq, Repr

def Progress.name : Progress → String
  | .notStarted => "NotStarted"
  | .inProgress => "InProgress"
  | .done => "Done"

/-- The parameters and files of a request, and how far their building has come. -/
structure Parser where
  progress : Progress := .notStarted
  table : Table := {}
  files : List FilePart := []

def Parser.describe (p : Parser) : String :=
  "ParameterParser \x7b state: " ++ p.progress.name ++ ", parameters: " ++
    toString p.table.size ++ " \x7d"

/-- What a parser works on. -/
structure Workplace where
  parser : Parser := {}
  access : Body.Access
  encoding : BodyEncoding

namespace Workplace

/-- Builds the parameters for the first time. -/
def build (i : Input) (patience : Patience) (w : Workplace) : Waiting Workplace Unit :=
  let o := building i patience { access := w.access, encoding := w.encoding.freeze }
  let b := o.state
  match o.answer with
  | .abandoned =>
    { answer := .abandoned,
      state := { parser := { w.parser with progress := .inProgress }, access := b.access,
                 encoding := b.encoding },
      effects := o.effects }
  | .ready result =>
    { answer := .ready result,
      state := { parser := { progress := .done, table := b.table, files := b.files },
                 access := b.access, encoding := b.encoding },
      effects := o.effects ++ [.log .debug "parameters parsed"
        [("names", toString b.table.size), ("values", toString b.table.valueCount),
         ("ok", toString result.toBool)]] }

/-- Sees to it that the parameters have been built. -/
def ensureParsed (i : Input) (patience : Patience) (w : Workplace) : Waiting Workplace Unit :=
  match w.parser.progress with
  | .done => { answer := .ready (.ok ()), state := w }
  | .inProgress => { answer := .ready (.error (.illegalState .parsingInterrupted)), state := w }
  | .notStarted => build i patience w

end Workplace

end WebRequest.Parameters
