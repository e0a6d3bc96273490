-- What a handler can do with a request, in any order. The handles on the body are counted as
-- they are given out: whoever holds one of them can read, and nobody else.
import WebRequest.Proofs.Runs
import WebRequest.Proofs.Suspension.Run
import WebRequest.Request.Body
import WebRequest.Request.Parameters

namespace WebRequest.Handling

open Body Parameters

/-! ## Operations -/

/-- Another charset for the body. -/
inductive Override where
  | named (name : String)
  | chosen (charset : Charset)

/-- What a handler asks the parameters for. -/
inductive Question where
  | nothing
  | first (name : String)
  | all (name : String)
  | names
  | table
  | record (shape : Shape)
  | files

/-- What the parameters say. -/
inductive Reply where
  | nothing
  | first (value : Option String)
  | all (values : Option (List String))
  | names (names : List String)
  | table (table : Table)
  | record (value : Shaped)
  | files (files : List FilePart)

inductive StreamCall where
  | chunk
  | rest

/-- What a stream tells without reading. -/
inductive StreamFact where
  | isFinished
  | bytesRead

inductive TextCall where
  | chunk
  | line
  | rest

inductive AttributeChange where
  | set (name : String) (value : Option Value)
  | insert (name : String) (value : Value)
  | take (name : String)
  | recycle

inductive Operation where
  | override (choice : Override)
  | openStream
  | openReader
  | access (question : Question) (patience : Patience)
  | readStream (handle : Nat) (call : StreamCall) (patience : Patience)
  | askStream (handle : Nat) (fact : StreamFact)
  | readText (handle : Nat) (call : TextCall) (patience : Patience)
  | attributes (change : AttributeChange)
  | suspension (event : Suspension.Event)

inductive Answer where
  | done
  | handle (number : Nat)
  | parameters (answer : Awaited (Except RequestFault Reply))
  | bytes (answer : Awaited (Except RequestFault (Option Bytes)))
  | text (answer : Awaited (Except RequestFault (Option String)))
  | flag (value : Bool)
  | count (value : Nat)
  | value (value : Option Value)
  | suspension (answer : Suspension.Answer)
  | failed (fault : RequestFault)
  /-- There is no such handle. -/
  | absent

def Answer.ofExcept {α : Type} (success : α → Answer) : Except RequestFault α → Answer
  | .ok a => success a
  | .error fault => .failed fault

/-! ## A request in use -/

/-- A request in the hands of its handler. -/
structure InUse where
  request : Request
  /-- How many handles on the stream have been given out. -/
  streams : Nat := 0
  /-- How many handles on the reader have been given out. -/
  readers : Nat := 0

namespace InUse

/-- A request as it is received. -/
def received (a : Request.Arrival) (s : Settings) (id : Nat) : InUse :=
  { request := Request.receive a s id }

def withRequest (u : InUse) (request : Request) : InUse := { u with request }

def body (u : InUse) : Access := u.request.body

def encoding (u : InUse) : BodyEncoding := u.request.encoding

def parser (u : InUse) : Parser := u.request.parser

def withBody (u : InUse) (body : Access) : InUse := u.withRequest { u.request with body }

end InUse

/-- The same answer in other words. -/
def reword {α β : Type} (f : α → β) (a : Awaited (Except RequestFault α)) :
    Awaited (Except RequestFault β) := a.map (Except.map f)

def Override.on (r : Request) : Override → Attempt Request Unit
  | .named name => r.setCharacterEncoding name
  | .chosen charset => r.setCharset charset

/-- Puts a question to the parameters of a request. -/
def Question.put (patience : Patience) (r : Request) : Question → Waiting Request Reply
  | .nothing => (r.ensureParsed patience).map (reword fun () => .nothing)
  | .first name => (r.parameter name patience).map (reword .first)
  | .all name => (r.parameterValues name patience).map (reword .all)
  | .names => (r.parameterNames patience).map (reword .names)
  | .table => (r.parameterTable patience).map (reword .table)
  | .record shape => (r.parametersAs shape patience).map (reword .record)
  | .files => (r.files patience).map (reword .files)

def StreamCall.read (patience : Patience) (c : Cursor) : StreamCall → Waiting Cursor (Option Bytes)
  | .chunk => c.nextChunk patience
  | .rest => (c.readToEnd none patience).map (reword some)

def StreamFact.of (c : Cursor) : StreamFact → Answer
  | .isFinished => .flag c.isFinished
  | .bytesRead => .count c.read

def TextCall.read (patience : Patience) (r : TextReader) (c : Cursor) :
    TextCall → Waiting (TextReader × Cursor) (Option String)
  | .chunk => r.readChunk patience c
  | .line => r.readLine patience c
  | .rest => (r.readRest patience c).map (reword some)

/-- Reads the body of a request through its stream. -/
def StreamCall.on (patience : Patience) (r : Request) : StreamCall → Waiting Request (Option Bytes)
  | .chunk => r.readChunk patience
  | .rest => (r.readToEnd patience).map (reword some)

/-- Reads the body of a request through its reader. -/
def TextCall.on (patience : Patience) (r : Request) : TextCall → Waiting Request (Option String)
  | .chunk => r.readText patience
  | .line => r.readLine patience
  | .rest => (r.readRest patience).map (reword some)

def AttributeChange.on (r : Request) : AttributeChange → Outcome Request Answer
  | .set name value => (r.setAttribute name value).map fun () => .done
  | .insert name value => (r.insertAttribute name value).map .count
  | .take name => (r.takeAttribute name).map .value
  | .recycle => r.recycle.map fun () => .done

/-- Gives out one more handle if the attempt to open the body succeeds. -/
def giveOut (u : InUse) (o : Attempt Request Unit) (number : Nat) (more : InUse → InUse) :
    Outcome InUse Answer :=
  { answer := .ofExcept (fun () => .handle number) o.answer,
    state := (if o.answer.toBool then more u else u).withRequest o.state,
    effects := o.effects }

/-- Does something through a handle, if it has been given out. -/
def through (u : InUse) (given : Nat) (handle : Nat) (o : Outcome Request Answer) :
    Outcome InUse Answer :=
  if handle < given then o.within u.withRequest else { answer := .absent, state := u }

def perform (u : InUse) : Operation → Outcome InUse Answer
  | .override choice => ((choice.on u.request).map (.ofExcept fun () => .done)).within u.withRequest
  | .openStream =>
    giveOut u u.request.openStream u.streams fun u => { u with streams := u.streams + 1 }
  | .openReader =>
    giveOut u u.request.openReader u.readers fun u => { u with readers := u.readers + 1 }
  | .access question patience =>
    ((question.put patience u.request).map .parameters).within u.withRequest
  | .readStream handle call patience =>
    through u u.streams handle ((call.on patience u.request).map .bytes)
  | .askStream handle fact =>
    through u u.streams handle { answer := fact.of u.body.cursor, state := u.request }
  | .readText handle call patience =>
    through u u.readers handle ((call.on patience u.request).map .text)
  | .attributes change => (change.on u.request).within u.withRequest
  | .suspension event =>
    ((Suspension.perform u.request event).map .suspension).within u.withRequest

/-- A moment in the use of a request. -/
abbrev Moment := Runs.Moment perform

/-- The request in use after some operations. -/
abbrev after (u : InUse) (ops : List Operation) : InUse := Runs.after perform u ops

/-- The moments of a use, in order. -/
abbrev history (u : InUse) (ops : List Operation) : List Moment := Runs.history perform u ops

end WebRequest.Handling
