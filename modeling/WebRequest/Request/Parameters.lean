-- The parameters of a request. They are built when they are first asked for; every
-- question about them is answered from the same table.
import WebRequest.Parameters.Record
import WebRequest.Request.Basic

namespace WebRequest.Request

open Parameters

/-- What the parameters of the request are built from. -/
def parserInput (r : Request) : Input :=
  { query := r.head.uri.query, kind := .of r.head.contentType, settings := r.settings,
    endpoint := r.endpoint }

/-- The request with what its parser works on changed. -/
def withWorkplace (r : Request) (w : Workplace) : Request :=
  { r with parser := w.parser, body := w.access, encoding := w.encoding }

/-- Sees to it that the parameters have been built. -/
def ensureParsed (patience : Patience) (r : Request) : Waiting Request Unit :=
  (Workplace.ensureParsed r.parserInput patience
    { parser := r.parser, access := r.body, encoding := r.encoding }).within r.withWorkplace

/-- Asks the parser a question once the parameters have been built. -/
def askParser {α : Type} (question : Parser → Except RequestFault α) (patience : Patience)
    (r : Request) : Waiting Request α :=
  let o := r.ensureParsed patience
  match o.answer with
  | .abandoned => { o with answer := .abandoned }
  | .ready (.error f) => { o with answer := .ready (.error f) }
  | .ready (.ok ()) => { o with answer := .ready (question o.state.parser) }

def parameterTable : Patience → Request → Waiting Request Table :=
  askParser fun p => .ok p.table

/-- The first value of a parameter. -/
def parameter (name : String) : Patience → Request → Waiting Request (Option String) :=
  askParser fun p => .ok (p.table.get? name)

def parameterValues (name : String) :
    Patience → Request → Waiting Request (Option (List String)) :=
  askParser fun p => .ok (p.table.getAll? name)

def parameterNames : Patience → Request → Waiting Request (List String) :=
  askParser fun p => .ok p.table.names

def parametersAs (shape : Shape) : Patience → Request → Waiting Request Shaped :=
  askParser fun p => (p.table.readAs shape).mapError fun f => .deserialize f.message

def files : Patience → Request → Waiting Request (List FilePart) :=
  askParser fun p => .ok p.files

end WebRequest.Request
