-- The body of a request, as its handler opens and reads it, and the charset it is read
-- in.
import WebRequest.Request.Basic

namespace WebRequest.Request

/-- Overrides the charset by name. -/
def setCharacterEncoding (r : Request) (name : String) : Attempt Request Unit :=
  (r.encoding.setName name).within fun encoding => { r with encoding }

def setCharset (r : Request) (charset : Charset) : Attempt Request Unit :=
  (r.encoding.setCharset charset).within fun encoding => { r with encoding }

/-- The request with its body and encoding changed. -/
def withOpening (r : Request) (o : Body.Access.Opening) : Request :=
  { r with body := o.1, encoding := o.2 }

def openStream (r : Request) : Attempt Request Unit :=
  (r.body.openAsStream r.encoding).within r.withOpening

def openReader (r : Request) : Attempt Request Unit :=
  (r.body.openAsReader r.encoding).within r.withOpening

/-- Reads the body through a stream. -/
def throughStream {α : Type} (read : Body.Cursor → Waiting Body.Cursor α) (r : Request) :
    Waiting Request α :=
  (r.body.throughStream read).within fun body => { r with body }

def readChunk (patience : Patience) : Request → Waiting Request (Option Bytes) :=
  throughStream (Body.Cursor.nextChunk patience)

def readToEnd (patience : Patience) : Request → Waiting Request Bytes :=
  throughStream (Body.Cursor.readToEnd none patience)

/-- Reads the body through its reader. Without one there is nothing to read. -/
def throughReader {α : Type} (nothing : α)
    (read : Body.TextReader → Body.Cursor → Waiting (Body.TextReader × Body.Cursor) α)
    (r : Request) : Waiting Request α :=
  match r.body.throughReader? read with
  | some o => o.within fun body => { r with body }
  | none => { answer := .ready (.ok nothing), state := r }

def readText (patience : Patience) : Request → Waiting Request (Option String) :=
  throughReader none (Body.TextReader.readChunk patience)

def readLine (patience : Patience) : Request → Waiting Request (Option String) :=
  throughReader none (Body.TextReader.readLine patience)

def readRest (patience : Patience) : Request → Waiting Request String :=
  throughReader "" (Body.TextReader.readRest patience)

end WebRequest.Request
