-- The charset of a body. Four sources can name it: an override by the handler, the
-- media type of the request, and the defaults of the context and of the container, in
-- this order. From the first access to the body on, overrides change nothing.
import WebRequest.Effect
import WebRequest.Text.Blank

namespace WebRequest

/-- The charset of a label, or the fault that names the label. -/
def Charset.require (label : String) : Except RequestFault Charset :=
  match Charset.forLabel? label with
  | some c => .ok c
  | none => .error (.unsupportedEncoding label)

/-- The sources of a body's charset. -/
structure BodyEncoding where
  /-- The accepted override: the name as it was given, and the charset. -/
  override : Option (String × Charset) := none
  declared : Option String := none
  context : Option String := none
  container : Option String := none
  /-- The body has been accessed. -/
  frozen : Bool := false
  deriving DecidableEq, Repr

namespace BodyEncoding

/-- The name of the encoding, as its source gives it. -/
def name (e : BodyEncoding) : Option String :=
  (e.override.map (·.1)).or (e.declared.or (e.context.or e.container))

/-- The charset in force: UTF-8 if no source names one. -/
def resolve (e : BodyEncoding) : Except RequestFault Charset :=
  match e.override with
  | some (_, charset) => .ok charset
  | none =>
    match e.name with
    | some label => Charset.require label
    | none => .ok .utf8

/-- The encoding with what the media type declares. -/
def withDeclared (e : BodyEncoding) (declared : Option String) : BodyEncoding := { e with declared }

/-- The encoding after an access to the body. -/
def freeze (e : BodyEncoding) : BodyEncoding := { e with frozen := true }

/-- Overrides the charset, unless the body has been accessed. -/
def apply (e : BodyEncoding) (name : String) (charset : Charset) : Attempt BodyEncoding Unit :=
  let fields := [("encoding", name)]
  if e.frozen then
    { answer := .ok (), state := e, effects :=
      [.log .warn "body access already started, ignoring character encoding override" fields] }
  else
    { answer := .ok (), state := { e with override := some (name, charset) },
      effects := [.log .debug "character encoding overridden" fields] }

/-- Overrides by name; an unknown name is refused, at any time. -/
def setName (e : BodyEncoding) (name : String) : Attempt BodyEncoding Unit :=
  match Charset.require name with
  | .ok charset => e.apply (Text.trim name) charset
  | .error f => .fail e f

def setCharset (e : BodyEncoding) (charset : Charset) : Attempt BodyEncoding Unit :=
  e.apply charset.name charset

@[simp] theorem resolve_freeze (e : BodyEncoding) : e.freeze.resolve = e.resolve := rfl

theorem apply_of_frozen {e : BodyEncoding} (h : e.frozen = true) (name : String)
    (charset : Charset) : (e.apply name charset).state = e := by
  simp [apply, h]

end BodyEncoding

end WebRequest
