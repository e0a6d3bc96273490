-- The head of a request: method, target, version and header fields, and what is derived
-- from them.
import WebRequest.Head.Fields
import WebRequest.Head.MediaType
import WebRequest.Head.Uri
import WebRequest.Text.Blank

namespace WebRequest

inductive HttpVersion where
  | v09
  | v10
  | v11
  | v2
  | v3
  deriving DecidableEq, Repr

def HttpVersion.text : HttpVersion → String
  | .v09 => "HTTP/0.9"
  | .v10 => "HTTP/1.0"
  | .v11 => "HTTP/1.1"
  | .v2 => "HTTP/2.0"
  | .v3 => "HTTP/3.0"

structure RequestHead where
  method : String
  uri : Uri
  version : HttpVersion
  fields : HeaderFields
  deriving DecidableEq, Repr

namespace RequestHead

/-- The head of the given parts, if all of them are well-formed. -/
def of? (method : String) (uri : Bytes) (version : HttpVersion)
    (fields : List (String × Bytes)) : Option RequestHead :=
  if isToken method then do
    let uri ← Uri.ofBytes? uri
    let fields ← HeaderFields.of? fields
    some { method, uri, version, fields }
  else none

/-- The media type of the body, if it is well-formed. -/
def contentType (h : RequestHead) : Option MediaType :=
  (h.fields.text? "content-type").bind MediaType.ofText?

/-- The charset that one parameter declares: the text behind the first equals sign, without the
blanks and then the quotes around it. -/
def charsetOf? (parameter : List Char) : Option (List Char) :=
  match Text.splitFirst (· = '=') parameter with
  | none => none
  | some (name, value) =>
    if Text.sameWord (String.ofList (Text.strip Text.isBlank name)) "charset" then
      let value := Text.strip (· = '"') (Text.strip Text.isBlank value)
      if value.isEmpty then none else some value
    else none

/-- The charset that a media type declares, as it was sent. Every semicolon parts, also one in
quotes. -/
def declaredIn? (contentType : List Char) : Option (List Char) :=
  ((contentType.splitOnP (· = ';')).drop 1).findSome? charsetOf?

def declaredCharset (h : RequestHead) : Option String :=
  (h.fields.text? "content-type").bind fun s => (declaredIn? s.toList).map String.ofList

/-- The announced length of the body; `none` if it is not known. -/
def contentLength (h : RequestHead) : Option Nat :=
  if (h.fields.values "transfer-encoding").isEmpty then
    (h.fields.text? "content-length").bind fun s =>
      (Numeral.readNat Numeral.max64 (Text.strip Text.isBlank s.toList)).toOption
  else none

/-- A length, if it fits into 31 bits. -/
def length31? (length : Option Nat) : Option Nat := length.filter (· < 0x80000000)

/-- The authority that the client asked for: that of the target, or else that of the host
field. -/
def authority (h : RequestHead) : Option Authority :=
  h.uri.authority.or
    ((h.fields.text? "host").bind fun s => Authority.ofChars? (Text.strip Text.isBlank s.toList))

end RequestHead

end WebRequest
