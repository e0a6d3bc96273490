-- How a body has been opened. It is read as a stream or as text, never both; what has
-- been read for the parameters is gone, and the body may still be opened to find that
-- out. The first access fixes the charset.
import WebRequest.Body.TextReader
import WebRequest.BodyEncoding

namespace WebRequest.Body

/-- How a body is accessed. -/
inductive Mode where
  | unopened
  /-- It has been read for the parameters. -/
  | consumed
  | asStream
  | asReader (reader : TextReader)
  deriving DecidableEq, Repr

def Mode.name : Mode → String
  | .unopened => "Unopened"
  | .consumed => "Consumed"
  | .asStream => "AsStream"
  | .asReader _ => "AsReader"

/-- A body and how it is accessed. -/
structure Access where
  mode : Mode := .unopened
  cursor : Cursor
  deriving DecidableEq, Repr

namespace Access

def untouched (t : Transport) : Access := { cursor := .start t }

/-- A body together with its encoding, which the first access freezes. -/
abbrev Opening := Access × BodyEncoding

/-- Opens the body as a stream; once opened, it can be had again. -/
def openAsStream (a : Access) (e : BodyEncoding) : Attempt Opening Unit :=
  match a.mode with
  | .asReader _ => .refuse (a, e) .openedAsReader
  | .asStream => .succeed (a, e) ()
  | mode =>
    { answer := .ok (), state := ({ a with mode := .asStream }, e.freeze),
      effects := [.log .debug "request body opened as stream" [("from", mode.name)]] }

/-- Opens the body as text in the charset in force; once opened, it can be had again. -/
def openAsReader (a : Access) (e : BodyEncoding) : Attempt Opening Unit :=
  match a.mode with
  | .asStream => .refuse (a, e) .openedAsStream
  | .asReader _ => .succeed (a, e) ()
  | mode =>
    match e.resolve with
    | .error f => .fail (a, e) f
    | .ok charset =>
      { answer := .ok (), state := ({ a with mode := .asReader (.start charset) }, e.freeze),
        effects := [.log .debug "request body opened as reader"
          [("from", mode.name), ("charset", charset.name)]] }

/-- Reads the whole body for the parameters. It must not have been opened. -/
def consume (limit : Option Nat) (patience : Patience) (a : Access) : Waiting Access Bytes :=
  match a.mode with
  | .unopened =>
    (a.cursor.readToEnd limit patience).within fun cursor => { mode := .consumed, cursor }
  | _ => { answer := .ready (.error (.illegalState .alreadyOpened)), state := a }

def throughStream {α : Type} (a : Access) (read : Cursor → Waiting Cursor α) : Waiting Access α :=
  (read a.cursor).within fun cursor => { a with cursor }

/-- Reads the body through its reader; `none` if it has none. -/
def throughReader? {α : Type} (a : Access)
    (read : TextReader → Cursor → Waiting (TextReader × Cursor) α) : Option (Waiting Access α) :=
  match a.mode with
  | .asReader reader =>
    some <| (read reader a.cursor).within fun (reader, cursor) =>
      { mode := .asReader reader, cursor }
  | _ => none

def describe (a : Access) : String :=
  "BodyAccessGuard \x7b mode: " ++ a.mode.name ++ ", .. \x7d"

def describeStream : String := "InputStream \x7b .. \x7d"

def reader? (a : Access) : Option TextReader :=
  match a.mode with
  | .asReader reader => some reader
  | _ => none

end Access

end WebRequest.Body
