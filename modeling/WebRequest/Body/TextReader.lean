-- Reading a body as text: by chunks, by lines, or the rest at once. Text that has been
-- decoded and not yet been handed out is kept. Malformed bytes fail the read that meets
-- them; the text before them is handed out by the reads that follow.
import WebRequest.Body.Cursor
import WebRequest.Charset.Decoder

namespace WebRequest.Body

structure TextReader where
  decoder : Charset.Decoder
  /-- Text that has not been handed out. -/
  pending : List Char := []
  /-- The body has ended, and the decoder with it. -/
  atEnd : Bool := false
  deriving DecidableEq, Repr

namespace TextReader

def start (charset : Charset) : TextReader := { decoder := { charset } }

def charset (r : TextReader) : Charset := r.decoder.charset

def describe (r : TextReader) : String :=
  "BodyReader \x7b charset: " ++ r.charset.describe ++ ", .. \x7d"

/-- What is said of bytes that are malformed. -/
def malformed (r : TextReader) : RequestFault :=
  .malformedInput ("body is not valid " ++ r.charset.name)

/-! ## Filling -/

/-- Keeps what has been decoded. -/
def keep (r : TextReader) (d : Charset.Decoded) : TextReader :=
  { r with decoder := d.decoder, pending := r.pending ++ d.text }

/-- A reader on its way to having enough, and whether what it met was well-formed. -/
structure Filling where
  reader : TextReader
  wellFormed : Bool := true

/-- Decodes one more chunk; the reader stops at malformed bytes, or when it has enough. -/
def Filling.add (enough : List Char → Bool) (f : Filling) (chunk : Bytes) : Filling × Bool :=
  let d := f.reader.decoder.feed chunk
  let reader := f.reader.keep d
  ({ reader, wellFormed := d.wellFormed }, !d.wellFormed || enough reader.pending)

/-- Reads until enough text is pending or the body ends. The answer is whether there is enough
of it. -/
def fill (enough : List Char → Bool) (patience : Patience) (r : TextReader) (c : Cursor) :
    Waiting (TextReader × Cursor) Bool :=
  if enough r.pending then { answer := .ready (.ok true), state := (r, c) }
  else if r.atEnd then { answer := .ready (.ok false), state := (r, c) }
  else
    let taken := c.feed (Filling.add enough) patience { reader := r }
    let reader := taken.state.reader
    match taken.ending with
    | .failed fault =>
      { answer := .ready (.error (.ofTransport fault)), state := (reader, taken.cursor),
        effects := taken.effects }
    | .abandoned =>
      { answer := .abandoned, state := (reader, taken.cursor), effects := taken.effects }
    | .enough =>
      { answer := .ready (if taken.state.wellFormed then .ok true else .error r.malformed),
        state := (reader, taken.cursor), effects := taken.effects }
    | .finished =>
      let d := reader.decoder.finish
      { answer := .ready (if d.wellFormed then .ok false else .error r.malformed),
        state := ({ reader.keep d with atEnd := true }, taken.cursor),
        effects := taken.effects }

/-- All pending text, or `none` if there is none. -/
def handOut (r : TextReader) : Option String × TextReader :=
  if r.pending.isEmpty then (none, r)
  else (some (String.ofList r.pending), { r with pending := [] })

/-- A line without a carriage return at its end. -/
def chomp (line : List Char) : List Char :=
  if line.getLast? = some '\r' then line.dropLast else line

/-- The first line of the pending text, if it is complete. -/
def handOutLine (r : TextReader) : Option String × TextReader :=
  match Text.splitFirst (· = '\n') r.pending with
  | some (line, rest) => (some (String.ofList (chomp line)), { r with pending := rest })
  | none => r.handOut

/-! ## Reading -/

/-- Fills the reader and hands out a piece: one way if there is enough, another way at the end
of the text. -/
def readWith {α : Type} (enough : List Char → Bool) (full last : TextReader → α × TextReader)
    (patience : Patience) (r : TextReader) (c : Cursor) : Waiting (TextReader × Cursor) α :=
  let filled := fill enough patience r c
  match filled.answer with
  | .abandoned => { filled with answer := .abandoned }
  | .ready (.error f) => { filled with answer := .ready (.error f) }
  | .ready (.ok isEnough) =>
    let (piece, reader) := (if isEnough then full else last) filled.state.1
    { answer := .ready (.ok piece), state := (reader, filled.state.2),
      effects := filled.effects }

/-- The next piece of text, or `none` at the end. -/
def readChunk : Patience → TextReader → Cursor →
    Waiting (TextReader × Cursor) (Option String) :=
  readWith (fun pending => !pending.isEmpty) handOut handOut

/-- The next line without its end, or `none` at the end of the text. The last line need not be
ended. -/
def readLine : Patience → TextReader → Cursor →
    Waiting (TextReader × Cursor) (Option String) :=
  readWith (fun pending => pending.contains '\n') handOutLine handOut

def readRest : Patience → TextReader → Cursor → Waiting (TextReader × Cursor) String :=
  let all (r : TextReader) := (String.ofList r.pending, { r with pending := [] })
  readWith (fun _ => false) all all

end TextReader

end WebRequest.Body
