-- Url-encoded forms: pairs of names and values between ampersands. In a name or a value
-- a plus sign stands for a space, and a percent sign with two hexadecimal digits for the
-- byte they write. A segment that cannot be decoded is reported in its place.
import WebRequest.Charset.Decoder
import WebRequest.Fault

namespace WebRequest.Parameters.Form

/-- The value of a hexadecimal digit, given as a byte. -/
def hexValue (b : UInt8) : Option UInt8 := (Text.hexDigitValue (Bytes.charOf b)).map Nat.toUInt8

/-- Decodes bytes behind others: `offset` is how many there were, `done` is what they stand for,
in reverse. The fault is the offset of a percent sign without its digits. -/
def decodeFrom (offset : Nat) (done : Bytes) : Bytes → Except Nat Bytes
  | [] => .ok done.reverse
  | b :: rest =>
    if b = Bytes.byteOf '+' then decodeFrom (offset + 1) (Bytes.byteOf ' ' :: done) rest
    else if b = Bytes.byteOf '%' then
      match rest with
      | high :: low :: rest =>
        match hexValue high, hexValue low with
        | some h, some l => decodeFrom (offset + 3) ((h * 16 + l) :: done) rest
        | _, _ => .error offset
      | _ => .error offset
    else decodeFrom (offset + 1) (b :: done) rest

/-- The bytes that an escaped text stands for. -/
def percentDecode (bytes : Bytes) : Except Nat Bytes := decodeFrom 0 [] bytes

/-- Where the pairs come from, as faults call it. -/
inductive Source where
  | query
  | body
  deriving DecidableEq, Repr

def Source.name : Source → String
  | .query => "query string"
  | .body => "request body"

/-- A form to be decoded. -/
structure Reading where
  charset : Charset
  source : Source
  deriving DecidableEq, Repr

/-- The result of decoding one pair. -/
abbrev PairResult := Except ParameterFault (String × String)

def decodeText (r : Reading) (bytes : Bytes) : Except ParameterFault String :=
  match percentDecode bytes with
  | .error offset =>
    .error (.malformedEncoding r.source.name ("invalid escape at offset " ++ toString offset))
  | .ok bytes =>
    match r.charset.decode bytes with
    | some text => .ok text
    | none => .error (.undecodableBytes r.charset.name)

/-- The name and the value of a segment: around its first equals sign, or all name. -/
def splitSegment (segment : Bytes) : Bytes × Bytes :=
  (Text.splitFirst (· = Bytes.byteOf '=') segment).getD (segment, [])

/-- The pair of a segment. Of two faults, that of the name is reported. -/
def pairOf (r : Reading) (segment : Bytes) : PairResult :=
  let (name, value) := splitSegment segment
  match decodeText r name with
  | .error f => .error f
  | .ok name => (decodeText r value).map (name, ·)

/-- The segments between the ampersands that are not empty. -/
def segments (bytes : Bytes) : List Bytes :=
  (bytes.splitOnP (· = Bytes.byteOf '&')).filter fun s => !s.isEmpty

/-- The results of the segments, in order. -/
def pairs (r : Reading) (bytes : Bytes) : List PairResult := (segments bytes).map (pairOf r)

example : (pairs ⟨.utf8, .query⟩ (Bytes.ofText "a+b=1%3D&&=&c")).map Except.toOption =
    [some ("a b", "1="), some ("", ""), some ("c", "")] := by cbv

end WebRequest.Parameters.Form
