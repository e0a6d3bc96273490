-- Addresses of the two ends of a connection, in their usual notation. A long address
-- leaves out its longest row of zero groups, the first one of several, if the row has
-- more than one group; one that maps a short address shows it in dotted form.
import WebRequest.Numeral.Integer

namespace WebRequest

/-- An internet address: four bytes, or eight groups of sixteen bits. -/
inductive InternetAddress where
  | short (bytes : List Nat)
  | long (groups : List Nat)
  deriving DecidableEq, Repr

/-- An internet address with a port; a long one may name the zone that it is valid in. -/
structure SocketAddress where
  host : InternetAddress
  zone : Nat := 0
  port : Nat
  deriving DecidableEq, Repr

/-! ## Writing -/

namespace InternetAddress

/-- Four bytes with points between them. -/
def dotted (bytes : List Nat) : String := ".".intercalate (bytes.map toString)

/-- Groups in hexadecimal digits with colons between them. -/
def colons (groups : List Nat) : String :=
  ":".intercalate (groups.map fun g => String.ofList (Nat.toDigits 16 g))

/-- How many zeros lead a list. -/
def leadingZeros (groups : List Nat) : Nat := (groups.takeWhile (· = 0)).length

/-- Where the first of the longest rows of zeros starts, and its length. -/
def longestZeros (groups : List Nat) : Nat × Nat :=
  ((List.range groups.length).map fun i => (i, leadingZeros (groups.drop i))).foldl
    (fun best row => if best.2 < row.2 then row else best) (0, 0)

/-- The notation of an address. -/
def text : InternetAddress → String
  | .short bytes => dotted bytes
  | .long groups =>
    match groups with
    | [0, 0, 0, 0, 0, 0xFFFF, a, b] =>
      "::ffff:" ++ dotted [a / 256, a % 256, b / 256, b % 256]
    | _ =>
      let (start, length) := longestZeros groups
      if 1 < length then
        colons (groups.take start) ++ "::" ++ colons (groups.drop (start + length))
      else colons groups

end InternetAddress

def SocketAddress.text (a : SocketAddress) : String :=
  match a.host with
  | .short _ => a.host.text ++ ":" ++ toString a.port
  | .long _ =>
    "[" ++ a.host.text ++ (if a.zone = 0 then "" else "%" ++ toString a.zone) ++ "]:" ++
      toString a.port

/-! ## Reading -/

namespace InternetAddress

/-- A number in decimal digits only, up to `max`. -/
def readNumber? (max : Nat) (cs : List Char) : Option Nat :=
  if cs.all Char.isDigit then (Numeral.readNat max cs).toOption else none

/-- A byte in up to three digits, without a zero in front. -/
def readByte? (cs : List Char) : Option Nat :=
  if 3 < cs.length || (1 < cs.length && cs.head? == some '0') then none
  else readNumber? 255 cs

/-- The four bytes of the dotted notation. -/
def readDotted? (cs : List Char) : Option (List Nat) :=
  match cs.splitOnP (· = '.') with
  | [a, b, c, d] => [a, b, c, d].mapM readByte?
  | _ => none

/-- A group of one to four hexadecimal digits. -/
def readGroup? (cs : List Char) : Option Nat :=
  if cs.isEmpty || 4 < cs.length then none
  else cs.foldlM (fun n c => (Text.hexDigitValue c).map (n * 16 + ·)) 0

/-- Groups with colons between them. The last piece may be a dotted address, which makes two
groups, if `mixed`. -/
def readGroups? (mixed : Bool) (cs : List Char) : Option (List Nat) :=
  if cs.isEmpty then some []
  else
    let pieces := cs.splitOnP (· = ':')
    match mixed, pieces.getLast?.bind readDotted? with
    | true, some [a, b, c, d] =>
      (pieces.dropLast.mapM readGroup?).map (· ++ [a * 256 + b, c * 256 + d])
    | _, _ => pieces.mapM readGroup?

/-- The two halves of a text around its first pair of colons. -/
def splitGap? : List Char → Option (List Char × List Char)
  | ':' :: ':' :: rest => some ([], rest)
  | c :: rest => (splitGap? rest).map fun (before, after) => (c :: before, after)
  | [] => none

/-- Eight groups; a pair of colons stands for one or more groups of zeros. -/
def readLong? (cs : List Char) : Option (List Nat) :=
  match splitGap? cs with
  | none => (readGroups? true cs).filter (·.length = 8)
  | some (before, after) => do
    let head ← readGroups? false before
    let tail ← readGroups? true after
    if head.length + tail.length ≤ 7 then
      some (head ++ List.replicate (8 - head.length - tail.length) 0 ++ tail)
    else none

end InternetAddress

/-- An address of four bytes and a port. -/
def SocketAddress.readShort? (cs : List Char) : Option SocketAddress := do
  let (host, port) ← Text.splitFirst (· = ':') cs
  let bytes ← InternetAddress.readDotted? host
  let port ← InternetAddress.readNumber? Numeral.max16 port
  some { host := .short bytes, port }

/-- An address of eight groups in brackets, perhaps with a zone, and a port. -/
def SocketAddress.readLong? (cs : List Char) : Option SocketAddress := do
  let (inside, outside) ← Text.splitFirst (· = ']') cs
  let port ← match outside with
    | ':' :: port => InternetAddress.readNumber? Numeral.max16 port
    | _ => none
  let (host, zone) ← match Text.splitFirst (· = '%') inside with
    | none => some (inside, 0)
    | some (host, zone) => (InternetAddress.readNumber? Numeral.max32 zone).map (host, ·)
  let groups ← InternetAddress.readLong? host
  some { host := .long groups, zone, port }

def SocketAddress.ofText? (s : String) : Option SocketAddress :=
  match s.toList with
  | '[' :: rest => readLong? rest
  | cs => readShort? cs

example : (SocketAddress.ofText? "[1:0:0:2:0:0:0:3%7]:80").map SocketAddress.text =
    some "[1:0:0:2::3%7]:80" := by cbv

end WebRequest
