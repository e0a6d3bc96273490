-- Request targets: a path on the server with an optional query, a full address with
-- scheme and authority, an authority alone, or a star. Escapes are neither decoded nor
-- checked, and a fragment is dropped.
import WebRequest.Charset.Decoder
import WebRequest.Head.Authority

namespace WebRequest

/-- A request target. -/
structure Uri where
  scheme : Option String := none
  authority : Option Authority := none
  path : String
  query : Option String := none
  deriving DecidableEq, Repr

namespace Uri

def text (u : Uri) : String :=
  (match u.scheme with
    | some scheme => scheme ++ "://"
    | none => "") ++
  (match u.authority with
    | some authority => authority.text
    | none => "") ++
  u.path ++
  (match u.query with
    | some query => "?" ++ query
    | none => "")

/-! ## Reading

The characters here are those with the codes of the bytes. -/

/-- A byte that may stand in a path. Bytes above those of ASCII have to form UTF-8. -/
def isPathByte (c : Char) : Bool :=
  let n := c.toNat
  n == 0x21 || (0x24 ≤ n && n ≤ 0x3B) || n == 0x3D || (0x40 ≤ n && n ≤ 0x5F) ||
    (0x61 ≤ n && n ≤ 0x7A) || c == '|' || c == '~' || c == '"' || c == '\x7b' || c == '\x7d' ||
    0x80 ≤ n

def isQueryByte (c : Char) : Bool :=
  let n := c.toNat
  n == 0x21 || (0x24 ≤ n && n ≤ 0x3B) || n == 0x3D || (0x3F ≤ n && n ≠ 0x7F)

/-- The text of bytes that satisfy `p` and form UTF-8. -/
def readText? (p : Char → Bool) (cs : List Char) : Option String :=
  if cs.all p then Charset.decode .utf8 (cs.map Bytes.byteOf) else none

/-- The path and the query of what follows scheme and authority. -/
def readReference? (cs : List Char) : Option (String × Option String) :=
  let cs := cs.takeWhile (· ≠ '#')
  let path := cs.takeWhile (· ≠ '?')
  match cs.dropWhile (· ≠ '?') with
  | [] => (readText? isPathByte path).map (·, none)
  | _ :: query => do
    let path ← readText? isPathByte path
    let query ← readText? isQueryByte query
    some (path, some query)

def isSchemeChar (c : Char) : Bool := c.isAlphanum || "+-.~".toList.contains c

/-- The scheme that leads a full address, and what follows `://`. -/
def splitScheme? (cs : List Char) : Option (List Char × List Char) :=
  match cs.dropWhile isSchemeChar with
  | ':' :: '/' :: '/' :: rest => some (cs.takeWhile isSchemeChar, rest)
  | _ => none

/-- A scheme as it is reported: the two of the web are written small. -/
def schemeText (cs : List Char) : String :=
  let s := String.ofList cs
  if Text.sameWord s "http" || Text.sameWord s "https" then Text.lower s else s

/-- The longest target and the longest scheme that are taken. -/
def maxLength : Nat := 65534
def maxSchemeLength : Nat := 64

/-- A full address. An empty path is that of the root. -/
def readFull? (scheme rest : List Char) : Option Uri :=
  if maxSchemeLength < scheme.length then none
  else do
    let authority ← Authority.ofChars? (rest.takeWhile fun c => !Authority.isEnd c)
    let (path, query) ← readReference? (rest.dropWhile fun c => !Authority.isEnd c)
    some { scheme := schemeText scheme, authority, path := if path.isEmpty then "/" else path,
           query }

def ofBytes? (bytes : Bytes) : Option Uri :=
  if maxLength < bytes.length then none
  else
    let cs := Bytes.toChars bytes
    match cs with
    | ['*'] => some { path := "*" }
    | '/' :: _ => (readReference? cs).map fun (path, query) => { path, query }
    | _ =>
      match splitScheme? cs with
      | some (scheme, rest) => readFull? scheme rest
      | none => (Authority.ofChars? cs).map fun a => { authority := some a, path := "" }

end Uri

end WebRequest
