-- Authorities: the part of an address that names a host, perhaps with a user before it
-- and a port behind it. The host may stand in brackets.
import WebRequest.Numeral.Integer

namespace WebRequest

/-- An authority, as it was written. -/
structure Authority where
  text : String
  deriving DecidableEq, Repr

namespace Authority

/-- A character that ends an authority. -/
def isEnd (c : Char) : Bool := c = '/' || c = '?' || c = '#'

/-- A character that may stand in an authority. The percent sign is not among them: it may only
stand before a user's `@` or in brackets. -/
def isPlain (c : Char) : Bool := c.isAlphanum || "!$&'()*+,-.:;=@[]_~".toList.contains c

/-- What has been met while an authority is read from the left. -/
structure Scan where
  /-- The colons since the last `@` or closing bracket. -/
  colons : Nat := 0
  opened : Bool := false
  closed : Bool := false
  /-- A percent sign has to be followed by an `@` or a closing bracket. -/
  percent : Bool := false
  deriving DecidableEq, Repr

/-- Most colons in a row of groups. -/
def maxColons : Nat := 8

def Scan.next (s : Scan) (c : Char) : Option Scan :=
  if c = '%' then some { s with percent := true }
  else if !isPlain c then none
  else if c = ':' then
    if maxColons ≤ s.colons then none else some { s with colons := s.colons + 1 }
  else if c = '[' then
    if s.percent || s.opened then none else some { s with opened := true }
  else if c = ']' then
    if !s.opened || s.closed then none
    else some { s with closed := true, colons := 0, percent := false }
  else if c = '@' then some { s with colons := 0, percent := false }
  else some s

/-- The authority may end here. -/
def Scan.isComplete (s : Scan) : Bool := s.opened == s.closed && s.colons ≤ 1 && !s.percent

/-- The authority that the characters write. -/
def ofChars? (cs : List Char) : Option Authority :=
  if cs.isEmpty || cs.getLast? == some '@' then none
  else
    match cs.foldlM Scan.next {} with
    | some s => if s.isComplete then some ⟨String.ofList cs⟩ else none
    | none => none

/-- What stands behind the last element that satisfies `p`, or the whole list. -/
def behindLast {α : Type} (p : α → Bool) (xs : List α) : List α :=
  (xs.reverse.takeWhile fun x => !p x).reverse

/-- The host: behind the user, in its brackets, or else up to the port. -/
def host (a : Authority) : String :=
  let cs := behindLast (· = '@') a.text.toList
  String.ofList <|
    match cs with
    | '[' :: _ => cs.takeWhile (· ≠ ']') ++ [']']
    | _ => cs.takeWhile (· ≠ ':')

/-- The port: the number behind the last colon. -/
def port (a : Authority) : Option Nat :=
  let cs := a.text.toList
  if cs.contains ':' then (Numeral.readNat Numeral.max16 (behindLast (· = ':') cs)).toOption
  else none

end Authority

end WebRequest
