-- Header fields. Names are tokens and compare without regard to case; a name may have
-- several values, which keep their order. Values are bytes, kept as they were sent.
import WebRequest.Bytes
import WebRequest.Text.Ascii

namespace WebRequest

/-- A text that is a token: a method or the name of a field. -/
def isToken (s : String) : Bool := !s.isEmpty && s.toList.all Text.isTokenChar

/-- A byte that may stand in the value of a field. -/
def isFieldByte (b : UInt8) : Bool := (32 ≤ b && b ≠ 127) || b = 9

/-- A byte that is visible, a space or a tab. -/
def isPlainByte (b : UInt8) : Bool := (32 ≤ b && b < 127) || b = 9

/-- Header fields in the order they came in, their names written small. -/
structure HeaderFields where
  fields : List (String × Bytes) := []
  deriving DecidableEq, Repr

namespace HeaderFields

/-- The longest name of a field. -/
def maxNameLength : Nat := 65535

/-- One field, if name and value are well-formed. -/
def field? (name : String) (value : Bytes) : Option (String × Bytes) :=
  if isToken name && name.length ≤ maxNameLength && value.all isFieldByte then
    some (Text.lower name, value)
  else none

/-- The fields, if all names and values are well-formed. -/
def of? (fields : List (String × Bytes)) : Option HeaderFields :=
  (fields.mapM fun (name, value) => field? name value).map HeaderFields.mk

def size (h : HeaderFields) : Nat := h.fields.length

def values (h : HeaderFields) (name : String) : List Bytes :=
  h.fields.filterMap fun (n, v) => if n = name then some v else none

/-- A value as text, if it holds nothing but plain bytes. -/
def valueText? (value : Bytes) : Option String :=
  if value.all isPlainByte then some (String.ofList (Bytes.toChars value)) else none

/-- The first value of a name as text. It decides alone: if it is no text, there is none. -/
def text? (h : HeaderFields) (name : String) : Option String :=
  (h.values name).head?.bind valueText?

/-- All values of a name that are texts. -/
def texts (h : HeaderFields) (name : String) : List String := (h.values name).filterMap valueText?

end HeaderFields

end WebRequest
