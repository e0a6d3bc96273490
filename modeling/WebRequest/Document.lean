-- Configuration documents and how a record is read from one. A table gives fields by
-- name, in the order of the names; a list gives them in the order of their declaration.
-- A field that is not given keeps its default, and unknown names are passed over.
import WebRequest.Text.Quoted
import WebRequest.Numeral.Shortest
import WebRequest.Numeral.Written
import WebRequest.Locale

namespace WebRequest

/-- A configuration document. -/
inductive Document where
  | null
  | flag (value : Bool)
  | integer (value : Int)
  /-- A number with a point or an exponent, and the negative zero. -/
  | decimal (value : Numeral.Written)
  | text (value : String)
  | list (items : List Document)
  | table (entries : List (String × Document))
  deriving Inhabited

/-- Why a document does not fit what is read from it. -/
inductive DocumentFault where
  | wrongType (found expected : String)
  | wrongValue (found expected : String)
  | unknownVariant (name : String) (known : List String)
  | tooManyElements (count : Nat)
  | invalidTag (tag : String)
  deriving DecidableEq, Repr

def DocumentFault.message : DocumentFault → String
  | .wrongType found expected => "invalid type: " ++ found ++ ", expected " ++ expected
  | .wrongValue found expected => "invalid value: " ++ found ++ ", expected " ++ expected
  | .unknownVariant name known =>
    "unknown variant `" ++ name ++ "`, expected " ++ Text.alternatives known
  | .tooManyElements count =>
    "invalid length " ++ toString count ++ ", expected fewer elements in array"
  | .invalidTag tag => Locale.invalidTag tag

namespace Document

/-- An integer that takes more than 64 bits counts as floating point. -/
def isWide (n : Int) : Bool := n < -0x8000000000000000 || 0xffffffffffffffff < n

/-- A number in floating point, as faults show it. -/
def describeDecimal (d : Numeral.Written) : String :=
  "floating point `" ++ (if d.negative then "-" else "") ++
    (d.magnitude?.map Numeral.Binary.text64).getD "inf" ++ "`"

/-- A document, as faults show it. -/
def describe : Document → String
  | .null => "null"
  | .flag b => "boolean `" ++ toString b ++ "`"
  | .integer n =>
    if isWide n then describeDecimal (.ofInt n)
    else "integer `" ++ toString n ++ "`"
  | .decimal d => describeDecimal d
  | .text s => "string " ++ Text.quoted s
  | .list _ => "sequence"
  | .table _ => "map"

/-! ## Reading values -/

def readText : Document → Except DocumentFault String
  | .text s => .ok s
  | d => .error (.wrongType d.describe "a string")

/-- A natural number of 64 bits; `type` is what faults call it. -/
def readNatural (type : String) : Document → Except DocumentFault Nat
  | .integer n =>
    if isWide n then .error (.wrongType (describe (.integer n)) type)
    else if n < 0 then .error (.wrongValue (describe (.integer n)) type)
    else .ok n.toNat
  | d => .error (.wrongType d.describe type)

/-- A value that may be null. -/
def readOptional {α : Type} (read : Document → Except DocumentFault α) :
    Document → Except DocumentFault (Option α)
  | .null => .ok none
  | d => (read d).map some

/-- A locale, by its tag. -/
def readLocale (d : Document) : Except DocumentFault Locale :=
  match readText d with
  | .error f => .error f
  | .ok tag =>
    match Locale.ofTag? tag with
    | some l => .ok l
    | none => .error (.invalidTag tag)

/-- One of several names, given alone or as the only name of a table, with nothing under it. -/
def readVariant {α : Type} (variants : List (String × α)) : Document → Except DocumentFault α
  | .text name => find name
  | .table [(name, value)] =>
    match find name, value with
    | .error f, _ => .error f
    | .ok a, .null => .ok a
    | .ok _, d => .error (.wrongType d.describe "unit")
  | .table _ => .error (.wrongValue "map" "map with a single key")
  | d => .error (.wrongType d.describe "string or map")
where
  /-- The variant of a name. -/
  find (name : String) : Except DocumentFault α :=
    match variants.lookup name with
    | some a => .ok a
    | none => .error (.unknownVariant name (variants.map (·.1)))

/-- A field of a record: its name, and how the record changes by what is read for it. -/
structure Field (ρ : Type) where
  name : String
  read : Document → ρ → Except DocumentFault ρ

/-- A record that starts from its defaults; `type` is what faults call it. -/
def readRecord {ρ : Type} (type : String) (fields : List (Field ρ)) (defaults : ρ) :
    Document → Except DocumentFault ρ
  | .table entries =>
    (entries.mergeSort fun a b => a.1 ≤ b.1).foldlM
      (fun r (name, value) =>
        match fields.find? fun f => f.name = name with
        | some f => f.read value r
        | none => .ok r)
      defaults
  | .list items =>
    match (fields.zip items).foldlM (fun r (f, value) => f.read value r) defaults with
    | .error f => .error f
    | .ok r =>
      if fields.length < items.length then .error (.tooManyElements items.length) else .ok r
  | d => .error (.wrongType d.describe ("struct " ++ type))

end Document

end WebRequest
