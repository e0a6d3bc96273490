-- Reading the parameters as a value of a given shape. Records take their fields by name;
-- every field is read from the text of one value, and the first fault in the order of
-- the pairs is reported.
import WebRequest.Numeral.Binary
import WebRequest.Numeral.Integer
import WebRequest.Parameters.Table
import WebRequest.Text.Quoted

namespace WebRequest.Parameters

/-- Why parameters do not have a shape. -/
inductive ShapeFault where
  | missingField (name : String)
  | duplicateField (name : String)
  | unknownField (name : String) (known : List String)
  | unknownVariant (name : String) (known : List String)
  | notCharacter (text : String)
  | notFlag
  | integer (fault : Numeral.IntegerFault)
  | literal (fault : Numeral.LiteralFault)
  | isTable (expected : String)
  | isNotEmpty (count : Nat)
  deriving DecidableEq, Repr

def ShapeFault.message : ShapeFault → String
  | .missingField name => "missing field `" ++ name ++ "`"
  | .duplicateField name => "duplicate field `" ++ name ++ "`"
  | .unknownField name known =>
    "unknown field `" ++ name ++ "`, expected " ++ Text.alternatives known
  | .unknownVariant name known =>
    "unknown variant `" ++ name ++ "`, expected " ++ Text.alternatives known
  | .notCharacter text =>
    "invalid value: string " ++ Text.quoted text ++ ", expected a character"
  | .notFlag => "provided string was not `true` or `false`"
  | .integer f => f.message
  | .literal f => f.message
  | .isTable expected => "invalid type: map, expected " ++ expected
  | .isNotEmpty count =>
    "invalid length " ++ toString count ++ ", expected 0 elements in map"

/-! ## Fields -/

inductive FieldType where
  | text
  | integer (below max : Nat)
  | natural (max : Nat)
  /-- A number in 64-bit floating point. -/
  | float
  | flag
  | character
  | choice (names : List String)
  deriving DecidableEq, Repr

inductive FieldValue where
  | text (value : String)
  | integer (value : Int)
  /-- A number in 64-bit floating point, by its bits. -/
  | float (bits : Nat)
  | flag (value : Bool)
  | character (value : Char)
  | choice (name : String)
  deriving DecidableEq, Repr

def FieldType.read (type : FieldType) (s : String) : Except ShapeFault FieldValue :=
  match type with
  | .text => .ok (.text s)
  | .integer below max =>
    match Numeral.readInt below max s.toList with
    | .ok n => .ok (.integer n)
    | .error f => .error (.integer f)
  | .natural max =>
    match Numeral.readNat max s.toList with
    | .ok n => .ok (.integer n)
    | .error f => .error (.integer f)
  | .float =>
    match Numeral.readLiteral s.toList with
    | .ok l => .ok (.float (Numeral.bits64 l))
    | .error f => .error (.literal f)
  | .flag =>
    if s == "true" then .ok (.flag true)
    else if s == "false" then .ok (.flag false)
    else .error .notFlag
  | .character =>
    match s.toList with
    | [c] => .ok (.character c)
    | _ => .error (.notCharacter s)
  | .choice names =>
    if names.contains s then .ok (.choice s) else .error (.unknownVariant s names)

structure FieldSpec where
  name : String
  type : FieldType
  /-- The field may be left out. -/
  optional : Bool := false
  deriving DecidableEq, Repr

/-! ## Shapes -/

/-- What parameters can be read as. -/
inductive Shape where
  /-- All pairs in order. -/
  | pairs
  /-- The last value of every name. -/
  | lastValues
  /-- A record; a closed one has no further fields. -/
  | record (fields : List FieldSpec) (closed : Bool)
  /-- A single value of a type; parameters never have this shape. -/
  | scalar (type : String)
  /-- No parameters. -/
  | nothing
  deriving DecidableEq, Repr

/-- What has been read. -/
inductive Shaped where
  | pairs (pairs : List (String × String))
  | record (fields : List (String × Option FieldValue))
  | nothing
  deriving DecidableEq, Repr

/-- Takes one pair into the fields found so far. -/
def takePair (fields : List FieldSpec) (closed : Bool) (found : List (String × FieldValue))
    (pair : String × String) : Except ShapeFault (List (String × FieldValue)) :=
  match fields.find? fun f => f.name = pair.1 with
  | none =>
    if closed then .error (.unknownField pair.1 (fields.map (·.name))) else .ok found
  | some f =>
    if (found.lookup f.name).isSome then .error (.duplicateField f.name)
    else (f.type.read pair.2).map fun v => (f.name, v) :: found

/-- The value of a field among those found. -/
def fieldOf (found : List (String × FieldValue)) (f : FieldSpec) :
    Except ShapeFault (String × Option FieldValue) :=
  match found.lookup f.name with
  | some v => .ok (f.name, some v)
  | none => if f.optional then .ok (f.name, none) else .error (.missingField f.name)

def readFields (fields : List FieldSpec) (closed : Bool) (pairs : List (String × String)) :
    Except ShapeFault (List (String × Option FieldValue)) :=
  match pairs.foldlM (takePair fields closed) [] with
  | .error f => .error f
  | .ok found => fields.mapM (fieldOf found)

/-- The last value of every name. -/
def Table.lastValues (t : Table) : List (String × String) :=
  t.toList.filterMap fun (name, values) => values.getLast?.map (name, ·)

/-- Reads the parameters as a value of a shape. -/
def Table.readAs (t : Table) : Shape → Except ShapeFault Shaped
  | .pairs => .ok (.pairs t.pairs)
  | .lastValues => .ok (.pairs t.lastValues)
  | .record fields closed => (readFields fields closed t.pairs).map .record
  | .scalar type => .error (.isTable type)
  | .nothing => if t.valueCount = 0 then .ok .nothing else .error (.isNotEmpty t.valueCount)

end WebRequest.Parameters
