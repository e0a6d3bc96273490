-- Named values attached to a request. A name is bound at most once. Binding it again
-- replaces the value and keeps the place; removing it and binding it anew moves it to
-- the end.
import WebRequest.Text.Quoted

namespace WebRequest

/-- A value that can be attached to a request, or travel with a suspended one. -/
inductive Value where
  | text (value : String)
  | word (value : UInt32)
  | int (value : Int64)
  | flag (value : Bool)
  | unit
  deriving DecidableEq, Repr

/-- The type of a value, by which it can be asked for. -/
inductive ValueType where
  | text
  | word
  | int
  | flag
  | unit
  deriving DecidableEq, Repr

def Value.type : Value → ValueType
  | .text _ => .text
  | .word _ => .word
  | .int _ => .int
  | .flag _ => .flag
  | .unit => .unit

/-! ## The store -/

/-- Bindings of names to values, in the order in which the names were bound. -/
structure Attributes where
  bindings : List (String × Value) := []
  deriving DecidableEq, Repr

namespace Attributes

/-- Replaces the value of the first binding of a name. -/
def replace (name : String) (value : Value) : List (String × Value) → List (String × Value)
  | [] => []
  | (n, v) :: rest => if n = name then (n, value) :: rest else (n, v) :: replace name value rest

/-- The value of the first binding of a name, and the bindings without it. -/
def extract (name : String) : List (String × Value) → Option Value × List (String × Value)
  | [] => (none, [])
  | (n, v) :: rest =>
    if n = name then (some v, rest)
    else
      let (value, rest) := extract name rest
      (value, (n, v) :: rest)

def get? (a : Attributes) (name : String) : Option Value :=
  (a.bindings.find? fun b => b.1 = name).map (·.2)

/-- The value bound to a name, if it has the type. -/
def getAs? (a : Attributes) (type : ValueType) (name : String) : Option Value :=
  (a.get? name).filter fun v => v.type = type

def insert (a : Attributes) (name : String) (value : Value) : Attributes :=
  if (a.get? name).isSome then ⟨replace name value a.bindings⟩
  else ⟨a.bindings ++ [(name, value)]⟩

/-- Unbinds a name. The first part is the value it was bound to. -/
def take (a : Attributes) (name : String) : Option Value × Attributes :=
  let (value, bindings) := extract name a.bindings
  (value, ⟨bindings⟩)

/-- The store without a name. -/
def erase (a : Attributes) (name : String) : Attributes := (a.take name).2

/-- Binds a name, or unbinds it if there is no value. -/
def set (a : Attributes) (name : String) : Option Value → Attributes
  | some value => a.insert name value
  | none => a.erase name

def names (a : Attributes) : List String := a.bindings.map (·.1)

def size (a : Attributes) : Nat := a.bindings.length

def isEmpty (a : Attributes) : Bool := a.bindings.isEmpty

def empty : Attributes := {}

/-- The bound names as a set, quoted. -/
def describe (a : Attributes) : String :=
  "\x7b" ++ Text.commaList (a.names.map Text.quoted) ++ "\x7d"

theorem fst_take (a : Attributes) (name : String) : (a.take name).1 = a.get? name := by
  obtain ⟨bindings⟩ := a
  simp only [take, get?]
  induction bindings with
  | nil => rfl
  | cons b rest ih =>
    obtain ⟨n, v⟩ := b
    by_cases h : n = name <;> simp [extract, h, ih]

end Attributes

end WebRequest
