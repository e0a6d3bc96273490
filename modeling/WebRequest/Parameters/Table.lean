-- The table of the parameters: every name with all its values. Names stand in the order
-- of their first value, values in the order they came. An index finds a name at once.
import Std.Data.HashMap
import WebRequest.Text.Ascii

namespace WebRequest.Parameters

/-- A name and its values. -/
structure Entry where
  name : String
  values : Array String
  deriving DecidableEq, Repr

/-- The parameters of a request. -/
structure Table where
  entries : Array Entry := #[]
  /-- Where each name stands among the entries. -/
  index : Std.HashMap String Nat := {}
  /-- How many values there are in all. -/
  valueCount : Nat := 0

namespace Table

def empty : Table := {}

/-- Adds a value behind those of its name. -/
def append (t : Table) (name value : String) : Table :=
  match t.index[name]? with
  | some i =>
    { t with
      entries := t.entries.modify i fun e => { e with values := e.values.push value },
      valueCount := t.valueCount + 1 }
  | none =>
    let place := t.entries.size
    { entries := t.entries.push { name, values := #[value] },
      index := t.index.insert name place,
      valueCount := t.valueCount + 1 }

def ofPairs (pairs : List (String × String)) : Table :=
  pairs.foldl (fun t (name, value) => t.append name value) empty

def getAll? (t : Table) (name : String) : Option (List String) :=
  (t.index[name]?.bind fun i => t.entries[i]?).map fun e => e.values.toList

/-- The first value of a name. -/
def get? (t : Table) (name : String) : Option String := (t.getAll? name).bind List.head?

def contains (t : Table) (name : String) : Bool := t.index.contains name

def names (t : Table) : List String := t.entries.toList.map (·.name)

/-- The names with their values. -/
def toList (t : Table) : List (String × List String) :=
  t.entries.toList.map fun e => (e.name, e.values.toList)

def size (t : Table) : Nat := t.entries.size

def isEmpty (t : Table) : Bool := t.entries.isEmpty

/-- Each value with its name, name by name. -/
def pairs (t : Table) : List (String × String) :=
  t.toList.flatMap fun (name, values) => values.map (name, ·)

/-- Two tables with the same names and values, in the same order. -/
def agrees (a b : Table) : Bool := a.entries == b.entries && a.valueCount == b.valueCount

@[simp] theorem valueCount_append (t : Table) (name value : String) :
    (t.append name value).valueCount = t.valueCount + 1 := by
  unfold append
  split <;> rfl

end Table

end WebRequest.Parameters
