-- The characters of the double-byte charsets, in rows of cells. A charset finds the row and the
-- cell of a pair of bytes by arithmetic of its own.

namespace WebRequest.Charset

/-- Neighbouring cells of a row, from the cell with number `first` on. A full stop marks a cell
that has no character. -/
structure Stretch where
  row : Nat
  first : Nat
  cells : String

/-- The characters that pairs of bytes can stand for. -/
abbrev Repertoire := List Stretch

/-- The character in a cell, if there is one. -/
def Stretch.charAt? (s : Stretch) (row cell : Nat) : Option Char :=
  if s.row = row ∧ s.first ≤ cell then s.cells.toList[cell - s.first]?.filter (· ≠ '.')
  else none

/-- The character in a cell, if there is one. -/
def Repertoire.charAt? (r : Repertoire) (row cell : Nat) : Option Char :=
  r.findSome? (·.charAt? row cell)

end WebRequest.Charset
