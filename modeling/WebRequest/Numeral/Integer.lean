-- Integers written in decimal digits, read within bounds. The digits are taken
-- from the left, so of two faults in one text the leftmost is reported: a digit
-- that leads out of the bounds hides whatever stands behind it.
import WebRequest.Text.Ascii

namespace WebRequest.Numeral

/-- Why a text is no integer within the bounds. -/
inductive IntegerFault where
  | empty
  | invalidDigit
  | tooLarge
  | tooSmall
  deriving DecidableEq, Repr

def IntegerFault.message : IntegerFault → String
  | .empty => "cannot parse integer from empty string"
  | .invalidDigit => "invalid digit found in string"
  | .tooLarge => "number too large to fit in target type"
  | .tooSmall => "number too small to fit in target type"

/-- Reads digits behind the magnitude `v`; a magnitude above `bound` is the fault `excess`. -/
def readMagnitude (bound : Nat) (excess : IntegerFault) (v : Nat) :
    List Char → Except IntegerFault Nat
  | [] => .ok v
  | c :: cs =>
    match Text.digitValue c with
    | none => .error .invalidDigit
    | some d =>
      if v * 10 + d ≤ bound then readMagnitude bound excess (v * 10 + d) cs else .error excess

/-- At least one digit, up to `bound`. -/
def readDigits (bound : Nat) (excess : IntegerFault) : List Char → Except IntegerFault Nat
  | [] => .error .invalidDigit
  | cs => readMagnitude bound excess 0 cs

/-- A natural number up to `max`; a plus sign may lead it. -/
def readNat (max : Nat) : List Char → Except IntegerFault Nat
  | [] => .error .empty
  | '+' :: cs => readDigits max .tooLarge cs
  | cs => readDigits max .tooLarge cs

/-- An integer from `-below` to `max`; a sign may lead it. -/
def readInt (below max : Nat) : List Char → Except IntegerFault Int
  | [] => .error .empty
  | '+' :: cs => (readDigits max .tooLarge cs).map Int.ofNat
  | '-' :: cs => (readDigits below .tooSmall cs).map fun n => - (n : Int)
  | cs => (readDigits max .tooLarge cs).map Int.ofNat

/-- The largest number of 16, 32 and 64 bits. -/
def max16 : Nat := 0xffff
def max32 : Nat := 0xffffffff
def max64 : Nat := 0xffffffffffffffff

end WebRequest.Numeral
