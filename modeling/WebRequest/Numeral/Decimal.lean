-- Decimal literals with a point and an exponent, and the words for infinity and
-- for what is no number.
import WebRequest.Text.Ascii

namespace WebRequest.Numeral

/-- The number `digits · 10 ^ exponent`, below zero if `negative`. -/
structure Decimal where
  negative : Bool
  digits : Nat
  exponent : Int
  deriving DecidableEq, Repr

/-- What a floating-point literal denotes. -/
inductive Literal where
  | finite (value : Decimal)
  | infinite (negative : Bool)
  | notANumber (negative : Bool)
  deriving DecidableEq, Repr

/-- Why a text is no floating-point literal. -/
inductive LiteralFault where
  | empty
  | invalid
  deriving DecidableEq, Repr

def LiteralFault.message : LiteralFault → String
  | .empty => "cannot parse float from empty string"
  | .invalid => "invalid float literal"

/-- The number that a row of digits writes behind `v`. -/
def digitsFrom (v : Nat) (cs : List Char) : Nat :=
  cs.foldl (fun v c => v * 10 + (Text.digitValue c).getD 0) v

/-- The digits that lead a text, and the rest. -/
def spanDigits (cs : List Char) : List Char × List Char :=
  (cs.takeWhile Char.isDigit, cs.dropWhile Char.isDigit)

/-- The exponent part: nothing, or `e` with a sign and at least one digit up to the end. -/
def readExponent : List Char → Option Int
  | [] => some 0
  | c :: cs =>
    if c = 'e' ∨ c = 'E' then
      let (negative, ds) := match cs with
        | '-' :: ds => (true, ds)
        | '+' :: ds => (false, ds)
        | ds => (false, ds)
      if ds.isEmpty || !ds.all Char.isDigit then none
      else
        let n : Int := digitsFrom 0 ds
        some (if negative then -n else n)
    else none

/-- A literal without its sign: digits with at most one point and at least one digit, and an
exponent. -/
def readUnsigned (negative : Bool) (cs : List Char) : Option Decimal :=
  let (whole, rest) := spanDigits cs
  let (part, rest) := match rest with
    | '.' :: rest => spanDigits rest
    | rest => ([], rest)
  if whole.isEmpty && part.isEmpty then none
  else (readExponent rest).map fun e =>
    { negative, digits := digitsFrom (digitsFrom 0 whole) part, exponent := e - part.length }

/-- The words `nan`, `inf` and `infinity`, in either case. -/
def readWord (negative : Bool) (cs : List Char) : Option Literal :=
  let word := Text.lower (String.ofList cs)
  if word == "nan" then some (.notANumber negative)
  else if word == "inf" || word == "infinity" then some (.infinite negative)
  else none

/-- A floating-point literal; a sign may lead it. -/
def readLiteral : List Char → Except LiteralFault Literal
  | [] => .error .empty
  | c :: cs =>
    let negative := c == '-'
    let body := if c = '-' ∨ c = '+' then cs else c :: cs
    match readUnsigned negative body with
    | some d => .ok (.finite d)
    | none =>
      match readWord negative body with
      | some w => .ok w
      | none => .error .invalid

end WebRequest.Numeral
