-- Rounding to a binary floating-point format. A format keeps a number of bits
-- and bounds the exponent; a quotient goes to the nearest number of the format,
-- and a quotient halfway between two goes to the even one.
import WebRequest.Numeral.Decimal

namespace WebRequest.Numeral

/-- The integer nearest to `num / den`, the even one of two. -/
def nearestEven (num den : Nat) : Nat :=
  let q := num / den
  let r := num % den
  if 2 * r < den then q
  else if den < 2 * r then q + 1
  else q + q % 2

/-- The integer nearest to `num / den`, the larger one of two. -/
def nearestUp (num den : Nat) : Nat := (2 * num + den) / (2 * den)

/-- The numbers `m · 2 ^ e` with `m < 2 ^ precision` and `minExponent ≤ e ≤ maxExponent`. -/
structure BinaryFormat where
  precision : Nat
  minExponent : Int
  maxExponent : Int

def binary32 : BinaryFormat := ⟨24, -149, 104⟩
def binary64 : BinaryFormat := ⟨53, -1074, 971⟩

/-- The number `mantissa · 2 ^ exponent`. -/
structure Binary where
  mantissa : Nat
  exponent : Int
  deriving DecidableEq, Repr

/-- A binary number as a quotient. -/
def Binary.quotient (b : Binary) : Nat × Nat :=
  if 0 ≤ b.exponent then (b.mantissa <<< b.exponent.toNat, 1)
  else (b.mantissa, 1 <<< (-b.exponent).toNat)

/-- `num / (den · 2 ^ e)` as a quotient of natural numbers. -/
def scaled (num den : Nat) (e : Int) : Nat × Nat :=
  if 0 ≤ e then (num, den <<< e.toNat) else (num <<< (-e).toNat, den)

/-- The exponent at which `num / den` fills the precision of the format. -/
def BinaryFormat.exponentFor (f : BinaryFormat) (num den : Nat) : Int :=
  let e : Int := (num.log2 : Int) - den.log2 - f.precision
  let (n, d) := scaled num den e
  max f.minExponent (if n / d < 1 <<< f.precision then e else e + 1)

/-- The number of the format nearest to `num / den`; `none` beyond the largest. -/
def BinaryFormat.round (f : BinaryFormat) (num den : Nat) : Option Binary :=
  if num = 0 then some ⟨0, f.minExponent⟩
  else
    let e := f.exponentFor num den
    let (n, d) := scaled num den e
    let m := nearestEven n d
    let b : Binary := if m < 1 <<< f.precision then ⟨m, e⟩ else ⟨m / 2, e + 1⟩
    if b.exponent ≤ f.maxExponent then some b else none

/-- How many decimal digits a number has; zero has none. -/
def decimalLength (n : Nat) : Nat := if n = 0 then 0 else (Nat.toDigits 10 n).length

/-- The number of the format nearest to a decimal, without its sign; `none` beyond the largest.
A decimal of far more or far fewer than three hundred places is told apart by its length
alone. -/
def BinaryFormat.ofDecimal (f : BinaryFormat) (d : Decimal) : Option Binary :=
  let places : Int := d.exponent + decimalLength d.digits
  if d.digits = 0 ∨ places < -400 then some ⟨0, f.minExponent⟩
  else if 400 < places then none
  else if 0 ≤ d.exponent then f.round (d.digits * Nat.pow 10 d.exponent.toNat) 1
  else f.round d.digits (Nat.pow 10 (-d.exponent).toNat)

/-- The top bit, set below zero. -/
def signBit64 (negative : Bool) : Nat := if negative then 1 <<< 63 else 0

/-- The bits of a literal rounded to 64-bit floating point. -/
def bits64 : Literal → Nat
  | .infinite negative => signBit64 negative + 2047 <<< 52
  | .notANumber negative => signBit64 negative + 2047 <<< 52 + 1 <<< 51
  | .finite d =>
    match binary64.ofDecimal d with
    | none => signBit64 d.negative + 2047 <<< 52
    | some b =>
      if b.mantissa < 1 <<< 52 then signBit64 d.negative + b.mantissa
      else signBit64 d.negative + (b.exponent + 1075).toNat <<< 52 + (b.mantissa - 1 <<< 52)

end WebRequest.Numeral
