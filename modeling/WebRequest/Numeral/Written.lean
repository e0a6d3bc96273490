-- Numbers as documents write them: digits, digits behind a point, and a power of ten.
-- Their value is taken in steps. The digits that fit make a magnitude of 64 bits, the
-- digits after those are passed over, and the magnitude is scaled by the power of ten;
-- each step rounds to 64-bit floating point.
import WebRequest.Numeral.Binary
import WebRequest.Numeral.Integer

namespace WebRequest.Numeral

/-- A number as it is written. -/
structure Written where
  negative : Bool := false
  whole : List Char
  /-- The digits behind the point. -/
  part : List Char := []
  exponent : Int := 0
  deriving DecidableEq, Repr

namespace Written

def ofInt (n : Int) : Written := { negative := n < 0, whole := Nat.toDigits 10 n.natAbs }

/-- The number that a text writes: digits, perhaps a point and digits, perhaps an exponent. -/
def ofChars? (cs : List Char) : Option Written :=
  let (negative, body) := match cs with
    | '-' :: body => (true, body)
    | body => (false, body)
  let (whole, rest) := spanDigits body
  let (part, rest) := match rest with
    | '.' :: rest => spanDigits rest
    | rest => ([], rest)
  if whole.isEmpty then none
  else (readExponent rest).map fun exponent => { negative, whole, part, exponent }

/-- Takes digits behind the magnitude `v`, up to the first one that leads beyond 64 bits. What
is left starts with that digit. -/
def takeDigits (v : Nat) : List Char → Nat × List Char
  | [] => (v, [])
  | c :: cs =>
    let next := digitsFrom v [c]
    if next ≤ max64 then takeDigits next cs else (v, c :: cs)

/-- The magnitude of the digits taken, and its power of ten. -/
def significand (w : Written) : Nat × Int :=
  let (v, dropped) := takeDigits 0 w.whole
  let (v, left) := takeDigits v w.part
  (v, w.exponent + dropped.length - (w.part.length - left.length : Nat))

/-- The largest power of ten that one step scales by. -/
def maxStep : Nat := 308

/-- `10 ^ n`, rounded. -/
def powerOfTen (n : Nat) : Option Binary := binary64.round (Nat.pow 10 n) 1

/-- `b · 10 ^ n`, where both factors are rounded before they are multiplied. -/
def scaleUp (b : Binary) (n : Nat) : Option Binary :=
  (powerOfTen n).bind fun p =>
    binary64.round (b.quotient.1 * p.quotient.1) (b.quotient.2 * p.quotient.2)

/-- `b / 10 ^ n` by one rounded division. -/
def divideStep (b : Binary) (n : Nat) : Option Binary :=
  (powerOfTen n).bind fun p =>
    binary64.round (b.quotient.1 * p.quotient.2) (b.quotient.2 * p.quotient.1)

/-- `b / 10 ^ n` by as many divisions as it takes, each of them rounded. Zero is not divided. -/
def scaleDown (b : Binary) (n : Nat) : Option Binary :=
  if b.mantissa = 0 then some b
  else if n ≤ maxStep then divideStep b n
  else (divideStep b maxStep).bind fun b => scaleDown b (n - maxStep)
termination_by n
decreasing_by
  simp only [maxStep] at *
  omega

/-- The value without its sign; `none` beyond the largest. -/
def magnitude? (w : Written) : Option Binary :=
  let (v, e) := w.significand
  (binary64.round v 1).bind fun b =>
    if v = 0 then some b
    else if e < 0 then scaleDown b (-e).toNat
    else if maxStep < e.toNat then none
    else scaleUp b e.toNat

end Written

end WebRequest.Numeral
