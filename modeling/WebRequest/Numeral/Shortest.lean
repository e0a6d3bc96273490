-- The shortest decimal that reads back. Every 64-bit floating-point number owns an
-- interval of reals that round to it; of the decimals in that interval the text
-- shows the one with the fewest digits, of two such the nearer one, and of two that
-- are equally near the even one.
import WebRequest.Numeral.Binary

namespace WebRequest.Numeral

/-- Four times the interval around `mantissa · 2 ^ exponent`, in units of `2 ^ exponent`: its
ends, its middle, and whether the ends belong to it. -/
structure Interval where
  low : Nat
  middle : Nat
  high : Nat
  closed : Bool

/-- The reals that round to `b`. Below a power of two the spacing is halved. -/
def Interval.around (f : BinaryFormat) (b : Binary) : Interval :=
  let m := 4 * b.mantissa
  let halved := b.mantissa = 1 <<< (f.precision - 1) && f.minExponent < b.exponent
  { low := m - (if halved then 1 else 2), middle := m, high := m + 2,
    closed := b.mantissa % 2 = 0 }

/-- The multiple of `10 ^ t` in the interval that is nearest to its middle, if there is one; the
even one of two. -/
def Interval.gridPoint (i : Interval) (exponent t : Int) : Option Nat :=
  let e := exponent - 2
  let a := Nat.pow 10 (-t).toNat <<< e.toNat
  let b := Nat.pow 10 t.toNat <<< (-e).toNat
  let inside (c : Nat) : Bool :=
    0 < c && (if i.closed then i.low * a ≤ c * b && c * b ≤ i.high * a
      else i.low * a < c * b && c * b < i.high * a)
  let c := i.middle * a / b
  match inside c, inside (c + 1) with
  | true, true => some (nearestEven (i.middle * a) b)
  | true, false => some c
  | false, true => some (c + 1)
  | false, false => none

/-- The first grid from `10 ^ t` downward with a point in the interval. -/
def Interval.firstHit (i : Interval) (exponent t : Int) : Nat → Option (Nat × Int)
  | 0 => none
  | steps + 1 =>
    match i.gridPoint exponent t with
    | some c => some (c, t)
    | none => i.firstHit exponent (t - 1) steps

/-- `c · 10 ^ t` in positional notation, with at least one digit behind the point. -/
def positional (c : Nat) (t : Int) : String :=
  let ds := Nat.toDigits 10 c
  if 0 ≤ t then String.ofList (ds ++ List.replicate t.toNat '0' ++ ['.', '0'])
  else
    let places := (-t).toNat
    let ds := List.replicate (places + 1 - ds.length) '0' ++ ds
    String.ofList (ds.take (ds.length - places) ++ ['.'] ++ ds.drop (ds.length - places))

/-- `c · 10 ^ t` as a power of ten behind a number with one digit before its point. -/
def scientific (c : Nat) (t : Int) : String :=
  let ds := Nat.toDigits 10 c
  let power := t + ds.length - 1
  let part := if ds.length ≤ 1 then [] else '.' :: ds.drop 1
  String.ofList (ds.take 1 ++ part ++ ['e', if power < 0 then '-' else '+']) ++
    toString power.natAbs

/-- `c · 10 ^ t` in positional notation, as long as at most sixteen digits stand before the point
and at most four zeros behind it. -/
def decimalText (c : Nat) (t : Int) : String :=
  let point := t + (Nat.toDigits 10 c).length
  if -5 < point ∧ point ≤ 16 then positional c t else scientific c t

/-- The shortest text of a 64-bit floating-point number. -/
def Binary.text64 (b : Binary) : String :=
  if b.mantissa = 0 then "0.0"
  else
    match (Interval.around binary64 b).firstHit b.exponent 310 700 with
    | some (c, t) => decimalText c t
    | none => "0.0"

example : (Binary.mk (1 <<< 52) (-50)).text64 = "4.0" := by decide +kernel

end WebRequest.Numeral
