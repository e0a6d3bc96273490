-- The languages a client prefers. Each entry of the header names a locale and may give
-- it a weight up to one; entries without a usable locale or weight are dropped, and
-- the rest are ordered by weight. Equal weights keep the order of the header.
import WebRequest.Locale
import WebRequest.Numeral.Binary

namespace WebRequest.AcceptLanguage

open Numeral

/-- A weight in thousandths. The literal, the product with a thousand and the result are each
rounded, the first two to 32-bit floating point. -/
def thousandths? (d : Decimal) : Option Nat :=
  (binary32.ofDecimal d).bind fun b =>
    let (num, den) := b.quotient
    if den < num then none
    else if d.negative && num != 0 then none
    else (binary32.round (num * 1000) den).map fun p =>
      let (n, m) := p.quotient
      nearestUp n m

/-- The weight that a text gives, in thousandths; `none` unless it is a number from zero to
one. -/
def quality? (text : List Char) : Option Nat :=
  match readLiteral (Text.strip Text.isBlank text) with
  | .ok (.finite d) => thousandths? d
  | _ => none

/-- What follows `q=` in a parameter, blanks before it left out. -/
def qualityText? (parameter : List Char) : Option (List Char) :=
  match Text.strip Text.isBlank parameter with
  | 'q' :: '=' :: rest => some rest
  | _ => none

/-- The weight of the parameters of an entry: the first one for quality decides, and one
thousand is meant when there is none. -/
def weight? (parameters : List (List Char)) : Option Nat :=
  match parameters.findSome? qualityText? with
  | none => some 1000
  | some text => quality? text

/-- The weight and the locale of an acceptable entry. -/
def entry? (entry : List Char) : Option (Nat × Locale) :=
  match entry.splitOnP (· = ';') with
  | [] => none
  | name :: parameters =>
    let tag := Text.strip Text.isBlank name
    if tag = [] ∨ tag = ['*'] then none
    else
      match weight? parameters with
      | none => none
      | some 0 => none
      | some w => (Locale.ofChars? tag).map fun l => (w, l)

/-- The entries of the header values, in order. -/
def entries (values : List String) : List (List Char) :=
  values.flatMap fun v => v.toList.splitOnP (· = ',')

/-- The acceptable entries with their weights, the heaviest first. -/
def ranked (values : List String) : List (Nat × Locale) :=
  ((entries values).filterMap entry?).mergeSort fun a b => b.1 ≤ a.1

/-- The locales that the header values ask for, the most preferred first. -/
def negotiate (values : List String) : List Locale := (ranked values).map (·.2)

/-- Ranking neither drops nor doubles an acceptable entry. -/
theorem ranked_perm (values : List String) :
    (ranked values).Perm ((entries values).filterMap entry?) :=
  List.mergeSort_perm _ _

end WebRequest.AcceptLanguage
