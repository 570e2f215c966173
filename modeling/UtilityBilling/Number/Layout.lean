/-
# Numbers in text

Two ways to write a floating-point number. The general form takes its shortest
decimal and writes it positionally while the exponent of the leading digit is
between -5 and 15, and otherwise with an explicit exponent and its sign. The
fixed form keeps a given number of places of the exact value.
-/

import UtilityBilling.Number.Shortest
import UtilityBilling.Number.Numeral

namespace UtilityBilling.Number

/-- Writes a non-zero decimal: digits, a point, and possibly an exponent. -/
def Decimal.text (d : Decimal) : List Char :=
  let digits := Nat.toDigits 10 d.digits
  let count := digits.length
  let exponent : Int := d.scale + count - 1
  if -5 ≤ exponent ∧ exponent ≤ 15 then
    if exponent < 0 then
      ['0', '.'] ++ List.replicate (-exponent - 1).toNat '0' ++ digits
    else
      let whole := (exponent + 1).toNat
      if count ≤ whole then
        digits ++ List.replicate (whole - count) '0' ++ ['.', '0']
      else digits.take whole ++ '.' :: digits.drop whole
  else
    let point := match digits with
      | [only] => [only]
      | first :: rest => first :: '.' :: rest
      | [] => []
    let sign := if exponent < 0 then '-' else '+'
    point ++ 'e' :: sign :: Nat.toDigits 10 exponent.natAbs

/-- The general form of a finite number. -/
def Binary64.text (x : Binary64) : List Char :=
  let magnitude :=
    if x.significand = 0 then ['0', '.', '0'] else (shortest x).text
  if x.isNegative then '-' :: magnitude else magnitude

/-- The fixed form of a finite number: `places` digits after the point, the exact
value rounded to the nearest, a half to even. The sign stays on a zero. -/
def Binary64.fixed (places : Nat) (x : Binary64) : List Char :=
  let (num, den) := x.ratio
  let units := Binary64.roundedQuotient (num * Nat.pow 10 places) den
  let whole := Nat.toDigits 10 (units / Nat.pow 10 places)
  let part := zeroPadded places (units % Nat.pow 10 places)
  let magnitude := if places = 0 then whole else whole ++ '.' :: part
  if x.isNegative then '-' :: magnitude else magnitude

end UtilityBilling.Number
