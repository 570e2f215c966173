/-
# Shortest decimals

The decimal that stands for a floating-point number is the shortest one that
reads back as that number, and of several shortest the nearest. It is found by
trying one digit, two digits, and so on: if any decimal of a given length reads
back, then so does one of the two neighbours of the number on the grid of that
length.
-/

import UtilityBilling.Number.Binary64

namespace UtilityBilling.Number

/-- The decimal `digits * 10 ^ scale`. -/
structure Decimal where
  digits : Nat
  scale : Int
  deriving DecidableEq, Repr, Inhabited

/-- A quotient of whole numbers times a power of ten, as a quotient. -/
def shifted (num den : Nat) (scale : Int) : Nat × Nat :=
  if 0 ≤ scale then (num * Nat.pow 10 scale.toNat, den)
  else (num, den * Nat.pow 10 (-scale).toNat)

/-- Four times the magnitude of a number, its unit and the widths to the two
neighbouring midpoints, over a common denominator. The numbers that round to the
given one lie between `centre - below` and `centre + above`. -/
structure Interval where
  centre : Nat
  below : Nat
  above : Nat
  den : Nat
  closed : Bool

/-- The interval of reals that round to a finite, non-zero number. Its ends
belong to it iff the significand is even; below a power of two the neighbour is
only half as far. -/
def intervalOf (x : Binary64) : Interval :=
  let m := x.significand
  let q := x.exponent
  let narrow := x.fraction == 0 && 1 < x.biased
  let (up, den) := if 0 ≤ q then (Nat.pow 2 q.toNat, 4) else (1, 4 * Nat.pow 2 (-q).toNat)
  { centre := 4 * m * up
    below := if narrow then up else 2 * up
    above := 2 * up
    den := den
    closed := m % 2 == 0 }

/-- Whether a decimal reads back as the number of an interval. -/
def Interval.holds (i : Interval) (d : Decimal) : Bool :=
  let (num, den) := shifted d.digits 1 d.scale
  -- Compare num / den with (centre ∓ width) / i.den.
  let point := num * i.den
  let low := (i.centre - i.below) * den
  let high := (i.centre + i.above) * den
  if i.closed then low ≤ point && point ≤ high else low < point && point < high

/-- The distance from an interval's centre to a decimal, over the common
denominator `10 ^ n * i.den` for the scale of the decimal. -/
def Interval.distance (i : Interval) (d : Decimal) : Nat :=
  let (num, den) := shifted d.digits 1 d.scale
  let point := num * i.den
  let middle := i.centre * den
  if point ≤ middle then middle - point else point - middle

/-- The nearest decimal at a scale that reads back, if one does. A tie goes to
the even digit. -/
def Interval.atScale? (i : Interval) (scale : Int) : Option Decimal :=
  let (num, den) := shifted i.centre i.den (-scale)
  let lower : Decimal := ⟨num / den, scale⟩
  let upper : Decimal := ⟨num / den + 1, scale⟩
  match i.holds lower && lower.digits != 0, i.holds upper with
  | false, false => none
  | true, false => some lower
  | false, true => some upper
  | true, true =>
    let toLower := i.distance lower
    let toUpper := i.distance upper
    if toLower < toUpper then some lower
    else if toUpper < toLower then some upper
    else if lower.digits % 2 == 0 then some lower else some upper

/-- The exponent of the leading decimal digit of a positive quotient, found from
an estimate that is never too large and at most `fuel` too small. -/
def leadingExponent (num den : Nat) : Nat → Int → Int
  | 0, guess => guess
  | fuel + 1, guess =>
    let (a, b) := shifted num den (-(guess + 1))
    if b ≤ a then leadingExponent num den fuel (guess + 1) else guess

/-- The first scale of a list at which a decimal reads back. -/
def Interval.first? (i : Interval) : List Int → Option Decimal
  | [] => none
  | scale :: finer =>
    match i.atScale? scale with
    | some d => some d
    | none => i.first? finer

/-- Drops the zeros at the end of the digits. -/
def Decimal.normalize : Nat → Decimal → Decimal
  | 0, d => d
  | fuel + 1, d =>
    if d.digits != 0 && d.digits % 10 == 0 then
      Decimal.normalize fuel ⟨d.digits / 10, d.scale + 1⟩
    else d

/-- The shortest decimal that reads back as the magnitude of a finite number. -/
def shortest (x : Binary64) : Decimal :=
  if x.significand = 0 then ⟨0, 0⟩
  else
    let i := intervalOf x
    -- log10 of 2 is a little more than 30102 / 100000.
    let binary : Int := (Nat.log2 x.significand : Int) + x.exponent
    let top := leadingExponent i.centre i.den 4 (binary * 30103 / 100000 - 2)
    let scales := (List.range 18).map fun (k : Nat) => top + 1 - (k : Int)
    ((i.first? scales).getD ⟨0, 0⟩).normalize 20

end UtilityBilling.Number
