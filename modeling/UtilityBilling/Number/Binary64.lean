/-
# Binary floating-point numbers

A 64-bit floating-point number is kept as its bit pattern: a sign, eleven bits of
exponent, fifty-two bits of fraction. All arithmetic is exact arithmetic on whole
numbers followed by one rounding to the nearest representable number, a tie going
to the even one.
-/

namespace UtilityBilling.Number

/-- A 64-bit floating-point number. -/
structure Binary64 where
  bits : UInt64
  deriving DecidableEq, Repr, Inhabited

namespace Binary64

/-- The quotient of two whole numbers rounded to the nearest, a half to even. -/
def roundedQuotient (num den : Nat) : Nat :=
  let quotient := num / den
  let rest := 2 * (num % den)
  if den < rest ∨ (rest = den ∧ quotient % 2 = 1) then quotient + 1 else quotient

/-- The bits of the eleven-bit exponent. -/
def biased (x : Binary64) : Nat :=
  (x.bits.toNat / Nat.pow 2 52) % Nat.pow 2 11

/-- The fifty-two bits of the fraction. -/
def fraction (x : Binary64) : Nat :=
  x.bits.toNat % Nat.pow 2 52

/-- Whether the sign is set. -/
def isNegative (x : Binary64) : Bool :=
  Nat.pow 2 63 ≤ x.bits.toNat

/-- Whether the number is neither infinite nor undefined. -/
def isFinite (x : Binary64) : Bool :=
  x.biased != 2047

/-- The whole number `m` in the magnitude `m * 2 ^ q` of a finite number. -/
def significand (x : Binary64) : Nat :=
  if x.biased = 0 then x.fraction else x.fraction + Nat.pow 2 52

/-- The exponent `q` in the magnitude `m * 2 ^ q` of a finite number. -/
def exponent (x : Binary64) : Int :=
  (Nat.max x.biased 1 : Int) - 1075

/-- Assembles a number from its sign, biased exponent and fraction. -/
def assemble (negative : Bool) (exponentBits fractionBits : Nat) : Binary64 :=
  ⟨UInt64.ofNat
    ((if negative then Nat.pow 2 63 else 0) + exponentBits * Nat.pow 2 52 + fractionBits)⟩

/-- Zero with a sign. -/
def zero (negative : Bool) : Binary64 :=
  assemble negative 0 0

/-- Infinity with a sign. -/
def infinity (negative : Bool) : Binary64 :=
  assemble negative 2047 0

/-- A magnitude `num / den` as a fraction of whole numbers over `2 ^ q`. -/
def scaled (num den : Nat) (q : Int) : Nat :=
  if 0 ≤ q then roundedQuotient num (den * Nat.pow 2 q.toNat)
  else roundedQuotient (num * Nat.pow 2 (-q).toNat) den

/-- The representable number nearest to `num / den`. -/
def ofRatio (negative : Bool) (num den : Nat) : Binary64 :=
  if num = 0 ∨ den = 0 then zero negative
  else
    let guess : Int := (Nat.log2 num : Int) - Nat.log2 den - 52
    -- The quotient lies between 2 ^ (guess + 51) and 2 ^ (guess + 53).
    let tooFine :=
      if 0 ≤ guess then decide (num < den * Nat.pow 2 guess.toNat * Nat.pow 2 52)
      else decide (num * Nat.pow 2 (-guess).toNat < den * Nat.pow 2 52)
    let normal := if tooFine then guess - 1 else guess
    let q := max normal (-1074)
    let m := scaled num den q
    -- Rounding up to 2 ^ 53 carries into the exponent by the addition below.
    let exponentBits : Int := if m < Nat.pow 2 52 then 0 else q + 1075
    if Nat.pow 2 53 ≤ m then
      if q + 1076 ≥ 2047 then infinity negative
      else assemble negative (q + 1076).toNat 0
    else if exponentBits ≥ 2047 then infinity negative
    else assemble negative exponentBits.toNat (m % Nat.pow 2 52)

/-- The magnitude of a finite number as a quotient of whole numbers. -/
def ratio (x : Binary64) : Nat × Nat :=
  if 0 ≤ x.exponent then (x.significand * Nat.pow 2 x.exponent.toNat, 1)
  else (x.significand, Nat.pow 2 (-x.exponent).toNat)

/-- The number nearest to a whole number. -/
def ofNat (n : Nat) : Binary64 :=
  ofRatio false n 1

/-- The rounded product of two numbers; the second is finite and not zero. -/
def mul (x y : Binary64) : Binary64 :=
  let negative := x.isNegative != y.isNegative
  if !x.isFinite then infinity negative
  else
    let (xNum, xDen) := x.ratio
    let (yNum, yDen) := y.ratio
    ofRatio negative (xNum * yNum) (xDen * yDen)

/-- The rounded quotient of two numbers; the second is finite and not zero. -/
def div (x y : Binary64) : Binary64 :=
  let negative := x.isNegative != y.isNegative
  if !x.isFinite then infinity negative
  else
    let (xNum, xDen) := x.ratio
    let (yNum, yDen) := y.ratio
    ofRatio negative (xNum * yDen) (xDen * yNum)

/-- The number with the opposite sign. -/
def neg (x : Binary64) : Binary64 :=
  ⟨x.bits ^^^ 0x8000000000000000⟩

/-- The number nearest to a power of ten. -/
def tenPower (k : Nat) : Binary64 :=
  ofNat (Nat.pow 10 k)

end Binary64

end UtilityBilling.Number
