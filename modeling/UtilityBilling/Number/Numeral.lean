/-
# Numerals

Reading a bounded whole number from its decimal numeral, with the reason when the
text is none. A numeral has at least one digit, may have leading zeros, and may
carry a plus sign; a minus sign is read only where negative numbers are allowed.
The digits are taken from left to right, so a number that has grown too large is
refused before a later character that is no digit.
-/

namespace UtilityBilling.Number

/-- Why a text is no numeral of the wanted range. -/
inductive NumeralError where
  | empty
  | invalidDigit
  | tooLarge
  | tooSmall
  deriving DecidableEq, Repr

/-- The wording of a numeral error. -/
def NumeralError.message : NumeralError → String
  | .empty => "cannot parse integer from empty string"
  | .invalidDigit => "invalid digit found in string"
  | .tooLarge => "number too large to fit in target type"
  | .tooSmall => "number too small to fit in target type"

/-- The value of a decimal digit. -/
def digit? (c : Char) : Option Nat :=
  if '0' ≤ c ∧ c ≤ '9' then some (c.toNat - '0'.toNat) else none

/-- Continues a number by further digits; `beyond` is the error for a value above
the bound. -/
def extendBy (bound : Nat) (beyond : NumeralError) :
    Nat → List Char → Except NumeralError Nat
  | value, [] => .ok value
  | value, c :: rest =>
    match digit? c with
    | none => .error .invalidDigit
    | some d =>
      let next := value * 10 + d
      if bound < next then .error beyond else extendBy bound beyond next rest

/-- Reads a whole number of at most `bound`. -/
def natural (bound : Nat) (text : List Char) : Except NumeralError Nat :=
  match text with
  | [] => .error .empty
  | ['+'] | ['-'] => .error .invalidDigit
  | '+' :: digits => extendBy bound .tooLarge 0 digits
  | digits => extendBy bound .tooLarge 0 digits

/-- Reads a number between `-(bound + 1)` and `bound`. -/
def integer (bound : Nat) (text : List Char) : Except NumeralError Int :=
  match text with
  | ['+'] | ['-'] => .error .invalidDigit
  | '-' :: digits =>
    (extendBy (bound + 1) .tooSmall 0 digits).map fun n => -(Int.ofNat n)
  | _ => (natural bound text).map Int.ofNat

/-- The largest 32-bit number. -/
def maxUInt32 : Nat := Nat.pow 2 32 - 1

/-- The largest 64-bit number. -/
def maxUInt64 : Nat := Nat.pow 2 64 - 1

/-- The largest signed 64-bit number. -/
def maxInt64 : Nat := Nat.pow 2 63 - 1

/-- A text made at least `width` characters long by blanks in front. -/
def padLeft (width : Nat) (text : List Char) : List Char :=
  List.replicate (width - text.length) ' ' ++ text

/-- The decimal digits of a number, with zeros in front up to `width`. -/
def zeroPadded (width n : Nat) : List Char :=
  let digits := Nat.toDigits 10 n
  List.replicate (width - digits.length) '0' ++ digits

end UtilityBilling.Number
