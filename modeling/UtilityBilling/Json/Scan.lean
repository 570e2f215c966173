/-
# Scanning JSON tokens

The leaves of a JSON text: blanks, words, numbers and strings. A whole number
keeps its value while it fits in 64 bits. Any other number is computed in floating
point from its first digits that fit in 64 bits and its decimal exponent: the
digits are rounded once, then multiplied or divided by a power of ten.
-/

import UtilityBilling.Json.Fault
import UtilityBilling.Json.Value

namespace UtilityBilling.Json

open UtilityBilling.Number UtilityBilling.Text

/-- Whether a byte is a blank between tokens. -/
def isSpace (byte : UInt8) : Bool :=
  byte == 32 || byte == 10 || byte == 9 || byte == 13

/-- Drops the blanks before a token. -/
def skipSpace (rest : Bytes) : Bytes :=
  rest.dropWhile isSpace

/-- The value of a byte that is a decimal digit. -/
def digitOf? (byte : UInt8) : Option Nat :=
  if 48 ≤ byte && byte ≤ 57 then some (byte.toNat - 48) else none

/-- Whether a byte is a decimal digit. -/
def isDigitByte (byte : UInt8) : Bool :=
  (digitOf? byte).isSome

/-- Whether the rest starts with a byte of a kind. -/
def startsWith (isWanted : UInt8 → Bool) : Bytes → Bool
  | [] => false
  | byte :: _ => isWanted byte

/-- Whether a byte starts an exponent. -/
def isExponentMark (byte : UInt8) : Bool :=
  byte == 101 || byte == 69

/-- Reads the given bytes of a word. -/
def readWord : Bytes → Bytes → Except Fault Bytes
  | [], rest => .ok rest
  | _ :: _, [] => failHere .endInValue []
  | want :: wanted, byte :: rest =>
    if want == byte then readWord wanted rest else failHere .expectedIdent rest

/-- The word `null` after its first letter. -/
def nullTail : Bytes := [117, 108, 108]

/-- The word `true` after its first letter. -/
def trueTail : Bytes := [114, 117, 101]

/-- The word `false` after its first letter. -/
def falseTail : Bytes := [97, 108, 115, 101]

/-- The number with given leading digits and decimal exponent. Dividing by more
than the largest power of ten below the greatest number takes several steps;
`steps` bounds them. -/
def scaleByTen : Nat → Binary64 → Int → Option Binary64
  | 0, x, _ => some x
  | steps + 1, x, exponent =>
    if exponent.natAbs ≤ 308 then
      let power := Binary64.tenPower exponent.natAbs
      if 0 ≤ exponent then
        let product := x.mul power
        if product.isFinite then some product else none
      else some (x.div power)
    else if x.significand = 0 then some x
    else if 0 ≤ exponent then none
    else scaleByTen steps (x.div (Binary64.tenPower 308)) (exponent + 308)

/-- The floating-point number with a sign, leading digits and an exponent. -/
def floatOf (negative : Bool) (digits : Nat) (exponent : Int) (rest : Bytes) :
    Read Binary64 :=
  match scaleByTen 10 (Binary64.ofNat digits) exponent with
  | some magnitude => .ok (if negative then magnitude.neg else magnitude, rest)
  | none => failHere .numberOutOfRange rest

/-- The largest exponent that is kept exactly. -/
def maxExponent : Nat := Nat.pow 2 31 - 1

/-- Reads the further digits of an exponent. When it grows too large the reading
stops after the digit with which it did. -/
def exponentDigits : Nat → Bytes → Except Bytes (Nat × Bytes)
  | value, [] => .ok (value, [])
  | value, byte :: rest =>
    match digitOf? byte with
    | none => .ok (value, byte :: rest)
    | some d =>
      if maxExponent < value * 10 + d then .error rest
      else exponentDigits (value * 10 + d) rest

/-- Reads the digits of an exponent after its sign. -/
def readExponentDigits (negative : Bool) (digits : Nat) (scale : Int)
    (negativeExponent : Bool) : Bytes → Read Binary64
  | [] => failHere .endInValue []
  | byte :: rest =>
    match digitOf? byte with
    | none => failHere .invalidNumber rest
    | some first =>
      match exponentDigits first rest with
      | .ok (value, after) =>
        floatOf negative digits
          (if negativeExponent then scale - value else scale + value) after
      | .error after =>
        if digits != 0 && !negativeExponent then failHere .numberOutOfRange after
        else .ok (Binary64.zero negative, after.dropWhile isDigitByte)

/-- Reads an exponent that starts with its mark. -/
def readExponent (negative : Bool) (digits : Nat) (scale : Int) (rest : Bytes) :
    Read Binary64 :=
  match rest.drop 1 with
  | 43 :: after => readExponentDigits negative digits scale false after
  | 45 :: after => readExponentDigits negative digits scale true after
  | after => readExponentDigits negative digits scale false after

/-- Ends a number whose digits are read: an exponent may follow. -/
def finishFloat (negative : Bool) (digits : Nat) (scale : Int) (rest : Bytes) :
    Read Binary64 :=
  if startsWith isExponentMark rest then readExponent negative digits scale rest
  else floatOf negative digits scale rest

/-- The digits after a point that still fit, how many they are, and the rest;
later digits are dropped. -/
def placesOf : Nat → Nat → Bytes → Nat × Nat × Bytes
  | digits, places, [] => (digits, places, [])
  | digits, places, byte :: rest =>
    match digitOf? byte with
    | none => (digits, places, byte :: rest)
    | some d =>
      if maxUInt64 < digits * 10 + d then
        (digits, places, (byte :: rest).dropWhile isDigitByte)
      else placesOf (digits * 10 + d) (places + 1) rest

/-- Reads the places after a point, which starts the rest. A point needs a digit
after it unless digits were dropped there. -/
def readPlaces (negative : Bool) (digits : Nat) (scale : Int) (rest : Bytes) :
    Read Binary64 :=
  let start := rest.drop 1
  let (all, places, after) := placesOf digits 0 start
  if places = 0 && after.length == start.length then
    failNext (if after.isEmpty then .endInValue else .invalidNumber) after
  else finishFloat negative all (scale - places) after

/-- Reads a number whose whole part no longer fits: only its length counts. -/
def readLongWhole (negative : Bool) (digits : Nat) (rest : Bytes) : Read Binary64 :=
  let dropped := (rest.takeWhile isDigitByte).length
  let after := rest.dropWhile isDigitByte
  if startsWith (· == 46) after then readPlaces negative digits dropped after
  else finishFloat negative digits dropped after

/-- A whole number, or a floating-point one when it is too small or is the
negative zero. -/
def wholeOf (negative : Bool) (digits : Nat) : Num :=
  if !negative then .whole digits
  else if digits = 0 ∨ maxInt64 + 1 < digits then .float (Binary64.ofNat digits).neg
  else .whole (-(digits : Int))

/-- Ends a number whose whole part is read and fits. -/
def finishNumber (negative : Bool) (digits : Nat) (rest : Bytes) : Read Num :=
  if startsWith (· == 46) rest then
    (readPlaces negative digits 0 rest).map fun (x, after) => (.float x, after)
  else if startsWith isExponentMark rest then
    (readExponent negative digits 0 rest).map fun (x, after) => (.float x, after)
  else .ok (wholeOf negative digits, rest)

/-- Reads further digits of a whole part. -/
def readWhole (negative : Bool) : Nat → Bytes → Read Num
  | digits, [] => finishNumber negative digits []
  | digits, byte :: rest =>
    match digitOf? byte with
    | none => finishNumber negative digits (byte :: rest)
    | some d =>
      if maxUInt64 < digits * 10 + d then
        (readLongWhole negative digits (byte :: rest)).map
          fun (x, after) => (.float x, after)
      else readWhole negative (digits * 10 + d) rest

/-- Reads a number after its sign. A leading zero stands alone. -/
def readNumber (negative : Bool) : Bytes → Read Num
  | [] => failHere .endInValue []
  | byte :: rest =>
    match digitOf? byte with
    | none => failHere .invalidNumber rest
    | some 0 =>
      if startsWith isDigitByte rest then failNext .invalidNumber rest
      else finishNumber negative 0 rest
    | some d => readWhole negative d rest

/-- The value of a hexadecimal digit. -/
def hexOf? (byte : UInt8) : Option Nat :=
  if 48 ≤ byte && byte ≤ 57 then some (byte.toNat - 48)
  else if 97 ≤ byte && byte ≤ 102 then some (byte.toNat - 87)
  else if 65 ≤ byte && byte ≤ 70 then some (byte.toNat - 55)
  else none

/-- Reads the four hexadecimal digits of an escape. -/
def readHex : Bytes → Read Nat
  | a :: b :: c :: d :: rest =>
    match hexOf? a, hexOf? b, hexOf? c, hexOf? d with
    | some a, some b, some c, some d => .ok (((a * 16 + b) * 16 + c) * 16 + d, rest)
    | _, _, _, _ => failHere .invalidEscape rest
  | _ => failHere .endInString []

/-- Reads the second half of a pair of surrogates. -/
def readLowSurrogate (high : Nat) : Bytes → Read Char
  | [] => failHere .endInString []
  | 92 :: [] => failHere .endInString []
  | 92 :: 117 :: rest =>
    match readHex rest with
    | .error fault => .error fault
    | .ok (low, after) =>
      if low < 0xDC00 || 0xDFFF < low then failHere .loneSurrogate after
      else .ok (Char.ofNat ((high - 0xD800) * 1024 + (low - 0xDC00) + 0x10000), after)
  | 92 :: _ :: rest => failHere .unexpectedEndOfHexEscape rest
  | _ :: rest => failHere .unexpectedEndOfHexEscape rest

/-- Reads the digits of an escape by code, and of the other half where the code
is the first half of a pair. -/
def readCode (rest : Bytes) : Read Char :=
  match readHex rest with
  | .error fault => .error fault
  | .ok (code, after) =>
    if 0xDC00 ≤ code && code ≤ 0xDFFF then failHere .loneSurrogate after
    else if 0xD800 ≤ code && code ≤ 0xDBFF then readLowSurrogate code after
    else .ok (Char.ofNat code, after)

/-- The character that a short escape stands for. -/
def shortEscape? (byte : UInt8) : Option Char :=
  if byte == 34 then some '"'
  else if byte == 92 then some '\\'
  else if byte == 47 then some '/'
  else if byte == 98 then some '\x08'
  else if byte == 102 then some '\x0c'
  else if byte == 110 then some '\n'
  else if byte == 114 then some '\r'
  else if byte == 116 then some '\t'
  else none

/-- Reads an escape after its backslash. -/
def readEscape : Bytes → Read Char
  | [] => failHere .endInString []
  | byte :: rest =>
    match shortEscape? byte with
    | some c => .ok (c, rest)
    | none => if byte == 117 then readCode rest else failHere .invalidEscape rest

/-- Reads a string after its opening quote, collecting its bytes in reverse. The
fuel is the number of bytes left. -/
def readStringFrom : Nat → Bytes → Bytes → Read String
  | 0, _, rest => failHere .endInString rest
  | _ + 1, _, [] => failHere .endInString []
  | fuel + 1, held, byte :: rest =>
    if byte == 34 then
      match string? held.reverse with
      | some text => .ok (text, rest)
      | none => failHere .invalidCodePoint rest
    else if byte == 92 then
      match readEscape rest with
      | .error fault => .error fault
      | .ok (c, after) =>
        readStringFrom fuel ((String.utf8EncodeChar c).reverse ++ held) after
    else if byte < 32 then failHere .controlCharacter rest
    else readStringFrom fuel (byte :: held) rest

/-- Reads a string after its opening quote. -/
def readString (rest : Bytes) : Read String :=
  readStringFrom (rest.length + 1) [] rest

/-- Passes over an exponent that starts with its mark. -/
def passExponent (rest : Bytes) : Except Fault Bytes :=
  let signed := match rest.drop 1 with
    | 43 :: after => after
    | 45 :: after => after
    | after => after
  match signed with
  | [] => failHere .invalidNumber []
  | byte :: after =>
    if isDigitByte byte then .ok (after.dropWhile isDigitByte)
    else failHere .invalidNumber after

/-- Passes over what may follow the whole part of a number. -/
def passPlaces (rest : Bytes) : Except Fault Bytes :=
  match rest with
  | 46 :: places =>
    let after := places.dropWhile isDigitByte
    if after.length == places.length then failNext .invalidNumber after
    else if startsWith isExponentMark after then passExponent after
    else .ok after
  | _ => if startsWith isExponentMark rest then passExponent rest else .ok rest

/-- Passes over a number after its sign. -/
def passNumber : Bytes → Except Fault Bytes
  | [] => failHere .invalidNumber []
  | byte :: rest =>
    match digitOf? byte with
    | none => failHere .invalidNumber rest
    | some 0 =>
      if startsWith isDigitByte rest then failNext .invalidNumber rest
      else passPlaces rest
    | some _ => passPlaces (rest.dropWhile isDigitByte)

/-- Passes over a string after its opening quote; its characters and its escapes
by code may be anything. -/
def passStringFrom : Nat → Bytes → Except Fault Bytes
  | 0, rest => failHere .endInString rest
  | _ + 1, [] => failHere .endInString []
  | fuel + 1, byte :: rest =>
    if byte == 34 then .ok rest
    else if byte == 92 then
      match rest with
      | [] => failHere .endInString []
      | kind :: after =>
        if (shortEscape? kind).isSome then passStringFrom fuel after
        else if kind == 117 then
          match readHex after with
          | .error fault => .error fault
          | .ok (_, beyond) => passStringFrom fuel beyond
        else failHere .invalidEscape after
    else if byte < 32 then failHere .controlCharacter (byte :: rest)
    else passStringFrom fuel rest

/-- Passes over a string after its opening quote. -/
def passString (rest : Bytes) : Except Fault Bytes :=
  passStringFrom (rest.length + 1) rest

end UtilityBilling.Json
