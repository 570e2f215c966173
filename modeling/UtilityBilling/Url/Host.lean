/-
# Hosts

The host of a url is a domain name, an address of four numbers, or an address of
eight pieces in square brackets. A domain is written in small letters; a label with
characters outside ASCII is written in its ASCII form. A domain whose last label is
a number is an address, or is refused.
-/

import UtilityBilling.Text.Blank
import UtilityBilling.Text.Printable
import UtilityBilling.Text.Utf8
import UtilityBilling.Url.Percent
import UtilityBilling.Url.Punycode

namespace UtilityBilling.Url

open UtilityBilling.Text

/-- Why a text is no url. -/
inductive ParseError where
  | emptyHost
  | badDomain
  | badDomainCharacter
  | badPort
  | badIPv4
  | badIPv6
  | relativeWithoutBase
  | relativeToOpaque
  deriving DecidableEq, Repr

/-- The wording of a parse error. -/
def ParseError.message : ParseError → String
  | .emptyHost => "empty host"
  | .badDomain => "invalid international domain name"
  | .badDomainCharacter => "invalid domain character"
  | .badPort => "invalid port number"
  | .badIPv4 => "invalid IPv4 address"
  | .badIPv6 => "invalid IPv6 address"
  | .relativeWithoutBase => "relative URL without a base"
  | .relativeToOpaque => "relative URL with a cannot-be-a-base base"

/-- The host of a url. -/
inductive Host where
  | domain (name : List Char)
  | ipv4 (address : UInt32)
  | ipv6 (pieces : List Nat)
  deriving DecidableEq, Repr

/-- Whether a character is a digit in a base of at most 16. -/
def isDigitIn (base : Nat) (c : Char) : Bool :=
  match hexValue? (UInt8.ofNat c.toNat) with
  | some d => c.toNat < 0x80 && d < base
  | none => false

/-- The value of a run of digits. -/
def valueIn (base : Nat) (digits : List Char) : Nat :=
  digits.foldl
    (fun value c => value * base + (hexValue? (UInt8.ofNat c.toNat)).getD 0) 0

/-- The base that the start of a number announces, and its digits. -/
def baseOf : List Char → Nat × List Char
  | '0' :: 'x' :: digits => (16, digits)
  | '0' :: 'X' :: digits => (16, digits)
  | '0' :: c :: digits => (8, c :: digits)
  | digits => (10, digits)

/-- The number of a label, in base ten, eight or sixteen. -/
def labelNumber? (label : List Char) : Option Nat :=
  if label.isEmpty then none
  else
    let (base, digits) := baseOf label
    if digits.all (isDigitIn base) then some (valueIn base digits) else none

/-- The labels of a domain without the empty one after a dot at the end. -/
def addressLabels (domain : List Char) : List (List Char) :=
  let labels := splitAll (· == '.') domain
  match labels.getLast? with
  | some [] => labels.dropLast
  | _ => labels

/-- Whether the last label of a domain is a number. -/
def endsInNumber (domain : List Char) : Bool :=
  match (addressLabels domain).getLast? with
  | some last => (!last.isEmpty && last.all Char.isDigit) || (labelNumber? last).isSome
  | none => false

/-- Adds the leading numbers of an address, each one byte, from the first on. -/
def leadingBytes : Nat → List Nat → Option Nat
  | _, [] => some 0
  | place, n :: rest =>
    if 255 < n then none
    else (leadingBytes (place - 1) rest).map fun sum => n * Nat.pow 256 place + sum

/-- The address of a domain whose last label is a number. The last number fills
all the bytes that are left. -/
def ipv4Of? (domain : List Char) : Option UInt32 := do
  let labels := addressLabels domain
  if 4 < labels.length then none
  else
    let numbers ← labels.mapM labelNumber?
    let last ← numbers.getLast?
    let leading := numbers.dropLast
    if Nat.pow 256 (4 - leading.length) ≤ last then none
    else
      let sum ← leadingBytes 3 leading
      some (UInt32.ofNat (sum + last))

/-- Reads up to four hexadecimal digits. -/
def readPiece : Nat → Nat → List Char → Nat × Nat × List Char
  | 0, value, rest => (0, value, rest)
  | _ + 1, value, [] => (0, value, [])
  | more + 1, value, c :: rest =>
    if isDigitIn 16 c then
      let (count, total, after) := readPiece more (value * 16 + valueIn 16 [c]) rest
      (count + 1, total, after)
    else (0, value, c :: rest)

/-- The value of a decimal number of at most 255 without leading zeros. -/
def decimalByte? (digits : List Char) : Option Nat :=
  match digits with
  | [] => none
  | '0' :: _ :: _ => none
  | _ =>
    if digits.all Char.isDigit && digits.length ≤ 3 && valueIn 10 digits ≤ 255 then
      some (valueIn 10 digits)
    else none

/-- The last two pieces of an address that ends in four decimal numbers. -/
def trailingIPv4? (text : List Char) : Option (List Nat) := do
  let bytes ← (splitAll (· == '.') text).mapM decimalByte?
  match bytes with
  | [a, b, c, d] => some [a * 256 + b, c * 256 + d]
  | _ => none

/-- Reads pieces separated by colons, up to a double colon, which is left out. The
result tells whether there was one. The fuel is the number of characters. -/
def readPieces : Nat → List Char → Option (List Nat × Bool × List Char)
  | 0, _ => none
  | fuel + 1, text =>
    let (count, value, rest) := readPiece 4 0 text
    if count = 0 then none
    else
      match rest with
      | [] => some ([value], false, [])
      | ':' :: ':' :: after => some ([value], true, after)
      | ':' :: after =>
        (readPieces fuel after).map fun (pieces, double, left) => (value :: pieces, double, left)
      | '.' :: _ => (trailingIPv4? text).map fun pieces => (pieces, false, [])
      | _ => none

/-- The pieces of an address without its brackets. A double colon stands for as
many zero pieces as are missing, and for at least one. -/
def ipv6Of? (text : List Char) : Option (List Nat) :=
  let tailOf (before : List Nat) (rest : List Char) : Option (List Nat) :=
    let filled (after : List Nat) : Option (List Nat) :=
      let known := before.length + after.length
      if known < 8 then some (before ++ List.replicate (8 - known) 0 ++ after) else none
    if rest.isEmpty then filled []
    else match readPieces (rest.length + 1) rest with
      | some (after, false, _) => filled after
      | _ => none
  match text with
  | ':' :: ':' :: rest => tailOf [] rest
  | _ =>
    match readPieces (text.length + 1) text with
    | some (before, true, rest) => tailOf before rest
    | some (pieces, false, _) => if pieces.length = 8 then some pieces else none
    | none => none

/-- The length of the run of zeros at the start. -/
def zeroRun : List Nat → Nat
  | 0 :: rest => zeroRun rest + 1
  | _ => 0

/-- The first of the longest runs of zeros: its place and its length. -/
def longestZeroRun (pieces : List Nat) : Nat × Nat :=
  (List.range pieces.length).foldl
    (fun best place =>
      let run := zeroRun (pieces.drop place)
      if best.2 < run then (place, run) else best)
    (0, 0)

/-- Pieces in hexadecimal with colons between them. -/
def piecesText (pieces : List Nat) : List Char :=
  (joinWith ":" (pieces.map fun piece => String.ofList (Nat.toDigits 16 piece))).toList

/-- The text of an address of eight pieces; the longest run of two or more zeros
is left out. -/
def ipv6Text (pieces : List Nat) : List Char :=
  let (place, run) := longestZeroRun pieces
  if run < 2 then piecesText pieces
  else
    piecesText (pieces.take place) ++ [':', ':'] ++ piecesText (pieces.drop (place + run))

/-- The text of an address of four numbers. -/
def ipv4Text (address : UInt32) : List Char :=
  let n := address.toNat
  let parts := [n / Nat.pow 2 24, n / Nat.pow 2 16 % 256, n / Nat.pow 2 8 % 256, n % 256]
  (joinWith "." (parts.map toString)).toList

/-- The text of a host. -/
def Host.text : Host → List Char
  | .domain name => name
  | .ipv4 address => ipv4Text address
  | .ipv6 pieces => '[' :: (ipv6Text pieces ++ [']'])

/-- Runs of code points that a domain writes as others: first, last, stride, and
the distance to the code point written. The table goes up to U+1FFB, and has no
character that is written as several. A domain with others of those, as the Kelvin sign
at U+212A, and one whose characters would have to be composed, come out in another form
here than the standard has for them. -/
def foldings : Array (Nat × Nat × Nat × Int) := #[
  (0xAA, 0xAA, 1, -73), (0xB2, 0xB3, 1, -128), (0xB5, 0xB5, 1, 775),
  (0xB9, 0xB9, 1, -136), (0xBA, 0xBA, 1, -75), (0xC0, 0xD6, 1, 32),
  (0xD8, 0xDE, 1, 32), (0x100, 0x12E, 2, 1), (0x134, 0x136, 2, 1),
  (0x139, 0x13D, 2, 1), (0x141, 0x147, 2, 1), (0x14A, 0x176, 2, 1),
  (0x178, 0x178, 1, -121), (0x179, 0x17D, 2, 1), (0x17F, 0x17F, 1, -268),
  (0x181, 0x181, 1, 210), (0x182, 0x184, 2, 1), (0x186, 0x186, 1, 206),
  (0x187, 0x187, 1, 1), (0x189, 0x18A, 1, 205), (0x18B, 0x18B, 1, 1),
  (0x18E, 0x18E, 1, 79), (0x18F, 0x18F, 1, 202), (0x190, 0x190, 1, 203),
  (0x191, 0x191, 1, 1), (0x193, 0x193, 1, 205), (0x194, 0x194, 1, 207),
  (0x196, 0x196, 1, 211), (0x197, 0x197, 1, 209), (0x198, 0x198, 1, 1),
  (0x19C, 0x19C, 1, 211), (0x19D, 0x19D, 1, 213), (0x19F, 0x19F, 1, 214),
  (0x1A0, 0x1A4, 2, 1), (0x1A6, 0x1A6, 1, 218), (0x1A7, 0x1A7, 1, 1),
  (0x1A9, 0x1A9, 1, 218), (0x1AC, 0x1AC, 1, 1), (0x1AE, 0x1AE, 1, 218),
  (0x1AF, 0x1AF, 1, 1), (0x1B1, 0x1B2, 1, 217), (0x1B3, 0x1B5, 2, 1),
  (0x1B7, 0x1B7, 1, 219), (0x1B8, 0x1B8, 1, 1), (0x1BC, 0x1BC, 1, 1),
  (0x1CD, 0x1DB, 2, 1), (0x1DE, 0x1EE, 2, 1), (0x1F4, 0x1F4, 1, 1),
  (0x1F6, 0x1F6, 1, -97), (0x1F7, 0x1F7, 1, -56), (0x1F8, 0x21E, 2, 1),
  (0x220, 0x220, 1, -130), (0x222, 0x232, 2, 1), (0x23A, 0x23A, 1, 10795),
  (0x23B, 0x23B, 1, 1), (0x23D, 0x23D, 1, -163), (0x23E, 0x23E, 1, 10792),
  (0x241, 0x241, 1, 1), (0x243, 0x243, 1, -195), (0x244, 0x244, 1, 69),
  (0x245, 0x245, 1, 71), (0x246, 0x24E, 2, 1), (0x2B0, 0x2B0, 1, -584),
  (0x2B1, 0x2B1, 1, -75), (0x2B2, 0x2B2, 1, -584), (0x2B3, 0x2B3, 1, -577),
  (0x2B4, 0x2B4, 1, -59), (0x2B5, 0x2B5, 1, -58), (0x2B6, 0x2B6, 1, -53),
  (0x2B7, 0x2B7, 1, -576), (0x2B8, 0x2B8, 1, -575), (0x2E0, 0x2E0, 1, -125),
  (0x2E1, 0x2E1, 1, -629), (0x2E2, 0x2E2, 1, -623), (0x2E3, 0x2E3, 1, -619),
  (0x2E4, 0x2E4, 1, -79), (0x343, 0x343, 1, -48), (0x344, 0x344, 1, -67),
  (0x345, 0x345, 1, 116), (0x370, 0x372, 2, 1), (0x374, 0x374, 1, -187),
  (0x376, 0x376, 1, 1), (0x37E, 0x37E, 1, -835), (0x37F, 0x37F, 1, 116),
  (0x386, 0x386, 1, 38), (0x387, 0x387, 1, -720), (0x388, 0x38A, 1, 37),
  (0x38C, 0x38C, 1, 64), (0x38E, 0x38F, 1, 63), (0x391, 0x3A1, 1, 32),
  (0x3A3, 0x3AB, 1, 32), (0x3CF, 0x3CF, 1, 8), (0x3D0, 0x3D0, 1, -30),
  (0x3D1, 0x3D1, 1, -25), (0x3D2, 0x3D2, 1, -13), (0x3D3, 0x3D3, 1, -6),
  (0x3D4, 0x3D4, 1, -9), (0x3D5, 0x3D5, 1, -15), (0x3D6, 0x3D6, 1, -22),
  (0x3D8, 0x3EE, 2, 1), (0x3F0, 0x3F0, 1, -54), (0x3F1, 0x3F1, 1, -48),
  (0x3F2, 0x3F2, 1, -47), (0x3F4, 0x3F4, 1, -60), (0x3F5, 0x3F5, 1, -64),
  (0x3F7, 0x3F7, 1, 1), (0x3F9, 0x3F9, 1, -54), (0x3FA, 0x3FA, 1, 1),
  (0x3FD, 0x3FF, 1, -130), (0x400, 0x40F, 1, 80), (0x410, 0x42F, 1, 32),
  (0x460, 0x480, 2, 1), (0x48A, 0x4BE, 2, 1), (0x4C1, 0x4CD, 2, 1),
  (0x4D0, 0x52E, 2, 1), (0x531, 0x556, 1, 48), (0x10C7, 0x10C7, 1, 7264),
  (0x10CD, 0x10CD, 1, 7264), (0x10FC, 0x10FC, 1, -32), (0x1E00, 0x1E94, 2, 1),
  (0x1E9B, 0x1E9B, 1, -58), (0x1EA0, 0x1EFE, 2, 1), (0x1F08, 0x1F0F, 1, -8),
  (0x1F18, 0x1F1D, 1, -8), (0x1F28, 0x1F2F, 1, -8), (0x1F38, 0x1F3F, 1, -8),
  (0x1F48, 0x1F4D, 1, -8), (0x1F59, 0x1F5F, 2, -8), (0x1F68, 0x1F6F, 1, -8),
  (0x1F71, 0x1F71, 1, -7109), (0x1F73, 0x1F73, 1, -7110),
  (0x1F75, 0x1F75, 1, -7111), (0x1F77, 0x1F77, 1, -7112),
  (0x1F79, 0x1F79, 1, -7085), (0x1F7B, 0x1F7B, 1, -7086),
  (0x1F7D, 0x1F7D, 1, -7087), (0x1FB8, 0x1FB9, 1, -8), (0x1FBA, 0x1FBA, 1, -74),
  (0x1FBB, 0x1FBB, 1, -7183), (0x1FBE, 0x1FBE, 1, -7173),
  (0x1FC8, 0x1FC8, 1, -86), (0x1FC9, 0x1FC9, 1, -7196),
  (0x1FCA, 0x1FCA, 1, -86), (0x1FCB, 0x1FCB, 1, -7197),
  (0x1FD3, 0x1FD3, 1, -7235), (0x1FD8, 0x1FD9, 1, -8),
  (0x1FDA, 0x1FDA, 1, -100), (0x1FDB, 0x1FDB, 1, -7212),
  (0x1FE3, 0x1FE3, 1, -7219), (0x1FE8, 0x1FE9, 1, -8),
  (0x1FEA, 0x1FEA, 1, -112), (0x1FEB, 0x1FEB, 1, -7198),
  (0x1FEC, 0x1FEC, 1, -7), (0x1FEF, 0x1FEF, 1, -8079),
  (0x1FF8, 0x1FF8, 1, -128), (0x1FF9, 0x1FF9, 1, -7213),
  (0x1FFA, 0x1FFA, 1, -126), (0x1FFB, 0x1FFB, 1, -7213)]

/-- The characters that a domain writes for a character. -/
def foldChar (c : Char) : List Char :=
  let code := c.toNat
  if code < 0x80 then [c.toLower]
  else if code == 0x3002 || code == 0xFF0E || code == 0xFF61 then ['.']
  else if code == 0xAD || code == 0x34F || code == 0x200B || code == 0x2060 ||
      code == 0x2064 || code == 0xFEFF || (0xFE00 ≤ code && code ≤ 0xFE0F) then []
  else if 0xFF01 ≤ code && code ≤ 0xFF5E then
    [(Char.ofNat (code - 0xFEE0)).toLower]
  else
    match foldings.find? fun (first, last, stride, _) =>
        first ≤ code && code ≤ last && (code - first) % stride == 0 with
    | some (_, _, _, distance) => [Char.ofNat (code + distance).toNat]
    | none => [c]

/-- The ASCII characters that no domain may contain. -/
def isForbidden (c : Char) : Bool :=
  c.toNat ≤ 0x20 || c.toNat == 0x7F || c == '%' || c == '#' || c == '/' || c == ':' ||
    c == '<' || c == '>' || c == '?' || c == '@' || c == '[' || c == '\\' ||
    c == ']' || c == '^' || c == '|'

/-- Whether a character may stand in a domain. -/
def isDomainChar (c : Char) : Bool :=
  if c.toNat < 0x80 then !isForbidden c else isPrintable c

/-- The ASCII form of a label, if it has one. A label that already claims to be
such a form must be one. -/
def asciiLabel? (label : List Char) : Option (List Char) :=
  if !label.all isDomainChar then none
  else if label.all fun c => c.toNat < 0x80 then
    match label with
    | 'x' :: 'n' :: '-' :: '-' :: form =>
      match Punycode.decode? form with
      | some decoded =>
        if decoded.any (fun c => 0x80 ≤ c.toNat) && decoded.all isDomainChar &&
            decoded.flatMap foldChar == decoded then
          some label
        else none
      | none => none
    | _ => some label
  else some (['x', 'n', '-', '-'] ++ Punycode.encode label)

/-- The ASCII form of a domain, if it has one. -/
def asciiDomain? (domain : List Char) : Option (List Char) :=
  let labels := splitAll (· == '.') (domain.flatMap foldChar)
  (labels.mapM asciiLabel?).map fun forms =>
    (joinWith "." (forms.map String.ofList)).toList

/-- Reads the address between square brackets. -/
def bracketed (text : List Char) : Except ParseError Host :=
  if text.getLast? == some ']' then
    match ipv6Of? text.dropLast with
    | some pieces => .ok (.ipv6 pieces)
    | none => .error .badIPv6
  else .error .badIPv6

/-- Reads the host of a url with one of the special schemes. -/
def specialHost (text : List Char) : Except ParseError Host :=
  match text with
  | '[' :: rest => bracketed rest
  | _ =>
    match (Utf8.decode? (decodeBytes (Utf8.encode text))).bind asciiDomain? with
    | none => .error .badDomain
    | some [] => .error .emptyHost
    | some domain =>
      if endsInNumber domain then
        match ipv4Of? domain with
        | some address => .ok (.ipv4 address)
        | none => .error .badIPv4
      else .ok (.domain domain)

/-- The characters that no host of another scheme may contain. -/
def isForbiddenInOpaque (c : Char) : Bool :=
  c == '\x00' || c == '\t' || c == '\n' || c == '\r' || c == ' ' || c == '#' || c == '/' ||
    c == ':' || c == '<' || c == '>' || c == '?' || c == '@' || c == '[' || c == '\\' ||
    c == ']' || c == '^' || c == '|'

/-- Reads the host of a url with another scheme. -/
def opaqueHost (text : List Char) : Except ParseError Host :=
  match text with
  | '[' :: rest => bracketed rest
  | _ =>
    if text.any isForbiddenInOpaque then .error .badDomainCharacter
    else .ok (.domain (encodeText isControlOrForeign text))

end UtilityBilling.Url
