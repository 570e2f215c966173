/-
# Percent encoding

A byte is percent-encoded as a percent sign and its two hexadecimal digits. Which
characters are encoded depends on the part of a url; characters outside ASCII are
encoded everywhere, by the bytes of their UTF-8 form.
-/

import UtilityBilling.Text.Utf8

namespace UtilityBilling.Url

open UtilityBilling.Text

/-- A capital hexadecimal digit. -/
def hexDigit (n : Nat) : Char :=
  if n < 10 then Char.ofNat (48 + n) else Char.ofNat (55 + n)

/-- The encoded form of a byte. -/
def encodeByte (byte : UInt8) : List Char :=
  ['%', hexDigit (byte.toNat / 16), hexDigit (byte.toNat % 16)]

/-- A character, encoded if the set asks for it. -/
def encodeChar (isEncoded : Char → Bool) (c : Char) : List Char :=
  if isEncoded c then (String.utf8EncodeChar c).flatMap encodeByte else [c]

/-- A text with the characters of a set encoded. -/
def encodeText (isEncoded : Char → Bool) (text : List Char) : List Char :=
  text.flatMap (encodeChar isEncoded)

/-- Controls and all that is not ASCII. -/
def isControlOrForeign (c : Char) : Bool :=
  c.toNat < 0x20 || 0x7F ≤ c.toNat

/-- What is encoded in a fragment. -/
def inFragmentSet (c : Char) : Bool :=
  isControlOrForeign c || c == ' ' || c == '"' || c == '<' || c == '>' || c == '\x60'

/-- What is encoded in a path. -/
def inPathSet (c : Char) : Bool :=
  inFragmentSet c || c == '#' || c == '?' || c == '\x7b' || c == '\x7d'

/-- What is encoded in a user name or a password. -/
def inUserSet (c : Char) : Bool :=
  inPathSet c || c == '/' || c == ':' || c == ';' || c == '=' || c == '@' ||
    c == '[' || c == '\\' || c == ']' || c == '^' || c == '|'

/-- What is encoded in a query. A single quote is encoded where the scheme is one
of the special ones. -/
def inQuerySet (special : Bool) (c : Char) : Bool :=
  isControlOrForeign c || c == ' ' || c == '"' || c == '#' || c == '<' || c == '>' ||
    (special && c == '\x27')

/-- Whether a character stands for itself in a url whatever its place. -/
def isUnreserved (c : Char) : Bool :=
  c.isAlphanum || c == '-' || c == '_' || c == '.' || c == '~'

/-- A text as one segment of a path: everything but the unreserved characters is
encoded. -/
def encodeSegment (text : List Char) : List Char :=
  encodeText (fun c => !isUnreserved c) text

/-- The value of a hexadecimal digit. -/
def hexValue? (byte : UInt8) : Option Nat :=
  if 48 ≤ byte && byte ≤ 57 then some (byte.toNat - 48)
  else if 97 ≤ byte && byte ≤ 102 then some (byte.toNat - 87)
  else if 65 ≤ byte && byte ≤ 70 then some (byte.toNat - 55)
  else none

/-- Bytes with every encoded byte decoded. A percent sign without two digits after
it stays. -/
def decodeBytes : Bytes → Bytes
  | [] => []
  | [a] => [a]
  | [a, b] => [a, b]
  | a :: b :: c :: rest =>
    if a == 37 then
      match hexValue? b, hexValue? c with
      | some high, some low => UInt8.ofNat (high * 16 + low) :: decodeBytes rest
      | _, _ => a :: decodeBytes (b :: c :: rest)
    else a :: decodeBytes (b :: c :: rest)

end UtilityBilling.Url
