/-
# UTF-8

Encoding a text as bytes, and two readings of bytes as text. The strict reading
refuses anything that is not the encoding of some text. The lenient reading
never fails: every longest run of bytes that could have started a character, and
every byte that could not, becomes one replacement character.
-/

namespace UtilityBilling.Text

/-- A sequence of bytes. -/
abbrev Bytes := List UInt8

namespace Utf8

/-- The bytes of a text. -/
def encode (text : List Char) : Bytes :=
  text.flatMap String.utf8EncodeChar

/-- The character shown in place of bytes that are not text. -/
def replacement : Char := '\uFFFD'

/-- What a first byte promises: how many bytes follow, its own payload, and the
bounds of the second byte. The bounds exclude overlong forms, surrogates and
values above U+10FFFF. -/
structure Lead where
  following : Nat
  payload : Nat
  low : Nat
  high : Nat

/-- Reads a first byte that starts a character of more than one byte. -/
def lead? (byte : Nat) : Option Lead :=
  if 0xC2 ≤ byte ∧ byte ≤ 0xDF then some ⟨1, byte - 0xC0, 0x80, 0xBF⟩
  else if byte = 0xE0 then some ⟨2, 0, 0xA0, 0xBF⟩
  else if byte = 0xED then some ⟨2, 0xD, 0x80, 0x9F⟩
  else if 0xE1 ≤ byte ∧ byte ≤ 0xEF then some ⟨2, byte - 0xE0, 0x80, 0xBF⟩
  else if byte = 0xF0 then some ⟨3, 0, 0x90, 0xBF⟩
  else if byte = 0xF4 then some ⟨3, 4, 0x80, 0x8F⟩
  else if 0xF1 ≤ byte ∧ byte ≤ 0xF3 then some ⟨3, byte - 0xF0, 0x80, 0xBF⟩
  else none

/-- One unit of a reading: a character, or bytes that are not one. -/
inductive Unit8 where
  | char (c : Char)
  | junk
  deriving DecidableEq, Repr

/-- Reads bytes into characters and junk, keeping the character under way: how
many bytes are still to come, the value so far, and the bounds of the next. -/
def units : Option Lead → Bytes → List Unit8
  | none, [] => []
  | some _, [] => [.junk]
  | none, byte :: rest =>
    if byte.toNat < 0x80 then .char (Char.ofNat byte.toNat) :: units none rest
    else match lead? byte.toNat with
      | some lead => units (some lead) rest
      | none => .junk :: units none rest
  | some lead, byte :: rest =>
    if lead.low ≤ byte.toNat ∧ byte.toNat ≤ lead.high then
      let payload := lead.payload * 64 + (byte.toNat - 0x80)
      if lead.following = 1 then .char (Char.ofNat payload) :: units none rest
      else units (some ⟨lead.following - 1, payload, 0x80, 0xBF⟩) rest
    else if byte.toNat < 0x80 then
      .junk :: .char (Char.ofNat byte.toNat) :: units none rest
    else match lead? byte.toNat with
      | some next => .junk :: units (some next) rest
      | none => .junk :: .junk :: units none rest

/-- The text that bytes encode, if they encode one. -/
def decode? (bytes : Bytes) : Option (List Char) :=
  (units none bytes).mapM fun
    | .char c => some c
    | .junk => none

/-- The text of bytes with a replacement character for all that is not text. -/
def decodeLossy (bytes : Bytes) : List Char :=
  (units none bytes).map fun
    | .char c => c
    | .junk => replacement

end Utf8

/-- The bytes of a string. -/
def bytesOf (text : String) : Bytes :=
  Utf8.encode text.toList

/-- The string that bytes encode, if they encode one. -/
def string? (bytes : Bytes) : Option String :=
  (Utf8.decode? bytes).map String.ofList

end UtilityBilling.Text
