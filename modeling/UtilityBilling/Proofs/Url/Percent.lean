/-
# What percent encoding keeps

Encoded text consists of characters outside the set that is encoded and of the characters that
encoded bytes are written with. Encoding it again therefore changes nothing, and decoding a
segment gives the bytes of its text back, so that different texts have different segments.
-/

import UtilityBilling.Proofs.Text.Utf8
import UtilityBilling.Url.Percent

namespace UtilityBilling.Url

open UtilityBilling.Text

variable {isEncoded : Char → Bool} {text : List Char} {c : Char}

/-- The characters that encoded bytes are written with. -/
def codeChars : List Char :=
  ['%', '0', '1', '2', '3', '4', '5', '6', '7', '8', '9', 'A', 'B', 'C', 'D', 'E', 'F']

theorem hexDigit_mem_codeChars {n : Nat} (small : n < 16) : hexDigit n ∈ codeChars := by
  have all : ∀ n : Fin 16, hexDigit n ∈ codeChars := by decide
  exact all ⟨n, small⟩

theorem mem_codeChars_of_mem_encodeByte {byte : UInt8} (within : c ∈ encodeByte byte) :
    c ∈ codeChars := by
  have := byte.toNat_lt
  simp only [encodeByte, List.mem_cons, List.not_mem_nil, or_false] at within
  rcases within with rfl | rfl | rfl
  · decide
  · exact hexDigit_mem_codeChars (by omega)
  · exact hexDigit_mem_codeChars (by omega)

/-- A character of encoded text was not to be encoded, or belongs to an encoded byte. -/
theorem mem_encodeText (within : c ∈ encodeText isEncoded text) :
    (c ∈ text ∧ isEncoded c = false) ∨ c ∈ codeChars := by
  obtain ⟨original, here, inside⟩ := List.mem_flatMap.mp within
  rw [encodeChar] at inside
  split at inside
  case isTrue =>
    obtain ⟨byte, -, code⟩ := List.mem_flatMap.mp inside
    exact .inr (mem_codeChars_of_mem_encodeByte code)
  case isFalse kept =>
    obtain rfl := List.mem_singleton.mp inside
    exact .inl ⟨here, Bool.eq_false_iff.mpr kept⟩

/-- Text without characters to encode stays as it is. -/
theorem encodeText_eq_self (plain : ∀ c ∈ text, isEncoded c = false) :
    encodeText isEncoded text = text := by
  induction text with
  | nil => rfl
  | cons c text ih =>
      obtain ⟨first, rest⟩ := List.forall_mem_cons.mp plain
      rw [encodeText, List.flatMap_cons, encodeChar, first, if_neg Bool.false_ne_true,
        ← encodeText, ih rest]
      rfl

theorem encodeChar_ne_nil (isEncoded : Char → Bool) (c : Char) : encodeChar isEncoded c ≠ [] := by
  rw [encodeChar]
  split
  case isTrue =>
    obtain ⟨byte, rest, bytes⟩ := List.exists_cons_of_ne_nil (String.utf8EncodeChar_ne_nil (c := c))
    rw [bytes]
    exact List.cons_ne_nil _ _
  case isFalse => exact List.cons_ne_nil _ _

theorem encodeText_eq_nil_iff : encodeText isEncoded text = [] ↔ text = [] := by
  cases text with
  | nil => exact iff_of_true rfl rfl
  | cons c text =>
      refine iff_of_false (fun empty => ?_) (List.cons_ne_nil _ _)
      rw [encodeText, List.flatMap_cons, List.append_eq_nil_iff] at empty
      exact encodeChar_ne_nil isEncoded c empty.1

theorem decodeBytes_cons {byte : UInt8} (plain : byte ≠ 37) (rest : Bytes) :
    decodeBytes (byte :: rest) = byte :: decodeBytes rest := by
  match rest with
  | [] => rfl
  | [_] => rfl
  | _ :: _ :: _ => rw [decodeBytes, if_neg (by simpa using plain)]

/-- An encoded byte is decoded to itself. -/
theorem decodeBytes_encodeByte (byte : UInt8) (rest : Bytes) :
    decodeBytes (Utf8.encode (encodeByte byte) ++ rest) = byte :: decodeBytes rest := by
  have digit : ∀ n : Fin 16,
      String.utf8EncodeChar (hexDigit n) = [UInt8.ofNat (hexDigit n).toNat] ∧
        hexValue? (UInt8.ofNat (hexDigit n).toNat) = some n.val := by
    decide
  have := byte.toNat_lt
  obtain ⟨highCode, highValue⟩ := digit ⟨byte.toNat / 16, by omega⟩
  obtain ⟨lowCode, lowValue⟩ := digit ⟨byte.toNat % 16, by omega⟩
  have bytes : Utf8.encode (encodeByte byte) = [37, UInt8.ofNat (hexDigit (byte.toNat / 16)).toNat,
      UInt8.ofNat (hexDigit (byte.toNat % 16)).toNat] := by
    rw [Utf8.encode, encodeByte, List.flatMap_cons, List.flatMap_cons, List.flatMap_cons,
      highCode, lowCode]
    rfl
  rw [bytes, List.cons_append, List.cons_append, List.cons_append, List.nil_append, decodeBytes,
    if_pos (beq_self_eq_true _), highValue, lowValue]
  dsimp only
  rw [Nat.div_add_mod', UInt8.ofNat_toNat]

theorem decodeBytes_encodeBytes (bytes rest : Bytes) :
    decodeBytes (Utf8.encode (bytes.flatMap encodeByte) ++ rest) = bytes ++ decodeBytes rest := by
  induction bytes with
  | nil => rfl
  | cons byte bytes ih =>
      rw [List.flatMap_cons, Utf8.encode_append, List.append_assoc, decodeBytes_encodeByte, ih]
      rfl

/-- An unreserved character belongs to ASCII. -/
theorem ascii_of_unreserved (unreserved : isUnreserved c = true) : c.toNat < 0x80 := by
  rw [isUnreserved] at unreserved
  delta Char.isAlphanum Char.isAlpha Char.isUpper Char.isLower Char.isDigit at unreserved
  simp only [Bool.or_eq_true, Bool.and_eq_true, decide_eq_true_eq, beq_iff_eq,
    UInt32.le_iff_toNat_le, ge_iff_le] at unreserved
  change c.val.toNat < 0x80
  rcases unreserved with ((((((range | range) | range) | rfl) | rfl) | rfl) | rfl)
  · exact Nat.lt_of_le_of_lt range.2 (by decide)
  · exact Nat.lt_of_le_of_lt range.2 (by decide)
  · exact Nat.lt_of_le_of_lt range.2 (by decide)
  all_goals decide

/-- An ASCII character other than the percent sign is one byte, and not that of the sign. -/
theorem encodeChar_plain (ascii : c.toNat < 0x80) (other : c ≠ '%') :
    String.utf8EncodeChar c = [UInt8.ofNat c.toNat] ∧ UInt8.ofNat c.toNat ≠ 37 := by
  refine ⟨Utf8.encodeChar_ascii ascii, fun percent => other ?_⟩
  have code : c.toNat = 37 := by
    have := congrArg UInt8.toNat percent
    rwa [UInt8.toNat_ofNat', Nat.mod_eq_of_lt (by omega)] at this
  exact Char.toNat_inj.mp code

/-- ASCII text without percent signs holds nothing to decode. -/
theorem decodeBytes_plain (plain : ∀ c ∈ text, c.toNat < 0x80 ∧ c ≠ '%') :
    decodeBytes (Utf8.encode text) = Utf8.encode text := by
  induction text with
  | nil => rfl
  | cons c text ih =>
      obtain ⟨⟨ascii, other⟩, rest⟩ := List.forall_mem_cons.mp plain
      obtain ⟨single, noPercent⟩ := encodeChar_plain ascii other
      rw [Utf8.encode, List.flatMap_cons, single, ← Utf8.encode, List.singleton_append,
        decodeBytes_cons noPercent, ih rest]

theorem decodeBytes_encodeChar (c : Char) (rest : Bytes) :
    decodeBytes (Utf8.encode (encodeChar (fun c => !isUnreserved c) c) ++ rest) =
      String.utf8EncodeChar c ++ decodeBytes rest := by
  rw [encodeChar]
  cases unreserved : isUnreserved c with
  | false => exact decodeBytes_encodeBytes (String.utf8EncodeChar c) rest
  | true =>
      obtain ⟨byte, plain⟩ := encodeChar_plain (ascii_of_unreserved unreserved)
        (by rintro rfl; exact absurd unreserved (by decide))
      have single : Utf8.encode [c] = String.utf8EncodeChar c := List.append_nil _
      rw [Bool.not_true, if_neg Bool.false_ne_true, single, byte]
      exact decodeBytes_cons plain rest

/-- Decoding a segment gives the bytes of its text back. -/
theorem decodeBytes_encodeSegment (text : List Char) :
    decodeBytes (Utf8.encode (encodeSegment text)) = Utf8.encode text := by
  induction text with
  | nil => rfl
  | cons c text ih =>
      rw [encodeSegment, encodeText, List.flatMap_cons, Utf8.encode_append, decodeBytes_encodeChar,
        ← encodeText, ← encodeSegment, ih]
      rfl

theorem encodeSegment_injective : Function.Injective encodeSegment := by
  intro first second same
  apply Utf8.encode_injective
  rw [← decodeBytes_encodeSegment, same, decodeBytes_encodeSegment]

/-- A segment consists of unreserved characters and of encoded bytes. -/
theorem mem_encodeSegment (within : c ∈ encodeSegment text) :
    isUnreserved c = true ∨ c ∈ codeChars :=
  (mem_encodeText within).imp_left fun kept => by simpa using kept.2

end UtilityBilling.Url
