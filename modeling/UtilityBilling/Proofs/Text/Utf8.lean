/-
# Texts come back from their bytes

The encoding of a character starts with a byte that promises how many follow, and every one
that follows lies within the bounds that the bytes before it set. The strict reading therefore
reads the bytes of a text as this text.
-/

import UtilityBilling.Text.Utf8

namespace UtilityBilling.Text.Utf8

variable {byte : UInt8} {lead : Lead}

theorem units_single (small : byte.toNat < 0x80) (rest : Bytes) :
    units none (byte :: rest) = .char (Char.ofNat byte.toNat) :: units none rest := by
  rw [units, if_pos small]

theorem units_lead (large : 0x80 ≤ byte.toNat) (leads : lead? byte.toNat = some lead)
    (rest : Bytes) : units none (byte :: rest) = units (some lead) rest := by
  rw [units, if_neg (Nat.not_lt.mpr large), leads]

theorem units_last (within : lead.low ≤ byte.toNat ∧ byte.toNat ≤ lead.high)
    (last : lead.following = 1) (rest : Bytes) :
    units (some lead) (byte :: rest) =
      .char (Char.ofNat (lead.payload * 64 + (byte.toNat - 0x80))) :: units none rest := by
  rw [units, if_pos within]
  exact if_pos last

theorem units_more (within : lead.low ≤ byte.toNat ∧ byte.toNat ≤ lead.high)
    (more : lead.following ≠ 1) (rest : Bytes) :
    units (some lead) (byte :: rest) =
      units (some ⟨lead.following - 1, lead.payload * 64 + (byte.toNat - 0x80), 0x80, 0xBF⟩)
        rest := by
  rw [units, if_pos within]
  exact if_neg more

theorem toNat_ofNat {n : Nat} (fits : n < 256) : (UInt8.ofNat n).toNat = n :=
  Nat.mod_eq_of_lt fits

variable (n : Nat)

/-- Two bytes make a character. -/
theorem units_two (low : 0x80 ≤ n) (high : n < 0x800) (rest : Bytes) :
    units none (UInt8.ofNat (n / 64 % 32 + 192) :: UInt8.ofNat (n % 64 + 128) :: rest) =
      .char (Char.ofNat n) :: units none rest := by
  have leads : lead? (UInt8.ofNat (n / 64 % 32 + 192)).toNat = some ⟨1, n / 64, 0x80, 0xBF⟩ := by
    rw [toNat_ofNat (by omega), lead?, if_pos (by omega),
      show n / 64 % 32 + 192 - 0xC0 = n / 64 by omega]
  have second : (UInt8.ofNat (n % 64 + 128)).toNat = n % 64 + 128 := toNat_ofNat (by omega)
  rw [units_lead (by rw [toNat_ofNat] <;> omega) leads,
    units_last (by rw [second]; dsimp only; omega) rfl, second]
  dsimp only
  rw [show n / 64 * 64 + (n % 64 + 128 - 0x80) = n by omega]

/-- The first of three bytes sets bounds that the second keeps. -/
theorem lead?_three (low : 0x800 ≤ n) (high : n < 0x10000) (valid : n < 0xD800 ∨ 0xDFFF < n) :
    ∃ least most, lead? (n / 4096 % 16 + 224) = some ⟨2, n / 4096, least, most⟩ ∧
      least ≤ n / 64 % 64 + 128 ∧ n / 64 % 64 + 128 ≤ most := by
  have first : n / 4096 % 16 = n / 4096 := by omega
  rw [first, lead?, if_neg (by omega)]
  by_cases zero : n / 4096 = 0
  · exact ⟨0xA0, 0xBF, by rw [if_pos (by omega), zero], by omega, by omega⟩
  · rw [if_neg (by omega)]
    by_cases surrogates : n / 4096 = 0xD
    · exact ⟨0x80, 0x9F, by rw [if_pos (by omega), surrogates], by omega, by omega⟩
    · refine ⟨0x80, 0xBF, ?_, by omega, by omega⟩
      rw [if_neg (by omega), if_pos (by omega), show n / 4096 + 224 - 0xE0 = n / 4096 by omega]

/-- Three bytes make a character. -/
theorem units_three (low : 0x800 ≤ n) (high : n < 0x10000) (valid : n < 0xD800 ∨ 0xDFFF < n)
    (rest : Bytes) :
    units none (UInt8.ofNat (n / 4096 % 16 + 224) :: UInt8.ofNat (n / 64 % 64 + 128) ::
        UInt8.ofNat (n % 64 + 128) :: rest) =
      .char (Char.ofNat n) :: units none rest := by
  obtain ⟨least, most, leads, within⟩ := lead?_three n low high valid
  rw [← toNat_ofNat (show n / 4096 % 16 + 224 < 256 by omega)] at leads
  have second : (UInt8.ofNat (n / 64 % 64 + 128)).toNat = n / 64 % 64 + 128 :=
    toNat_ofNat (by omega)
  have third : (UInt8.ofNat (n % 64 + 128)).toNat = n % 64 + 128 := toNat_ofNat (by omega)
  rw [units_lead (by rw [toNat_ofNat] <;> omega) leads,
    units_more (by rw [second]; exact within) (by simp), second,
    units_last (by rw [third]; dsimp only; omega) rfl, third]
  dsimp only
  rw [show (n / 4096 * 64 + (n / 64 % 64 + 128 - 0x80)) * 64 + (n % 64 + 128 - 0x80) = n by omega]

/-- The first of four bytes sets bounds that the second keeps. -/
theorem lead?_four (low : 0x10000 ≤ n) (high : n < 0x110000) :
    ∃ least most, lead? (n / 262144 % 8 + 240) = some ⟨3, n / 262144, least, most⟩ ∧
      least ≤ n / 4096 % 64 + 128 ∧ n / 4096 % 64 + 128 ≤ most := by
  have first : n / 262144 % 8 = n / 262144 := by omega
  rw [first, lead?, if_neg (by omega), if_neg (by omega), if_neg (by omega), if_neg (by omega)]
  by_cases zero : n / 262144 = 0
  · exact ⟨0x90, 0xBF, by rw [if_pos (by omega), zero], by omega, by omega⟩
  · rw [if_neg (by omega)]
    by_cases top : n / 262144 = 4
    · exact ⟨0x80, 0x8F, by rw [if_pos (by omega), top], by omega, by omega⟩
    · refine ⟨0x80, 0xBF, ?_, by omega, by omega⟩
      rw [if_neg (by omega), if_pos (by omega),
        show n / 262144 + 240 - 0xF0 = n / 262144 by omega]

/-- Four bytes make a character. -/
theorem units_four (low : 0x10000 ≤ n) (high : n < 0x110000) (rest : Bytes) :
    units none (UInt8.ofNat (n / 262144 % 8 + 240) :: UInt8.ofNat (n / 4096 % 64 + 128) ::
        UInt8.ofNat (n / 64 % 64 + 128) :: UInt8.ofNat (n % 64 + 128) :: rest) =
      .char (Char.ofNat n) :: units none rest := by
  obtain ⟨least, most, leads, within⟩ := lead?_four n low high
  rw [← toNat_ofNat (show n / 262144 % 8 + 240 < 256 by omega)] at leads
  have second : (UInt8.ofNat (n / 4096 % 64 + 128)).toNat = n / 4096 % 64 + 128 :=
    toNat_ofNat (by omega)
  have third : (UInt8.ofNat (n / 64 % 64 + 128)).toNat = n / 64 % 64 + 128 :=
    toNat_ofNat (by omega)
  have fourth : (UInt8.ofNat (n % 64 + 128)).toNat = n % 64 + 128 := toNat_ofNat (by omega)
  rw [units_lead (by rw [toNat_ofNat] <;> omega) leads,
    units_more (by rw [second]; exact within) (by simp), second,
    units_more (by rw [third]; dsimp only; omega) (by simp), third,
    units_last (by rw [fourth]; dsimp only; omega) rfl, fourth]
  dsimp only
  rw [show ((n / 262144 * 64 + (n / 4096 % 64 + 128 - 0x80)) * 64 +
    (n / 64 % 64 + 128 - 0x80)) * 64 + (n % 64 + 128 - 0x80) = n by omega]

/-- A character is no surrogate and within the bounds of Unicode. -/
theorem toNat_cases (c : Char) : c.toNat < 0xD800 ∨ (0xDFFF < c.toNat ∧ c.toNat < 0x110000) :=
  c.valid

/-- What is checked of every ASCII code holds of every ASCII character. -/
theorem forall_ascii {p : Char → Prop} (all : ∀ code : Fin 0x80, p (Char.ofNat code)) (c : Char)
    (ascii : c.toNat < 0x80) : p c := by
  have here := all ⟨c.toNat, ascii⟩
  rwa [Char.ofNat_toNat] at here

/-- An ASCII character is one byte. -/
theorem encodeChar_ascii {c : Char} (ascii : c.toNat < 0x80) :
    String.utf8EncodeChar c = [UInt8.ofNat c.toNat] := by
  unfold String.utf8EncodeChar
  rw [show c.val.toNat = c.toNat from rfl]
  dsimp only
  rw [if_pos (by omega)]

/-- The bytes of a character are read as this character. -/
theorem units_encodeChar (c : Char) (rest : Bytes) :
    units none (String.utf8EncodeChar c ++ rest) = .char c :: units none rest := by
  have valid := toNat_cases c
  have same : Char.ofNat c.toNat = c := c.ofNat_toNat
  unfold String.utf8EncodeChar
  rw [show c.val.toNat = c.toNat from rfl]
  dsimp only
  split
  case isTrue small =>
    have byte : (UInt8.ofNat c.toNat).toNat = c.toNat := toNat_ofNat (by omega)
    have read := units_single (by rw [byte]; omega) rest
    rwa [byte, same] at read
  case isFalse =>
    split
    case isTrue =>
      have read := units_two c.toNat (by omega) (by omega) rest
      rwa [same] at read
    case isFalse =>
      split
      case isTrue =>
        have read := units_three c.toNat (by omega) (by omega) (by omega) rest
        rwa [same] at read
      case isFalse =>
        have read := units_four c.toNat (by omega) (by omega) rest
        rwa [same] at read

theorem units_encode (text : List Char) : units none (encode text) = text.map .char := by
  induction text with
  | nil => rfl
  | cons c text ih =>
      rw [encode, List.flatMap_cons, units_encodeChar, ← encode, ih]
      rfl

/-- The bytes of a text are read as this text. -/
theorem decode?_encode (text : List Char) : decode? (encode text) = some text := by
  rw [decode?, units_encode]
  induction text with
  | nil => rfl
  | cons c text ih =>
      rw [List.map_cons, List.mapM_cons, ih]
      rfl

/-- No character of the bytes of a text is replaced. -/
theorem decodeLossy_encode (text : List Char) : decodeLossy (encode text) = text := by
  rw [decodeLossy, units_encode, List.map_map]
  exact List.map_id' text

/-- Different texts have different bytes. -/
theorem encode_injective : Function.Injective encode := by
  intro first second same
  have decoded := congrArg decode? same
  rwa [decode?_encode, decode?_encode, Option.some.injEq] at decoded

theorem encode_append (first second : List Char) :
    encode (first ++ second) = encode first ++ encode second :=
  List.flatMap_append

end UtilityBilling.Text.Utf8

namespace UtilityBilling.Text

/-- The bytes of a string are read as this string. -/
@[simp]
theorem string?_bytesOf (text : String) : string? (bytesOf text) = some text := by
  rw [string?, bytesOf, Utf8.decode?_encode, Option.map_some, String.ofList_toList]

end UtilityBilling.Text
