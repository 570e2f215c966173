/-
# Form encoding and its decoding

Form decoding splits a query at its ampersands, skips what is empty between them, splits the rest
at the first equals sign, and reads plus signs as blanks and percent-encoded bytes as the text
that they encode. It gives back every pair that was appended, unchanged and in order, behind what
the query held before: encoded text holds neither of the two separators.
-/

import UtilityBilling.Proofs.Text.Splitting
import UtilityBilling.Proofs.Url.Percent
import UtilityBilling.Url.Form

namespace UtilityBilling.Url

open UtilityBilling.Text

/-- A plus sign is a blank. -/
def plusToBlank (c : Char) : Char :=
  if c = '+' then ' ' else c

/-- The bytes of a name or a value. -/
def formBytes (text : List Char) : Bytes :=
  decodeBytes (Utf8.encode (text.map plusToBlank))

/-- A name or a value in form decoding; bytes that are no text are replaced. -/
def formDecoded (text : List Char) : String :=
  String.ofList (Utf8.decodeLossy (formBytes text))

/-- A name and a value with an equals sign between them; without one it is all name. -/
def decodedPair (piece : List Char) : String × String :=
  (formDecoded (piece.takeWhile (· != '=')), formDecoded ((piece.dropWhile (· != '=')).drop 1))

/-- The pairs of a query in form decoding. -/
def formPairs (query : List Char) : List (String × String) :=
  ((splitAll (· == '&') query).filter fun piece => !piece.isEmpty).map decodedPair

/-- The signs with a meaning of their own. -/
def formSigns : List Char :=
  ['+', '&', '=']

theorem ne_of_not_mem_formSigns {c : Char} (plain : c ∉ formSigns) :
    c ≠ '+' ∧ c ≠ '&' ∧ c ≠ '=' := by
  simpa [formSigns] using plain

/-- A byte stands for itself, unless it is a blank or percent-encoded. -/
theorem formByte_cases (byte : UInt8) :
    (byte = 32 ∧ formByte byte = ['+']) ∨
      (∃ c, formByte byte = [c] ∧ c ∉ formSigns ∧ String.utf8EncodeChar c = [byte] ∧
        byte ≠ 37) ∨
      formByte byte = encodeByte byte := by
  have ascii : ∀ code : Fin 0x80, let c := Char.ofNat code
      (c.isAlphanum || c == '*' || c == '-' || c == '.' || c == '_') = true →
        c ∉ formSigns ∧ String.utf8EncodeChar c = [UInt8.ofNat code] ∧
          UInt8.ofNat code ≠ 37 := by
    decide +kernel
  rw [formByte]
  split_ifs with blank plain
  · exact .inl ⟨eq_of_beq blank, rfl⟩
  · rw [Bool.and_eq_true, decide_eq_true_eq, UInt8.lt_iff_toNat_lt] at plain
    have same := ascii ⟨byte.toNat, plain.1⟩ plain.2
    rw [UInt8.ofNat_toNat] at same
    exact .inr (.inl ⟨_, rfl, same⟩)
  · exact .inr (.inr rfl)

/-- None of the signs is written for an encoded byte. -/
theorem not_mem_encodeByte (byte : UInt8) : ∀ c ∈ encodeByte byte, c ∉ formSigns := by
  have none_ : codeChars.all (fun c => !formSigns.contains c) = true := by decide
  intro c within
  simpa using List.all_eq_true.mp none_ c (mem_codeChars_of_mem_encodeByte within)

theorem map_plusToBlank {text : List Char} (none_ : ∀ c ∈ text, c ∉ formSigns) :
    text.map plusToBlank = text := by
  refine (List.map_congr_left fun c within => ?_).trans (List.map_id' text)
  exact if_neg (ne_of_not_mem_formSigns (none_ c within)).1

/-- Decoding a byte in form encoding gives the byte back. -/
theorem formBytes_formByte (byte : UInt8) (rest : List Char) :
    formBytes (formByte byte ++ rest) = byte :: formBytes rest := by
  rw [formBytes, formBytes, List.map_append, Utf8.encode_append]
  rcases formByte_cases byte with ⟨rfl, code⟩ | ⟨c, code, noPlus, single, other⟩ | code
  · rw [code]
    exact decodeBytes_cons (by decide) _
  · have bytes : Utf8.encode [c] = [byte] := by simp [Utf8.encode, single]
    rw [code, map_plusToBlank (by simpa using noPlus), bytes]
    exact decodeBytes_cons other _
  · rw [code, map_plusToBlank (not_mem_encodeByte byte), decodeBytes_encodeByte]

/-- Form decoding gives a text back. -/
theorem formDecoded_formText (text : String) : formDecoded (formText text) = text := by
  have bytes : ∀ bytes : Bytes, formBytes (bytes.flatMap formByte) = bytes := by
    intro bytes
    induction bytes with
    | nil => rfl
    | cons byte bytes ih => rw [List.flatMap_cons, formBytes_formByte, ih]
  rw [formDecoded, formText, bytes, bytesOf, Utf8.decodeLossy_encode, String.ofList_toList]

/-- Text in form encoding holds no separator. -/
theorem ne_of_mem_formText {text : String} {c : Char} (within : c ∈ formText text) :
    c ≠ '&' ∧ c ≠ '=' := by
  obtain ⟨byte, -, inside⟩ := List.mem_flatMap.mp within
  rcases formByte_cases byte with ⟨-, code⟩ | ⟨d, code, plain, -, -⟩ | code
  · rw [code, List.mem_singleton] at inside
    rw [inside]
    decide
  · rw [code, List.mem_singleton] at inside
    rw [inside]
    exact (ne_of_not_mem_formSigns plain).2
  · exact (ne_of_not_mem_formSigns (not_mem_encodeByte byte c (code ▸ inside))).2

/-- A pair is split where its name ends. -/
theorem decodedPair_formPair (pair : String × String) : decodedPair (formPair pair) = pair := by
  obtain ⟨name, rest⟩ := takeWhile_ne (fun c within => (ne_of_mem_formText within).2)
    (formText pair.2)
  rw [decodedPair, formPair, name, rest, List.drop_one, List.tail_cons, formDecoded_formText,
    formDecoded_formText]

/-- The pairs of a query that is a single pair. -/
theorem formPairs_formPair (pair : String × String) : formPairs (formPair pair) = [pair] := by
  have plain : ∀ c ∈ formPair pair, (c == '&') = false := by
    intro c within
    rw [beq_eq_false_iff_ne]
    rcases List.mem_append.mp within with name | value
    · exact (ne_of_mem_formText name).1
    · rcases List.mem_cons.mp value with rfl | value
      · decide
      · exact (ne_of_mem_formText value).1
  have some_ : formPair pair ≠ [] := List.append_ne_nil_of_right_ne_nil _ (List.cons_ne_nil _ _)
  rw [formPairs, splitAll_of_none plain, List.filter_cons_of_pos (by simpa using some_),
    List.filter_nil, List.map_singleton, decodedPair_formPair]

/-- An ampersand separates the pairs before it from those behind it. -/
theorem formPairs_append (before after : List Char) :
    formPairs (before ++ '&' :: after) = formPairs before ++ formPairs after := by
  rw [formPairs, splitAll_append (by rfl), List.filter_append, List.map_append]
  rfl

/-- Appended pairs are read behind those of the query. -/
theorem formPairs_appendPairs (query : List Char) (pairs : List (String × String)) :
    formPairs (appendPairs query pairs) = formPairs query ++ pairs := by
  induction pairs generalizing query with
  | nil => rw [appendPairs, List.append_nil]
  | cons pair pairs ih =>
      rw [appendPairs, ih]
      cases query with
      | nil => rw [List.isEmpty_nil, if_pos rfl, formPairs_formPair]; rfl
      | cons c query =>
          rw [List.isEmpty_cons, if_neg Bool.false_ne_true, formPairs_append, formPairs_formPair,
            List.append_assoc, List.singleton_append]

/-- The pairs of the query of an address. -/
def Address.pairs (url : Address) : List (String × String) :=
  formPairs (url.query.getD [])

/-- Parameters are read behind the pairs that the address has. -/
theorem Address.pairs_withParameters (url : Address) (parameters : List (String × String)) :
    (url.withParameters parameters).pairs = url.pairs ++ parameters := by
  rw [Address.withParameters]
  split
  case isTrue none_ => rw [List.isEmpty_iff.mp none_, List.append_nil]
  case isFalse => exact formPairs_appendPairs _ parameters

/-- Parameters change nothing but the query of an address. -/
theorem Address.withParameters_rest (url : Address) (parameters : List (String × String)) :
    { url.withParameters parameters with query := url.query } = url := by
  rw [Address.withParameters]
  split <;> rfl

/-- Separators and signs within names and values, an empty pair, and a query with a gap. -/
example :
    formPairs "a=1&&b+c=%26".toList = [("a", "1"), ("b c", "&")] ∧
      formPairs (appendPairs "a=1".toList [("x&y", "1+1=2"), ("", "")]) =
        [("a", "1"), ("x&y", "1+1=2"), ("", "")] := by
  decide +kernel

end UtilityBilling.Url
