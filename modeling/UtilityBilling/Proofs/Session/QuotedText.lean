/-
# Texts come back from between quotes

A session file holds its texts between double quotes, with an escape for every character that
could not be shown or that would end the text. Each escape is read as the character that it
stands for, and so every text is read as it was written, whatever it holds.
-/

import Mathlib.Tactic.SplitIfs
import UtilityBilling.Session.Notation

namespace UtilityBilling.Session.Notation

open UtilityBilling.Text

theorem hex?_digitChar : ∀ digit < 16, hex? digit.digitChar = some digit := by
  decide

/-- The number that hexadecimal digits go on to from another one. -/
def hexValue (value : Nat) (digits : List Char) : Nat :=
  digits.foldl (fun sofar c => sofar * 16 + (hex? c).getD 0) value

theorem hexValue_concat (value : Nat) (digits : List Char) (last : Char) :
    hexValue value (digits ++ [last]) = hexValue value digits * 16 + (hex? last).getD 0 :=
  List.foldl_append

theorem isHex_of_mem_hexDigits {n : Nat} {c : Char} (member : c ∈ hexDigits n) :
    (hex? c).isSome = true := by
  induction n using Nat.strongRecOn with
  | ind n ih =>
      rw [hexDigits, Nat.toDigits_eq_if (by decide)] at member
      split at member
      case isTrue small =>
        obtain rfl := List.mem_singleton.mp member
        rw [hex?_digitChar n small]
        rfl
      case isFalse large =>
        rcases List.mem_append.mp member with earlier | last
        · exact ih (n / 16) (Nat.div_lt_self (by omega) (by decide)) earlier
        · obtain rfl := List.mem_singleton.mp last
          rw [hex?_digitChar _ (Nat.mod_lt n (by decide))]
          rfl

theorem hexValue_hexDigits (n : Nat) : hexValue 0 (hexDigits n) = n := by
  induction n using Nat.strongRecOn with
  | ind n ih =>
      rw [hexDigits, Nat.toDigits_eq_if (by decide)]
      split
      case isTrue small => simp [hexValue, hex?_digitChar n small]
      case isFalse large =>
        have earlier := ih (n / 16) (Nat.div_lt_self (by omega) (by decide))
        have last := hex?_digitChar (n % 16) (Nat.mod_lt n (by decide))
        rw [hexValue_concat, ← hexDigits, earlier, last]
        exact Nat.div_add_mod' n 16

/-- Digits up to a closing brace are read as their number. -/
theorem hexRun_digits {digits : List Char} (hex : ∀ c ∈ digits, (hex? c).isSome = true)
    {most : Nat} (enough : digits.length ≤ most) (value : Nat) (rest : List Char) :
    hexRun most value (digits ++ '\x7d' :: rest) =
      some (digits.length, hexValue value digits, rest) := by
  induction digits generalizing most value with
  | nil => rw [List.nil_append, hexRun]; rfl
  | cons c digits ih =>
      obtain ⟨digit, isDigit⟩ := Option.isSome_iff_exists.mp (hex c List.mem_cons_self)
      have noBrace : c ≠ '\x7d' := by
        rintro rfl
        cases isDigit
      cases most with
      | zero => exact absurd enough (by simp)
      | succ most =>
          have later := ih (fun d member => hex d (List.mem_cons_of_mem c member))
            (Nat.le_of_succ_le_succ enough) (value * 16 + digit)
          rw [List.cons_append, hexRun, isDigit]
          · simp only [later, Option.map_some, hexValue, List.foldl_cons, isDigit,
              Option.getD_some, List.length_cons]
          · exact noBrace

theorem charOf?_toNat (c : Char) : charOf? c.toNat = some c := by
  have valid : c.toNat < 0xD800 ∨ (0xDFFF < c.toNat ∧ c.toNat < 0x110000) := c.valid
  rw [charOf?, if_pos (by omega), c.ofNat_toNat]

/-- A character that is escaped by its number is read as this character. -/
theorem escape_number (c : Char) (rest : List Char) :
    escape ('u' :: '\x7b' :: (hexDigits c.toNat ++ '\x7d' :: rest)) = some (c, rest) := by
  have valid : c.toNat < 0xD800 ∨ (0xDFFF < c.toNat ∧ c.toNat < 0x110000) := c.valid
  have short : (hexDigits c.toNat).length ≤ 6 := by
    rw [hexDigits, Nat.length_toDigits_le_iff (by decide) (by decide)]
    omega
  have filled : (hexDigits c.toNat).length ≠ 0 := by
    rw [Ne, List.length_eq_zero_iff]
    exact Nat.toDigits_ne_nil
  rw [escape, hexRun_digits (fun _ => isHex_of_mem_hexDigits) short, hexValue_hexDigits]
  cases count : (hexDigits c.toNat).length with
  | zero => exact absurd count filled
  | succ more =>
      show (charOf? c.toNat).map (fun d => (d, rest)) = some (c, rest)
      rw [charOf?_toNat]
      rfl

/-- A short escape is read as the character that it stands for. -/
theorem textFrom_short {c meant letter : Char} {rest : List Char} (same : (c == meant) = true)
    (read : escape (letter :: rest) = some (meant, rest)) (fuel : Nat) (held : List Char) :
    textFrom (fuel + 1) held (['\\', letter] ++ rest) = textFrom fuel (c :: held) rest := by
  obtain rfl : c = meant := by simpa using same
  rw [List.cons_append, List.singleton_append, textFrom, if_neg (by decide), if_pos (by decide),
    read]

/-- What stands for a character between quotes is read as this character. -/
theorem textFrom_escapeChar (c : Char) (fuel : Nat) (held rest : List Char) :
    textFrom (fuel + 1) held (escapeChar true c ++ rest) = textFrom fuel (c :: held) rest := by
  unfold escapeChar
  split_ifs with nul tab return_ feed double back single never
  · exact textFrom_short nul rfl fuel held
  · exact textFrom_short tab rfl fuel held
  · exact textFrom_short return_ rfl fuel held
  · exact textFrom_short feed rfl fuel held
  · exact textFrom_short double rfl fuel held
  · exact textFrom_short back rfl fuel held
  · exact textFrom_short single rfl fuel held
  · exact absurd rfl never
  · simp only [List.cons_append, List.nil_append, List.append_assoc]
    rw [textFrom, if_neg (by decide), if_pos (by decide), escape_number]
  · rw [List.singleton_append, textFrom, if_neg double, if_neg back]

/-- Something stands for each character. -/
theorem length_escapeChar_pos (c : Char) : 0 < (escapeChar true c).length := by
  unfold escapeChar
  split_ifs <;> simp

/-- A text up to its closing quote is read as it was written. -/
theorem textFrom_quoted {source : List Char} {fuel : Nat} (enough : source.length < fuel)
    (held rest : List Char) :
    textFrom fuel held (source.flatMap (escapeChar true) ++ '"' :: rest) =
      some (String.ofList (held.reverse ++ source), rest) := by
  induction source generalizing fuel held with
  | nil =>
      cases fuel with
      | zero => exact absurd enough (by simp)
      | succ fuel => simp [textFrom]
  | cons c source ih =>
      cases fuel with
      | zero => exact absurd enough (by simp)
      | succ fuel =>
          rw [List.flatMap_cons, List.append_assoc, textFrom_escapeChar,
            ih (Nat.lt_of_succ_lt_succ enough), List.reverse_cons, List.append_assoc]
          rfl

theorem length_le_flatMap (source : List Char) :
    source.length ≤ (source.flatMap (escapeChar true)).length := by
  induction source with
  | nil => exact Nat.zero_le _
  | cons c source ih =>
      have one := length_escapeChar_pos c
      rw [List.flatMap_cons, List.length_append, List.length_cons]
      omega

/-- A text between quotes is read as it was written. -/
theorem text_quote (source rest : List Char) :
    text (quote true source ++ rest) = some (String.ofList source, rest) := by
  have enough := length_le_flatMap source
  rw [quote, List.cons_append, List.append_assoc, List.singleton_append, text, textFrom_quoted]
  · rfl
  · rw [List.length_append]
    omega

end UtilityBilling.Session.Notation
