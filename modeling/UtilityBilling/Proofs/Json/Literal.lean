/-
# Number literals

A number literal has a whole part without a leading zero, possibly places after a point, and
possibly an exponent. A whole one that fits in 64 bits keeps its value, any other becomes a
floating-point number made from the digits that fit. Reading a number reads a literal to its
end; one that is too large for a floating-point number is refused for that reason.
-/

import Mathlib.Data.List.Basic
import Mathlib.Tactic.FinCases
import Mathlib.Tactic.Positivity
import Mathlib.Tactic.Ring
import UtilityBilling.Json.Reader
import UtilityBilling.Proofs.Text.Utf8

namespace UtilityBilling.Json

open UtilityBilling.Number UtilityBilling.Text

/-! ## Digits -/

/-- The character of a decimal digit. -/
def digitChar (d : Fin 10) : Char :=
  Nat.digitChar d

/-- The byte of a decimal digit. -/
def digitByte (d : Fin 10) : UInt8 :=
  UInt8.ofNat (48 + d)

/-- The number that further digits make of the one before them. -/
def continued (start : Nat) (digits : List (Fin 10)) : Nat :=
  digits.foldl (fun n (d : Fin 10) => n * 10 + d.val) start

/-- What comes after digits does not start with another one. -/
def NoDigit (rest : Bytes) : Prop :=
  startsWith isDigitByte rest = false

@[simp]
theorem digitOf?_digitByte (d : Fin 10) : digitOf? (digitByte d) = some d.val := by
  revert d
  decide

@[simp]
theorem isDigitByte_digitByte (d : Fin 10) : isDigitByte (digitByte d) = true := by
  rw [isDigitByte, digitOf?_digitByte]
  rfl

/-- A byte that is read as a digit is the byte of one. -/
theorem exists_digitByte {byte : UInt8} (digit : isDigitByte byte = true) :
    ∃ d, byte = digitByte d := by
  rw [isDigitByte, digitOf?] at digit
  split at digit
  case isTrue within =>
    obtain ⟨low, high⟩ := Bool.and_eq_true_iff.mp within
    have low : 48 ≤ byte.toNat := UInt8.le_iff_toNat_le.mp (of_decide_eq_true low)
    have high : byte.toNat ≤ 57 := UInt8.le_iff_toNat_le.mp (of_decide_eq_true high)
    refine ⟨⟨byte.toNat - 48, by omega⟩, ?_⟩
    rw [digitByte, show 48 + (byte.toNat - 48) = byte.toNat by omega, UInt8.ofNat_toNat]
  case isFalse => cases digit

theorem encode_digitChars (digits : List (Fin 10)) :
    Utf8.encode (digits.map digitChar) = digits.map digitByte := by
  have single (d : Fin 10) : String.utf8EncodeChar (digitChar d) = [digitByte d] := by
    revert d
    decide
  rw [Utf8.encode, List.flatMap_map]
  simp only [single]
  rw [← List.map_eq_flatMap]

/-- Digits stand before the rest of any bytes, and the rest starts with none. -/
theorem exists_digits (rest : Bytes) :
    ∃ digits : List (Fin 10), ∃ after, rest = digits.map digitByte ++ after ∧ NoDigit after := by
  induction rest with
  | nil => exact ⟨[], [], rfl, rfl⟩
  | cons byte rest ih =>
      cases digit : isDigitByte byte with
      | false => exact ⟨[], byte :: rest, rfl, digit⟩
      | true =>
          obtain ⟨d, rfl⟩ := exists_digitByte digit
          obtain ⟨digits, after, rfl, stops⟩ := ih
          exact ⟨d :: digits, after, rfl, stops⟩

theorem NoDigit.digitOf? {byte : UInt8} {rest : Bytes} (stops : NoDigit (byte :: rest)) :
    digitOf? byte = none :=
  Option.not_isSome_iff_eq_none.mp (Bool.eq_false_iff.mp stops)

/-- Passing over digits leaves what comes after them. -/
theorem dropWhile_digits (digits : List (Fin 10)) {after : Bytes} (stops : NoDigit after) :
    (digits.map digitByte ++ after).dropWhile isDigitByte = after := by
  induction digits with
  | nil =>
      cases after with
      | nil => rfl
      | cons byte after => exact List.dropWhile_cons_of_neg (Bool.eq_false_iff.mp stops)
  | cons d digits ih => exact (List.dropWhile_cons_of_pos (isDigitByte_digitByte d)).trans ih

theorem takeWhile_digits (digits : List (Fin 10)) {after : Bytes} (stops : NoDigit after) :
    (digits.map digitByte ++ after).takeWhile isDigitByte = digits.map digitByte := by
  induction digits with
  | nil =>
      cases after with
      | nil => rfl
      | cons byte after => exact List.takeWhile_cons_of_neg (Bool.eq_false_iff.mp stops)
  | cons d digits ih =>
      exact (List.takeWhile_cons_of_pos (isDigitByte_digitByte d)).trans (congrArg _ ih)

/-- Digits make of a number something between its multiple by their power of ten and the next
multiple. -/
theorem continued_bounds (start : Nat) (digits : List (Fin 10)) :
    start * 10 ^ digits.length ≤ continued start digits ∧
      continued start digits < (start + 1) * 10 ^ digits.length := by
  induction digits generalizing start with
  | nil => exact ⟨by simp [continued], by simp [continued]⟩
  | cons d digits ih =>
      obtain ⟨low, high⟩ := ih (start * 10 + d)
      have := d.isLt
      rw [continued, List.foldl_cons, ← continued, List.length_cons, pow_succ']
      constructor
      · calc start * (10 * 10 ^ digits.length) = start * 10 * 10 ^ digits.length := by ring
          _ ≤ (start * 10 + d) * 10 ^ digits.length := Nat.mul_le_mul_right _ (by omega)
          _ ≤ _ := low
      · calc _ < (start * 10 + d + 1) * 10 ^ digits.length := high
          _ ≤ ((start + 1) * 10) * 10 ^ digits.length := Nat.mul_le_mul_right _ (by omega)
          _ = _ := by ring

theorem continued_append (start : Nat) (first second : List (Fin 10)) :
    continued start (first ++ second) = continued (continued start first) second :=
  List.foldl_append

/-- A number continued by digits as long as it fits in 64 bits, and the digits left over. -/
def fit : Nat → List (Fin 10) → Nat × List (Fin 10)
  | n, [] => (n, [])
  | n, d :: digits =>
    if maxUInt64 < n * 10 + d then (n, d :: digits) else fit (n * 10 + d) digits

/-- What fits is what the digits before those left over make. When some are left over, the
number has nineteen digits at least. -/
theorem fit_spec (n : Nat) (digits : List (Fin 10)) :
    ∃ kept, digits = kept ++ (fit n digits).2 ∧ (fit n digits).1 = continued n kept ∧
      ((fit n digits).2 ≠ [] → 10 ^ 18 ≤ (fit n digits).1) := by
  induction digits generalizing n with
  | nil => exact ⟨[], rfl, rfl, fun left => absurd rfl left⟩
  | cons d digits ih =>
      rw [fit]
      split
      case isTrue large =>
        refine ⟨[], rfl, rfl, fun _ => ?_⟩
        have := d.isLt
        rw [maxUInt64, Nat.pow_eq] at large
        dsimp only
        omega
      case isFalse =>
        obtain ⟨kept, split_, value, large⟩ := ih (n * 10 + d)
        exact ⟨d :: kept, congrArg _ split_, value, large⟩

theorem fit_le {n : Nat} (small : n ≤ maxUInt64) (digits : List (Fin 10)) :
    (fit n digits).1 ≤ maxUInt64 := by
  induction digits generalizing n with
  | nil => exact small
  | cons d digits ih =>
      rw [fit]
      split
      case isTrue => exact small
      case isFalse fits => exact ih (Nat.not_lt.mp fits)

/-- Nothing is left over of digits that make a number of 64 bits. -/
theorem fit_of_le {n : Nat} {digits : List (Fin 10)}
    (small : continued n digits ≤ maxUInt64) : fit n digits = (continued n digits, []) := by
  induction digits generalizing n with
  | nil => rfl
  | cons d digits ih =>
      have prefix_ : n * 10 + d ≤ continued n (d :: digits) :=
        le_trans (Nat.le_mul_of_pos_right _ (by positivity)) (continued_bounds _ digits).1
      rw [fit, if_neg (Nat.not_lt.mpr (prefix_.trans small))]
      exact ih small

/-- Digits are left over when they make a larger number. -/
theorem fit_left {n : Nat} {digits : List (Fin 10)} (small : n ≤ maxUInt64)
    (large : maxUInt64 < continued n digits) : (fit n digits).2 ≠ [] := by
  intro none_
  obtain ⟨kept, split_, value, -⟩ := fit_spec n digits
  rw [none_, List.append_nil] at split_
  have := fit_le small digits
  rw [value, ← split_] at this
  omega

/-! ## Literals -/

/-- An exponent: its mark, its sign if one is written, and its digits. -/
structure Exponent where
  capital : Bool
  /-- Whether the sign is a minus. -/
  sign : Option Bool
  digits : List (Fin 10)
  written : digits ≠ []

namespace Exponent

/-- The text of an exponent. -/
def chars (e : Exponent) : List Char :=
  (if e.capital then 'E' else 'e') ::
    ((match e.sign with
      | none => []
      | some false => ['+']
      | some true => ['-']) ++ e.digits.map digitChar)

/-- The exponent without its sign. -/
def size (e : Exponent) : Nat :=
  continued 0 e.digits

/-- Whether a minus stands before the digits. -/
def isNegative (e : Exponent) : Bool :=
  e.sign == some true

/-- The exponent with its sign. -/
def value (e : Exponent) : Int :=
  if e.isNegative then -e.size else e.size

end Exponent

/-- The text of an exponent that may be missing. -/
def exponentChars : Option Exponent → List Char
  | none => []
  | some e => e.chars

/-- The places after a point; without any there is no point. -/
def placesChars (places : List (Fin 10)) : List Char :=
  if places = [] then [] else '.' :: places.map digitChar

/-- A number literal: its sign, the digits before the point, those after it, and its exponent. -/
structure Literal where
  negative : Bool
  whole : List (Fin 10)
  places : List (Fin 10)
  exponent : Option Exponent
  written : whole ≠ []
  /-- A leading zero stands alone. -/
  plain : whole.head? = some 0 → whole = [0]

namespace Literal

/-- The text of a literal after its sign. -/
def unsigned (l : Literal) : List Char :=
  l.whole.map digitChar ++ (placesChars l.places ++ exponentChars l.exponent)

/-- The text of a literal. -/
def chars (l : Literal) : List Char :=
  (if l.negative then ['-'] else []) ++ l.unsigned

/-- Whether a literal has neither places nor an exponent. -/
def IsWhole (l : Literal) : Prop :=
  l.places = [] ∧ l.exponent.isNone = true

instance IsWhole.decidable (l : Literal) : Decidable l.IsWhole :=
  instDecidableAnd

end Literal

/-- The floating-point number made of digits and a decimal exponent. -/
def floatFrom (negative : Bool) (digits : Nat) (exponent : Int) : Option Binary64 :=
  (scaleByTen 10 (Binary64.ofNat digits) exponent).map
    fun magnitude => if negative then magnitude.neg else magnitude

/-- The floating-point number made of digits, their decimal exponent, and one that is written.
An exponent of more than 31 bits counts as infinitely large or small. -/
def floatWith (negative : Bool) (digits : Nat) (scale : Int) : Option Exponent → Option Binary64
  | none => floatFrom negative digits scale
  | some e =>
    if e.size ≤ maxExponent then floatFrom negative digits (scale + e.value)
    else if digits ≠ 0 ∧ e.isNegative = false then none
    else some (Binary64.zero negative)

namespace Literal

/-- The digits that fit in 64 bits and their decimal exponent, the written one apart. -/
def lead (l : Literal) : Nat × Int :=
  let whole := fit 0 l.whole
  let all := fit whole.1 l.places
  (all.1, (whole.2.length : Int) - (l.places.length - all.2.length : Nat))

/-- The floating-point number that is made of a literal. -/
def float? (l : Literal) : Option Binary64 :=
  floatWith l.negative l.lead.1 l.lead.2 l.exponent

/-- The number that a literal is read as, unless it is out of range. -/
def num? (l : Literal) : Option Num :=
  if l.IsWhole ∧ (fit 0 l.whole).2 = [] then
    some (wholeOf l.negative (fit 0 l.whole).1)
  else l.float?.map .float

/-- What comes after a literal does not go on with it. -/
structure Ends (l : Literal) (after : Bytes) : Prop where
  digit : NoDigit after
  mark : l.exponent = none → startsWith isExponentMark after = false
  point : l.IsWhole → startsWith (· == 46) after = false

end Literal

/-! ## Reading a number -/

/-- A reading ends before the rest with what it should find, or says that this is out of
range where there is no such thing. -/
def Finds {α : Type} (found : Option α) (after : Bytes) (result : Read α) : Prop :=
  match found with
  | some value => result = .ok (value, after)
  | none => ∃ unread, result = .error ⟨.numberOutOfRange, unread⟩

theorem Finds.map {α β : Type} {found : Option α} {after : Bytes} {result : Read α}
    (finds : Finds found after result) (f : α → β) :
    Finds (found.map f) after (result.map fun (value, rest) => (f value, rest)) := by
  cases found with
  | some value => exact congrArg _ finds
  | none =>
      obtain ⟨unread, rfl⟩ := finds
      exact ⟨unread, rfl⟩

variable (negative : Bool) {after : Bytes}

theorem finds_floatOf (digits : Nat) (exponent : Int) :
    Finds (floatFrom negative digits exponent) after (floatOf negative digits exponent after) := by
  rw [floatOf, floatFrom]
  cases scaleByTen 10 (Binary64.ofNat digits) exponent with
  | some magnitude => rfl
  | none => exact ⟨after.length, rfl⟩

/-- The digits of an exponent are read to their end unless it grows too large. -/
theorem exponentDigits_digits {start : Nat} (small : start ≤ maxExponent)
    (digits : List (Fin 10)) (stops : NoDigit after) :
    (continued start digits ≤ maxExponent →
      exponentDigits start (digits.map digitByte ++ after) =
        .ok (continued start digits, after)) ∧
      (maxExponent < continued start digits →
        ∃ rest, exponentDigits start (digits.map digitByte ++ after) = .error rest ∧
          rest.dropWhile isDigitByte = after) := by
  induction digits generalizing start with
  | nil =>
      refine ⟨fun _ => ?_, fun large => absurd large (Nat.not_lt.mpr small)⟩
      cases after with
      | nil => rfl
      | cons byte after =>
          change exponentDigits start (byte :: after) = _
          rw [exponentDigits, stops.digitOf?]
          rfl
  | cons d digits ih =>
      rw [List.map_cons, List.cons_append, exponentDigits, digitOf?_digitByte]
      dsimp only
      by_cases large : maxExponent < start * 10 + d
      · have beyond : maxExponent < continued start (d :: digits) :=
          large.trans_le <|
            le_trans (Nat.le_mul_of_pos_right _ (by positivity)) (continued_bounds _ digits).1
        refine ⟨fun fits => absurd fits (Nat.not_le.mpr beyond), fun _ => ?_⟩
        rw [if_pos large]
        exact ⟨_, rfl, dropWhile_digits digits stops⟩
      · rw [if_neg large]
        exact ih (Nat.not_lt.mp large)

/-- The bytes of the sign of an exponent. -/
def signBytes : Option Bool → Bytes
  | none => []
  | some false => [43]
  | some true => [45]

theorem Exponent.encode_chars (e : Exponent) :
    Utf8.encode e.chars =
      (if e.capital then 69 else 101) :: (signBytes e.sign ++ e.digits.map digitByte) := by
  obtain ⟨capital, sign, digits, -⟩ := e
  have bytes := encode_digitChars digits
  rcases capital with _ | _ <;> rcases sign with _ | _ | _ <;> dsimp only [Exponent.chars] <;>
    rw [← bytes] <;> rfl

/-- An exponent is read to its end. -/
theorem finds_readExponent (e : Exponent) (digits : Nat) (scale : Int) (stops : NoDigit after) :
    Finds (floatWith negative digits scale (some e)) after
      (readExponent negative digits scale (Utf8.encode e.chars ++ after)) := by
  obtain ⟨d, rest, same⟩ := List.exists_cons_of_ne_nil e.written
  have read : Finds (floatWith negative digits scale (some e)) after
      (readExponentDigits negative digits scale e.isNegative
        (digitByte d :: (rest.map digitByte ++ after))) := by
    have size : e.size = continued d rest := by
      rw [Exponent.size, same, continued, List.foldl_cons, Nat.zero_mul, Nat.zero_add]
      rfl
    have small : d.val ≤ maxExponent := le_trans (Nat.le_of_lt d.isLt) (by decide)
    obtain ⟨whole, broken⟩ := exponentDigits_digits small rest stops
    rw [readExponentDigits, digitOf?_digitByte, floatWith, size]
    dsimp only
    by_cases fits : continued d rest ≤ maxExponent
    · rw [whole fits, if_pos fits, Exponent.value, size]
      cases e.isNegative <;> exact finds_floatOf negative digits _
    · obtain ⟨left, stopped, dropped⟩ := broken (Nat.not_le.mp fits)
      rw [stopped, if_neg fits]
      dsimp only
      by_cases huge : digits ≠ 0 ∧ e.isNegative = false
      · rw [if_pos huge, if_pos (by simpa using huge)]
        exact ⟨_, rfl⟩
      · rw [if_neg huge, if_neg (by simpa using huge), dropped]
        rfl
  rw [Exponent.encode_chars, readExponent, List.cons_append, List.drop_one, List.tail_cons,
    List.append_assoc, same]
  rcases sign : e.sign with _ | _ | _ <;> rw [Exponent.isNegative, sign] at read
  · -- The first digit is not taken for a sign.
    revert read
    fin_cases d <;> exact id
  · exact read
  · exact read

/-- An exponent starts with its mark. -/
theorem startsWith_mark (e : Exponent) (after : Bytes) :
    startsWith isExponentMark (Utf8.encode e.chars ++ after) = true := by
  cases capital : e.capital <;> rw [Exponent.chars, capital] <;> rfl

/-- What follows the digits of a floating-point number is read to its end. -/
theorem finds_finishFloat (exponent : Option Exponent) (digits : Nat) (scale : Int)
    (stops : NoDigit after) (noMark : exponent = none → startsWith isExponentMark after = false) :
    Finds (floatWith negative digits scale exponent) after
      (finishFloat negative digits scale (Utf8.encode (exponentChars exponent) ++ after)) := by
  cases exponent with
  | none =>
      change Finds _ _ (finishFloat negative digits scale after)
      rw [finishFloat, if_neg (Bool.eq_false_iff.mp (noMark rfl))]
      exact finds_floatOf negative digits scale
  | some e =>
      rw [finishFloat, exponentChars, if_pos (startsWith_mark e after)]
      exact finds_readExponent negative e digits scale stops

/-- The digits after a point are taken as long as they fit, and the others are dropped. -/
theorem placesOf_digits (n count : Nat) (digits : List (Fin 10)) (stops : NoDigit after) :
    placesOf n count (digits.map digitByte ++ after) =
      ((fit n digits).1, count + (digits.length - (fit n digits).2.length), after) := by
  induction digits generalizing n count with
  | nil =>
      cases after with
      | nil => rfl
      | cons byte after =>
          change placesOf n count (byte :: after) = _
          rw [placesOf, stops.digitOf?]
          rfl
  | cons d digits ih =>
      rw [List.map_cons, List.cons_append, placesOf, digitOf?_digitByte, fit]
      dsimp only
      split
      case isTrue =>
        rw [Nat.sub_self, ← List.cons_append, ← List.map_cons, dropWhile_digits _ stops]
        rfl
      case isFalse =>
        obtain ⟨kept, split_, -, -⟩ := fit_spec (n * 10 + d) digits
        have := congrArg List.length split_
        rw [List.length_append] at this
        rw [ih, List.length_cons]
        congr 2
        omega

/-- An exponent does not start with a digit. -/
theorem noDigit_exponent (exponent : Option Exponent) (stops : NoDigit after) :
    NoDigit (Utf8.encode (exponentChars exponent) ++ after) := by
  cases exponent with
  | none => exact stops
  | some e => cases capital : e.capital <;> rw [exponentChars, Exponent.chars, capital] <;> rfl

/-- A point and its places are read together with what follows them. -/
theorem finds_readPlaces {places : List (Fin 10)} (some_ : places ≠ []) (n : Nat) (scale : Int)
    (exponent : Option Exponent) (stops : NoDigit after)
    (noMark : exponent = none → startsWith isExponentMark after = false) :
    Finds (floatWith negative (fit n places).1
        (scale - (places.length - (fit n places).2.length : Nat)) exponent) after
      (readPlaces negative n scale
        (46 :: (places.map digitByte ++ (Utf8.encode (exponentChars exponent) ++ after)))) := by
  have length : 0 < places.length := List.length_pos_iff.mpr some_
  rw [readPlaces, List.drop_one, List.tail_cons,
    placesOf_digits n 0 places (noDigit_exponent exponent stops)]
  dsimp only
  rw [if_neg, Nat.zero_add]
  · exact finds_finishFloat negative exponent _ _ stops noMark
  · simp only [List.length_append, List.length_map, Bool.and_eq_true, decide_eq_true_eq,
      beq_iff_eq]
    omega

namespace Literal

variable {l : Literal}

/-- What stands after the digits before the point. -/
def tail (l : Literal) (after : Bytes) : Bytes :=
  Utf8.encode (placesChars l.places ++ exponentChars l.exponent) ++ after

theorem encode_unsigned (l : Literal) (after : Bytes) :
    Utf8.encode l.unsigned ++ after = l.whole.map digitByte ++ l.tail after := by
  rw [unsigned, Utf8.encode_append, encode_digitChars, List.append_assoc, tail]

theorem tail_of_places (some_ : l.places ≠ []) (after : Bytes) :
    l.tail after =
      46 :: (l.places.map digitByte ++ (Utf8.encode (exponentChars l.exponent) ++ after)) := by
  have point (text : List Char) : Utf8.encode ('.' :: text) = 46 :: Utf8.encode text := rfl
  rw [tail, placesChars, if_neg some_, Utf8.encode_append, point, encode_digitChars,
    List.cons_append, List.cons_append, List.append_assoc]

theorem tail_of_no_places (none_ : l.places = []) (after : Bytes) :
    l.tail after = Utf8.encode (exponentChars l.exponent) ++ after := by
  rw [tail, placesChars, if_pos none_, List.nil_append]

theorem Ends.noDigit_tail (ends : l.Ends after) : NoDigit (l.tail after) := by
  by_cases places : l.places = []
  · rw [tail_of_no_places places]
    exact noDigit_exponent l.exponent ends.digit
  · rw [tail_of_places places]
    rfl

/-- Without places no point follows the whole part. -/
theorem Ends.noPoint_tail (ends : l.Ends after) (none_ : l.places = []) :
    startsWith (· == 46) (l.tail after) = false := by
  rw [tail_of_no_places none_]
  cases exponent : l.exponent with
  | none => exact ends.point ⟨none_, by rw [exponent]; rfl⟩
  | some e => cases capital : e.capital <;> rw [exponentChars, Exponent.chars, capital] <;> rfl

/-- A number whose whole part does not fit is read to its end. -/
theorem Ends.finds_readLongWhole (ends : l.Ends after) (n : Nat) (left : List (Fin 10)) :
    Finds (floatWith negative (fit n l.places).1
        ((left.length : Int) - (l.places.length - (fit n l.places).2.length : Nat)) l.exponent)
      after (readLongWhole negative n (left.map digitByte ++ l.tail after)) := by
  rw [readLongWhole, takeWhile_digits left ends.noDigit_tail,
    dropWhile_digits left ends.noDigit_tail, List.length_map]
  by_cases places : l.places = []
  · rw [if_neg (Bool.eq_false_iff.mp (ends.noPoint_tail places)), tail_of_no_places places,
      places, fit]
    have finds := finds_finishFloat negative l.exponent n left.length ends.digit ends.mark
    simpa using finds
  · rw [tail_of_places places]
    exact finds_readPlaces negative places n left.length l.exponent ends.digit ends.mark

/-- A number whose whole part fits is read to its end. -/
theorem Ends.finds_finishNumber (ends : l.Ends after) (n : Nat) :
    Finds (if l.IsWhole then some (wholeOf negative n) else
        (floatWith negative (fit n l.places).1
          ((0 : Nat) - (l.places.length - (fit n l.places).2.length : Nat)) l.exponent).map .float)
      after (finishNumber negative n (l.tail after)) := by
  rw [finishNumber]
  by_cases places : l.places = []
  · rw [if_neg (Bool.eq_false_iff.mp (ends.noPoint_tail places)), tail_of_no_places places]
    cases exponent : l.exponent with
    | none =>
        have marked := ends.mark exponent
        rw [if_pos ⟨places, by rw [exponent]; rfl⟩]
        change Finds _ _ (if startsWith isExponentMark after then _ else _)
        rw [if_neg (Bool.eq_false_iff.mp marked)]
        rfl
    | some e =>
        have finds := finds_readExponent negative e n 0 ends.digit
        have noWhole : ¬l.IsWhole := fun whole => by
          rw [IsWhole, exponent] at whole
          exact Bool.false_ne_true whole.2
        rw [if_neg noWhole, exponentChars, if_pos (startsWith_mark e after), places, fit]
        exact finds.map Num.float
  · have finds := finds_readPlaces negative places n 0 l.exponent ends.digit ends.mark
    rw [if_neg (fun whole => places whole.1), tail_of_places places]
    exact finds.map Num.float

/-- The digits of a whole part are taken as long as they fit. -/
theorem readWhole_digits (n : Nat) (digits : List (Fin 10)) {rest : Bytes} (stops : NoDigit rest) :
    readWhole negative n (digits.map digitByte ++ rest) =
      if (fit n digits).2 = [] then finishNumber negative (fit n digits).1 rest
      else (readLongWhole negative (fit n digits).1 ((fit n digits).2.map digitByte ++ rest)).map
        fun (x, after) => (.float x, after) := by
  induction digits generalizing n with
  | nil =>
      cases rest with
      | nil => rfl
      | cons byte rest =>
          change readWhole negative n (byte :: rest) = _
          rw [readWhole, stops.digitOf?]
          rfl
  | cons d digits ih =>
      rw [List.map_cons, List.cons_append, readWhole, digitOf?_digitByte, fit]
      dsimp only
      split
      case isTrue => rfl
      case isFalse => exact ih (n * 10 + d)

/-- What the whole part and the rest of a literal give together. -/
theorem Ends.finds_readWhole (ends : l.Ends after) :
    Finds l.num? after (readWhole l.negative 0 (l.whole.map digitByte ++ l.tail after)) := by
  rw [readWhole_digits l.negative 0 l.whole ends.noDigit_tail, num?]
  by_cases left : (fit 0 l.whole).2 = []
  · have finds := ends.finds_finishNumber l.negative (fit 0 l.whole).1
    rw [if_pos left]
    simp only [left, and_true]
    rw [float?, lead, left]
    exact finds
  · have finds := ends.finds_readLongWhole l.negative (fit 0 l.whole).1
      (fit 0 l.whole).2
    rw [if_neg left, if_neg (fun both => left both.2)]
    exact finds.map Num.float

/-- Digits without a leading zero are read as a whole part. -/
theorem readNumber_digits {whole : List (Fin 10)} (written : whole ≠ [])
    (plain : whole.head? = some 0 → whole = [0]) {rest : Bytes} (stops : NoDigit rest) :
    readNumber negative (whole.map digitByte ++ rest) =
      readWhole negative 0 (whole.map digitByte ++ rest) := by
  obtain ⟨d, digits, rfl⟩ := List.exists_cons_of_ne_nil written
  have small : ¬ maxUInt64 < 0 * 10 + d.val := by
    rw [Nat.zero_mul, Nat.zero_add, Nat.not_lt]
    exact le_trans (Nat.le_of_lt d.isLt) (by decide)
  rw [List.map_cons, List.cons_append, readNumber, readWhole, digitOf?_digitByte]
  dsimp only
  rw [if_neg small, Nat.zero_mul, Nat.zero_add]
  by_cases zero : d.val = 0
  · -- A zero is the whole part.
    obtain rfl : d = 0 := Fin.ext zero
    obtain rfl : digits = [] := List.tail_eq_of_cons_eq (plain rfl)
    have read := readWhole_digits negative 0 [] stops
    rw [List.map_nil, List.nil_append] at read ⊢
    change (if startsWith isDigitByte rest then _ else _) = readWhole negative 0 rest
    rw [if_neg (Bool.eq_false_iff.mp stops), read]
    rfl
  · generalize d.val = first at *
    match first with
    | 0 => exact absurd rfl zero
    | _ + 1 => rfl

/-- A literal is read to its end, and is refused only when it is out of range. -/
theorem Ends.finds_readNumber (ends : l.Ends after) :
    Finds l.num? after (readNumber l.negative (Utf8.encode l.unsigned ++ after)) := by
  rw [encode_unsigned, readNumber_digits l.negative l.written l.plain ends.noDigit_tail]
  exact ends.finds_readWhole

end Literal

end UtilityBilling.Json
