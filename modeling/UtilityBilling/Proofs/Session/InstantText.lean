/-
# Instants come back from their texts

The clock shows a time of one of the years from 1970 to 9999. Such a year is written in four
digits and every other number of the text in two, so that each is read up to its end and no
further; and the day that is read is the day that was written. Fractions of a second are
written in as few groups of three digits as they need and read back from them.
-/

import UtilityBilling.Proofs.Json.Ink
import UtilityBilling.Proofs.Session.Calendar

namespace UtilityBilling.Session

open UtilityBilling.Number UtilityBilling.Text

section ZeroPadded

variable {width n : Nat}

theorem length_zeroPadded (filled : 0 < width) (fits : n < 10 ^ width) :
    (zeroPadded width n).length = width := by
  have short := (Nat.length_toDigits_le_iff (show 1 < 10 by decide) filled).mpr fits
  rw [zeroPadded, List.length_append, List.length_replicate]
  exact Nat.sub_add_cancel short

theorem isDigit_of_mem_zeroPadded {c : Char} (member : c ∈ zeroPadded width n) :
    c.isDigit = true := by
  rcases List.mem_append.mp member with zero | digit
  · obtain rfl := (List.mem_replicate.mp zero).2
    rfl
  · exact Nat.isDigit_of_mem_toDigits (by decide) (by decide) digit

/-- A number with zeros in front starts with a digit. -/
theorem exists_cons_zeroPadded (width n : Nat) :
    ∃ c rest, zeroPadded width n = c :: rest ∧ c.isDigit = true := by
  cases written : zeroPadded width n with
  | nil => exact absurd (List.append_eq_nil_iff.mp written).2 Nat.toDigits_ne_nil
  | cons c rest =>
      exact ⟨c, rest, rfl, isDigit_of_mem_zeroPadded (written ▸ List.mem_cons_self)⟩

theorem value_zeroPadded (width n : Nat) :
    (zeroPadded width n).foldl (fun n c => n * 10 + (c.toNat - 48)) 0 = n := by
  have value (digits : List Char) : digits.foldl (fun n c => n * 10 + (c.toNat - 48)) 0 =
      Nat.ofDigitChars 10 digits 0 := by
    simp only [Nat.ofDigitChars, Nat.mul_comm 10]
    rfl
  rw [value, zeroPadded, Nat.ofDigitChars_append, Nat.ofDigitChars_replicate_zero, Nat.mul_zero,
    Nat.ofDigitChars_toDigits (by decide) (by decide)]

end ZeroPadded

namespace Instant

variable {width most n : Nat} {rest : List Char}

/-- A number is read up to the end of its digits. -/
theorem digits?_zeroPadded (filled : 0 < width) (small : width ≤ 9) (fits : n < 10 ^ width)
    (within : width ≤ most) (stops : width = most ∨ ∀ c ∈ rest.head?, c.isDigit = false) :
    digits? most (zeroPadded width n ++ rest) = some (n, rest) := by
  have length := length_zeroPadded filled fits
  have run : ((zeroPadded width n ++ rest).take most).takeWhile Char.isDigit =
      zeroPadded width n := by
    rw [List.take_append, length, List.take_of_length_le (length.trans_le within),
      List.takeWhile_append_of_pos fun _ => isDigit_of_mem_zeroPadded]
    rcases stops with rfl | noDigit
    · simp
    · cases rest with
      | nil => simp
      | cons c rest => cases most - width <;> simp [noDigit c rfl]
  have bounded : ¬ maxInt64 < n := by
    have most : 10 ^ width ≤ 10 ^ 9 := Nat.pow_le_pow_right (by decide) small
    have large : 10 ^ 9 ≤ maxInt64 := by decide
    omega
  obtain ⟨c, others, written, _⟩ := exists_cons_zeroPadded width n
  unfold digits?
  simp only [run, value_zeroPadded, if_neg bounded, List.drop_left]
  rw [written]
  rfl

theorem trimLeft_zeroPadded (width n : Nat) (rest : List Char) :
    trimLeft (zeroPadded width n ++ rest) = zeroPadded width n ++ rest := by
  obtain ⟨c, others, written, digit⟩ := exists_cons_zeroPadded width n
  rw [written, trimLeft, List.cons_append, List.dropWhile_cons_of_neg]
  simp [isBlank_of_isDigit digit]

theorem two?_zeroPadded (fits : n < 100) (rest : List Char) :
    two? (zeroPadded 2 n ++ rest) = some (n, rest) := by
  rw [two?, trimLeft_zeroPadded]
  exact digits?_zeroPadded (by decide) (by decide) fits (Nat.le_refl 2) (.inl rfl)

theorem year?_zeroPadded (fits : n < 10000) (rest : List Char) :
    year? (zeroPadded 4 n ++ rest) = some ((n : Int), rest) := by
  have read : digits? 4 (zeroPadded 4 n ++ rest) = some (n, rest) :=
    digits?_zeroPadded (by decide) (by decide) fits (Nat.le_refl 4) (.inl rfl)
  obtain ⟨c, others, written, digit⟩ := exists_cons_zeroPadded 4 n
  rw [year?, trimLeft_zeroPadded]
  rw [written, List.cons_append] at read ⊢
  split
  case h_1 minus =>
    obtain ⟨rfl, _⟩ := List.cons.inj minus
    cases digit
  case h_2 plus =>
    obtain ⟨rfl, _⟩ := List.cons.inj plus
    cases digit
  case h_3 => rw [read]; rfl

theorem mark?_cons {c : Char} (ink : isBlank c = false) (rest : List Char) :
    mark? c (c :: rest) = some rest := by
  rw [mark?, trimLeft, List.dropWhile_cons_of_neg (by simp [ink])]
  simp

/-- A group of digits after the point is read with the zeros that it has left out. -/
theorem fraction?_group (filled : 0 < width) (small : width ≤ 9) (fits : n < 10 ^ width) :
    fraction? ('.' :: zeroPadded width n ++ ['Z']) = some (n * 10 ^ (9 - width), ['Z']) := by
  have read : digits? 9 (zeroPadded width n ++ ['Z']) = some (n, ['Z']) :=
    digits?_zeroPadded filled small fits small (.inr (by simp))
  have length : (zeroPadded width n ++ ['Z']).length - ['Z'].length = width := by
    rw [List.length_append, length_zeroPadded filled fits, Nat.add_sub_cancel]
  rw [List.cons_append, fraction?, read, Option.map_some]
  simp only [length]
  rfl

/-- A fraction of a second is read as it was written. -/
theorem fraction?_fractionChars (fits : n < 1000000000) :
    fraction? (fractionChars n ++ ['Z']) = some (n, ['Z']) := by
  unfold fractionChars
  split
  case isTrue none =>
    subst none
    rfl
  case isFalse =>
    split
    case isTrue thousandths =>
      rw [fraction?_group (by decide) (by decide) (by omega)]
      congr 2
      omega
    case isFalse =>
      split
      case isTrue millionths =>
        rw [fraction?_group (by decide) (by decide) (by omega)]
        congr 2
        omega
      case isFalse =>
        rw [fraction?_group (by decide) (by decide) fits]
        congr 2
        omega

/-- What the clock can show: a time of the years from 1970 to 9999, and less than a second
beyond it. -/
structure IsClockTime (i : Instant) : Prop where
  late : Day.number ⟨1970, 1, 1⟩ * 86400 ≤ i.seconds
  early : i.seconds < Day.number ⟨10000, 1, 1⟩ * 86400
  fraction : i.nanoseconds < 1000000000

/-- The day of a time of the clock has a year of four digits, is in the calendar, and is the day
that its number stands for. -/
theorem day_of_clockTime {i : Instant} (clock : i.IsClockTime) :
    (∃ year : Nat, i.day.year = year ∧ year < 10000) ∧ i.day.isValid = true ∧
      i.day.number = i.seconds / 86400 := by
  have late : 0 ≤ i.seconds := clock.late
  have early : i.seconds < 253402300800 := clock.early
  obtain ⟨era, year, day, whole, young, inYear, dated⟩ :=
    exists_dateOf (i.seconds / 86400 + 719468).toNat
  have number : ((i.seconds / 86400 + 719468).toNat : Int) - 719468 = i.seconds / 86400 := by
    omega
  have isDay : i.day = dateOf era year day := by
    rw [Instant.day, Int.fdiv_eq_ediv_of_nonneg _ (by decide), ← number, dated]
  refine ⟨⟨year + era * 400 + if monthFromMarch day < 10 then 0 else 1, ?_, ?_⟩, ?_, ?_⟩
  · rw [isDay, dateOf]
    split <;> simp
  · unfold monthFromMarch yearStart at *
    split <;> omega
  · rw [isDay]
    exact isValid_dateOf era inYear
  · rw [isDay, number_dateOf era young inYear]
    omega

/-- Reading goes on with what a part has been read as. -/
theorem bind_of_eq_some {α β : Type} {read : Option α} {part : α} {goOn : α → Option β}
    {result : Option β} (first : read = some part) (rest : goOn part = result) :
    read >>= goOn = result := by
  rw [first]
  exact rest

/-- What stands for a day and a time is read as that day and that time. -/
theorem parse?_chars {year month day hour minute second fraction : Nat} (years : year < 10000)
    (months : month < 100) (days : day < 100) (hours : hour < 100) (minutes : minute < 100)
    (seconds : second < 100) (fractions : fraction < 1000000000) :
    parse? (String.ofList (dayChars ⟨year, month, day⟩ ++ 'T' ::
        (zeroPadded 2 hour ++ ':' :: zeroPadded 2 minute) ++ ':' :: zeroPadded 2 second ++
        fractionChars fraction ++ ['Z'])) =
      ofParts? ⟨year, month, day⟩ hour minute second fraction 0 := by
  have yearText : yearChars (year : Int) = zeroPadded 4 year := by
    rw [yearChars, if_pos (by omega), Int.toNat_natCast]
  have chars : dayChars ⟨year, month, day⟩ ++ 'T' ::
        (zeroPadded 2 hour ++ ':' :: zeroPadded 2 minute) ++ ':' :: zeroPadded 2 second ++
        fractionChars fraction ++ ['Z'] =
      zeroPadded 4 year ++ '-' :: (zeroPadded 2 month ++ '-' :: (zeroPadded 2 day ++ 'T' ::
        (zeroPadded 2 hour ++ ':' :: (zeroPadded 2 minute ++ ':' :: (zeroPadded 2 second ++
          (fractionChars fraction ++ ['Z'])))))) := by
    rw [dayChars, yearText]
    simp only [List.append_assoc, List.cons_append]
  have dash : isBlank '-' = false := rfl
  have colon : isBlank ':' = false := rfl
  rw [chars, parse?, String.toList_ofList]
  refine bind_of_eq_some (year?_zeroPadded years _) ?_
  refine bind_of_eq_some (mark?_cons dash _) ?_
  refine bind_of_eq_some (two?_zeroPadded months _) ?_
  refine bind_of_eq_some (mark?_cons dash _) ?_
  refine bind_of_eq_some (two?_zeroPadded days _) ?_
  refine bind_of_eq_some (Eq.refl (some _)) ?_
  refine bind_of_eq_some (two?_zeroPadded hours _) ?_
  refine bind_of_eq_some (mark?_cons colon _) ?_
  refine bind_of_eq_some (two?_zeroPadded minutes _) ?_
  refine bind_of_eq_some (mark?_cons colon _) ?_
  refine bind_of_eq_some (two?_zeroPadded seconds _) ?_
  refine bind_of_eq_some (fraction?_fractionChars fractions) ?_
  rfl

/-- A time of the clock is read as it was written. -/
theorem parse?_zuluText {i : Instant} (clock : i.IsClockTime) : parse? i.zuluText = some i := by
  obtain ⟨⟨year, isYear, years⟩, valid, number⟩ := day_of_clockTime clock
  have fraction := clock.fraction
  have late : 0 ≤ i.seconds := clock.late
  have ofDay : (i.secondOfDay : Int) = i.seconds % 86400 := by
    rw [secondOfDay, Int.fmod_eq_emod_of_nonneg _ (by decide)]
    omega
  have bounded : i.secondOfDay < 86400 := by omega
  have covered : isCoveredYear i.day.year = true := by
    rw [isYear]
    simp only [isCoveredYear, Bool.and_eq_true, decide_eq_true_eq]
    omega
  have days : i.day.month < 100 ∧ i.day.day < 100 := by
    have most : daysInMonth i.day.year i.day.month ≤ 31 := by
      unfold daysInMonth
      split
      · split <;> decide
      · split <;> decide
    simp only [Day.isValid, Bool.and_eq_true, decide_eq_true_eq] at valid
    omega
  have isDay : i.day = ⟨year, i.day.month, i.day.day⟩ := by
    rw [← isYear]
  rw [zuluText, timeChars, hourChars, isDay, Nat.div_eq_of_lt fraction, Nat.mod_eq_of_lt fraction,
    Nat.add_zero, parse?_chars years days.1 days.2 (by omega) (by omega) (by omega) fraction,
    ← isDay, ofParts?]
  have noLeap : (i.secondOfDay % 60 == 60) = false := by
    rw [beq_eq_false_iff_ne]
    omega
  have seconds : i.day.number * 86400 + (i.secondOfDay / 3600 : Nat) * 3600 +
      (i.secondOfDay / 60 % 60 : Nat) * 60 + (i.secondOfDay % 60 : Nat) - 0 = i.seconds := by
    rw [number]
    omega
  have inside : ¬ (!i.day.isValid || !isCoveredYear i.day.year ||
      decide (23 < i.secondOfDay / 3600) || decide (59 < i.secondOfDay / 60 % 60) ||
      decide (60 < i.secondOfDay % 60) || decide (86400 ≤ Int.natAbs 0)) = true := by
    simp only [valid, covered, Bool.not_true, Bool.false_or, Bool.or_eq_true, decide_eq_true_eq]
    omega
  rw [if_neg inside]
  simp only [noLeap, Bool.false_eq_true, if_false, seconds]
  exact if_pos covered

end Instant

end UtilityBilling.Session
