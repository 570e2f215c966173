/-
# Texts with something to see

A text that is not blank has a character that is no white space, and trimming leaves it one.
The compact text of a value is never blank: a number has a digit, and everything else starts
with a letter, a quote or a bracket.
-/

import UtilityBilling.Json.Value

namespace UtilityBilling.Text

/-- A list of characters has one that is no blank. -/
def HasInk (text : List Char) : Prop :=
  ∃ c ∈ text, isBlank c = false

namespace HasInk

variable {text : List Char} {c : Char}

theorem cons (visible : isBlank c = false) (rest : List Char) : HasInk (c :: rest) :=
  ⟨c, List.mem_cons_self, visible⟩

theorem append_left (ink : HasInk text) (rest : List Char) : HasInk (text ++ rest) := by
  obtain ⟨c, member, visible⟩ := ink
  exact ⟨c, List.mem_append_left rest member, visible⟩

theorem append_right (ink : HasInk text) (lead : List Char) : HasInk (lead ++ text) := by
  obtain ⟨c, member, visible⟩ := ink
  exact ⟨c, List.mem_append_right lead member, visible⟩

theorem reverse (ink : HasInk text) : HasInk text.reverse := by
  obtain ⟨c, member, visible⟩ := ink
  exact ⟨c, List.mem_reverse.mpr member, visible⟩

theorem trimLeft (ink : HasInk text) : HasInk (trimLeft text) := by
  induction text with
  | nil =>
      obtain ⟨c, member, _⟩ := ink
      cases member
  | cons first rest ih =>
      rw [Text.trimLeft, List.dropWhile_cons]
      split
      case isFalse => exact ink
      case isTrue blank =>
        obtain ⟨c, member, visible⟩ := ink
        rcases List.mem_cons.mp member with rfl | later
        · rw [visible] at blank
          cases blank
        · exact ih ⟨c, later, visible⟩

theorem trim_ne_empty (ink : HasInk text) : trim (String.ofList text) ≠ "" := by
  have trimmed : HasInk (trimBoth (String.ofList text).toList) := by
    rw [String.toList_ofList]
    exact ink.trimLeft.reverse.trimLeft.reverse
  rw [trim, Ne, String.ofList_eq_empty_iff]
  intro empty
  rw [empty] at trimmed
  obtain ⟨c, member, _⟩ := trimmed
  cases member

end HasInk

end UtilityBilling.Text

namespace UtilityBilling.Number

open UtilityBilling.Text (HasInk isBlank)

/-- A decimal digit is no blank. -/
theorem isBlank_of_isDigit {c : Char} (digit : c.isDigit = true) : isBlank c = false := by
  simp only [Char.isDigit, Bool.and_eq_true, decide_eq_true_eq] at digit
  have low : 48 ≤ c.toNat := digit.1
  have high : c.toNat ≤ 57 := digit.2
  simp only [isBlank, Bool.or_eq_false_iff, Bool.and_eq_false_iff, decide_eq_false_iff_not,
    beq_eq_false_iff_ne]
  omega

theorem hasInk_toDigits (n : Nat) : HasInk (Nat.toDigits 10 n) := by
  have nonempty : Nat.toDigits 10 n ≠ [] := Nat.toDigits_ne_nil
  obtain ⟨c, member⟩ := List.exists_mem_of_ne_nil _ nonempty
  have digit := Nat.isDigit_of_mem_toDigits (by decide) (by decide) member
  exact ⟨c, member, isBlank_of_isDigit digit⟩

theorem Decimal.hasInk_text (d : Decimal) : HasInk d.text := by
  unfold Decimal.text
  simp only
  split
  · split
    · exact .cons rfl _
    · split
      · exact ((hasInk_toDigits _).append_left _).append_left _
      · exact (HasInk.cons rfl _).append_right _
  · exact (HasInk.cons rfl _).append_right _

theorem Binary64.hasInk_text (x : Binary64) : HasInk x.text := by
  unfold Binary64.text
  simp only
  split
  · exact .cons rfl _
  · split
    · exact .cons rfl _
    · exact Decimal.hasInk_text _

end UtilityBilling.Number

namespace UtilityBilling.Json

open UtilityBilling.Text (HasInk)
open UtilityBilling.Number

theorem Num.hasInk_chars (n : Num) : HasInk n.chars := by
  match n with
  | .whole (.ofNat n) => exact hasInk_toDigits n
  | .whole (.negSucc n) => exact .cons rfl _
  | .float value => exact value.hasInk_text

/-- The compact text of a value always has something to see. -/
theorem Value.hasInk_chars (value : Value) : HasInk value.chars := by
  cases value with
  | null => exact .cons rfl _
  | bool value => cases value <;> exact .cons rfl _
  | number n => exact n.hasInk_chars
  | text s => exact .cons rfl _
  | list items => exact .cons rfl _
  | object members => exact .cons rfl _

end UtilityBilling.Json
