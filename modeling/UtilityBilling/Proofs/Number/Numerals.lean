/-
# Numerals are read by their digits

A numeral that is within its bound is read as the number that its digits make, with or without a
plus sign and whatever zeros it starts with; no other text is read. A number that grows beyond the
bound on the way never comes back below it, so it is no loss that reading stops there.
-/

import Mathlib.Data.List.Basic
import UtilityBilling.Number.Numeral

namespace UtilityBilling.Number

variable {text digits : List Char} {bound start n : Nat}

/-- A text is the decimal numeral of a number: one digit or more, possibly behind a plus sign. -/
inductive IsNumeral : List Char → Nat → Prop where
  | plain {digits : List Char} {n : Nat} (some_ : digits ≠ [])
      (each : ∀ c ∈ digits, c.isDigit = true) (value : Nat.ofDigitChars 10 digits 0 = n) :
      IsNumeral digits n
  | plus {digits : List Char} {n : Nat} (some_ : digits ≠ [])
      (each : ∀ c ∈ digits, c.isDigit = true) (value : Nat.ofDigitChars 10 digits 0 = n) :
      IsNumeral ('+' :: digits) n

theorem digit?_eq (c : Char) :
    digit? c = if c.isDigit = true then some (c.toNat - '0'.toNat) else none := by
  rw [digit?]
  refine if_congr ?_ rfl rfl
  rw [Char.isDigit, Bool.and_eq_true, decide_eq_true_eq, decide_eq_true_eq]
  rfl

/-- Digits never make a number smaller than the one they continue. -/
theorem le_ofDigitChars (digits : List Char) (start : Nat) :
    start ≤ Nat.ofDigitChars 10 digits start := by
  induction digits generalizing start with
  | nil => exact Nat.le_refl _
  | cons c rest ih =>
      rw [Nat.ofDigitChars_cons]
      exact Nat.le_trans (by omega) (ih _)

/-- A number is continued up to the end of the text exactly by digits that stay within the
bound. -/
theorem extendBy_eq_ok_iff {beyond : NumeralError} (within : start ≤ bound) :
    extendBy bound beyond start digits = .ok n ↔
      (∀ c ∈ digits, c.isDigit = true) ∧ Nat.ofDigitChars 10 digits start = n ∧ n ≤ bound := by
  induction digits generalizing start with
  | nil =>
      rw [extendBy, Except.ok.injEq]
      exact ⟨fun same => ⟨fun _ none_ => absurd none_ List.not_mem_nil, same, same ▸ within⟩,
        fun held => held.2.1⟩
  | cons c rest ih =>
      rw [extendBy, digit?_eq, List.forall_mem_cons, Nat.ofDigitChars_cons, Nat.mul_comm 10 start]
      cases digit : c.isDigit with
      | false => exact iff_of_false nofun fun held => absurd held.1.1 Bool.false_ne_true
      | true =>
          rw [if_pos rfl]
          dsimp only
          split
          case isTrue above =>
            refine iff_of_false nofun fun held => ?_
            have grown := le_ofDigitChars rest (start * 10 + (c.toNat - '0'.toNat))
            rw [held.2.1] at grown
            exact absurd (Nat.le_trans grown held.2.2) (Nat.not_le.mpr above)
          case isFalse below => simp only [ih (Nat.not_lt.mp below), true_and]

theorem isNumeral_plus_iff :
    IsNumeral ('+' :: digits) n ↔
      digits ≠ [] ∧ (∀ c ∈ digits, c.isDigit = true) ∧ Nat.ofDigitChars 10 digits 0 = n := by
  constructor
  · rintro (⟨-, each, -⟩ | ⟨some_, each, value⟩)
    · cases each '+' List.mem_cons_self
    · exact ⟨some_, each, value⟩
  · rintro ⟨some_, each, value⟩
    exact .plus some_ each value

/-- The numerals within a bound, and no other texts, are read, as what they stand for. -/
theorem natural_eq_ok_iff : natural bound text = .ok n ↔ IsNumeral text n ∧ n ≤ bound := by
  unfold natural
  split
  case h_1 =>
    refine iff_of_false nofun fun ⟨numeral, _⟩ => ?_
    cases numeral with
    | plain some_ => exact some_ rfl
  case h_2 =>
    exact iff_of_false nofun fun ⟨numeral, _⟩ => (isNumeral_plus_iff.mp numeral).1 rfl
  case h_3 =>
    refine iff_of_false nofun fun ⟨numeral, _⟩ => ?_
    cases numeral with
    | plain _ each => cases each '-' List.mem_cons_self
  case h_4 digits alone =>
    rw [extendBy_eq_ok_iff (Nat.zero_le bound), isNumeral_plus_iff]
    have some_ : digits ≠ [] := fun none_ => alone (none_ ▸ rfl)
    simp only [some_, ne_eq, not_false_eq_true, true_and, and_assoc]
  case h_5 digits some_ _ _ noPlus =>
    rw [extendBy_eq_ok_iff (Nat.zero_le bound)]
    constructor
    · rintro ⟨each, value, within⟩
      exact ⟨.plain some_ each value, within⟩
    · rintro ⟨numeral, within⟩
      cases numeral with
      | plain _ each value => exact ⟨each, value, within⟩
      | plus _ _ _ => exact absurd rfl (noPlus _)

/-- A text is the numeral of one number only. -/
theorem IsNumeral.unique {m : Nat} (first : IsNumeral text m) (second : IsNumeral text n) :
    m = n := by
  have read : natural (max m n) text = .ok m :=
    natural_eq_ok_iff.mpr ⟨first, Nat.le_max_left m n⟩
  rw [natural_eq_ok_iff.mpr ⟨second, Nat.le_max_right m n⟩] at read
  exact (Except.ok.inj read).symm

/-- The digits of a number are its numeral. -/
theorem isNumeral_toDigits (n : Nat) : IsNumeral (Nat.toDigits 10 n) n :=
  .plain Nat.toDigits_ne_nil (fun _ => Nat.isDigit_of_mem_toDigits (by decide) (by decide))
    (Nat.ofDigitChars_toDigits (by decide) (by decide))

end UtilityBilling.Number
