/-
# Letter case

Letter case is that of ASCII alone: every other character stays as it is when a text is made
small. So the case of a text has no bearing on its blanks and its slashes.
-/

import UtilityBilling.Proofs.Text.Utf8
import UtilityBilling.Text.Blank

namespace UtilityBilling.Text

/-- A character that is no capital letter of ASCII is a small one already. -/
theorem toLower_of_not_upper {c : Char} (small : c.toNat < 0x41 ∨ 0x5A < c.toNat) :
    c.toLower = c := by
  refine dif_neg fun upper => ?_
  simp only [UInt32.le_iff_toNat_le] at upper
  change 0x41 ≤ c.toNat ∧ c.toNat ≤ 0x5A at upper
  omega

/-- What holds of ASCII and of all that is small already holds of every character. -/
theorem toLower_eq_or_ascii (c : Char) : c.toLower = c ∨ c.toNat < 0x80 := by
  by_cases ascii : c.toNat < 0x80
  · exact .inr ascii
  · exact .inl (toLower_of_not_upper (by omega))

/-- A character is its small letter, or the capital of it. -/
theorem eq_or_eq_toUpper (c : Char) : c = c.toLower ∨ c = c.toLower.toUpper := by
  rcases toLower_eq_or_ascii c with small | ascii
  · exact .inl small.symm
  · have back : ∀ c : Char, c.toNat < 0x80 → c = c.toLower ∨ c = c.toLower.toUpper :=
      Utf8.forall_ascii (by decide)
    exact back c ascii

/-- Small letters and capitals are no blanks. -/
theorem isBlank_toLower (c : Char) : isBlank c.toLower = isBlank c := by
  rcases toLower_eq_or_ascii c with small | ascii
  · rw [small]
  · have same : ∀ c : Char, c.toNat < 0x80 → isBlank c.toLower = isBlank c :=
      Utf8.forall_ascii (by decide +kernel)
    exact same c ascii

/-- Small letters and capitals are no slashes. -/
theorem toLower_eq_slash_iff (c : Char) : c.toLower = '/' ↔ c = '/' := by
  rcases toLower_eq_or_ascii c with small | ascii
  · rw [small]
  · have same : ∀ c : Char, c.toNat < 0x80 → (c.toLower = '/' ↔ c = '/') :=
      Utf8.forall_ascii (by decide)
    exact same c ascii

end UtilityBilling.Text
