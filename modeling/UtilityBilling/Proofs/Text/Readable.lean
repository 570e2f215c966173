/-
# Texts without blanks at their ends

A text that starts and ends with a character to be seen is not blank, and trimming leaves it as
it is. Trimmed texts are such texts unless they are empty, and so are numbers, and what is put
together of such texts.
-/

import Mathlib.Data.List.DropRight
import UtilityBilling.Proofs.Json.Ink

namespace UtilityBilling.Text

/-- A text starts and ends with a character that is no blank. So it is not empty. -/
structure Readable (text : String) : Prop where
  starts : ∃ c, text.toList.head? = some c ∧ isBlank c = false
  ends : ∃ c, text.toList.getLast? = some c ∧ isBlank c = false

/-- What can be computed of the two ends of a text. -/
theorem readable_of_ends {text : String}
    (first : text.toList.head?.any (fun c => !isBlank c) = true)
    (last : text.toList.getLast?.any (fun c => !isBlank c) = true) : Readable text := by
  obtain ⟨c, head, visible⟩ := (Option.any_eq_true _ _).mp first
  obtain ⟨d, tail, visible'⟩ := (Option.any_eq_true _ _).mp last
  exact ⟨⟨c, head, by simpa using visible⟩, ⟨d, tail, by simpa using visible'⟩⟩

/-- A text that holds no blank is readable, unless it is empty. -/
theorem readable_of_forall {text : String} (some_ : text.toList ≠ [])
    (visible : ∀ c ∈ text.toList, isBlank c = false) : Readable text := by
  constructor
  · exact ⟨_, List.head?_eq_some_head some_, visible _ (List.head_mem some_)⟩
  · exact ⟨_, List.getLast?_eq_some_getLast some_, visible _ (List.getLast_mem some_)⟩

/-- Whatever stands between two readable texts, the whole is readable. -/
theorem Readable.around {first last : String} (starts : Readable first) (ends : Readable last)
    (between : String) : Readable (first ++ between ++ last) := by
  obtain ⟨c, head, visible⟩ := starts.starts
  obtain ⟨d, tail, visible'⟩ := ends.ends
  constructor
  · exact ⟨c, by simp [head], visible⟩
  · exact ⟨d, by simp [tail], visible'⟩

/-- A number in digits is readable. -/
theorem readable_toString (n : Nat) : Readable (toString n) := by
  have digits : (toString n).toList = Nat.toDigits 10 n := Nat.toList_repr
  apply readable_of_forall
  · rw [digits]
    exact Nat.toDigits_ne_nil
  · intro c within
    rw [digits] at within
    exact Number.isBlank_of_isDigit (Nat.isDigit_of_mem_toDigits (by decide) (by decide) within)

/-- What is left of dropping blanks starts with something that is kept. -/
theorem exists_head?_of_trimLeft {text : List Char} (some_ : trimLeft text ≠ []) :
    ∃ c, (trimLeft text).head? = some c ∧ isBlank c = false := by
  have kept := List.head?_dropWhile_not isBlank text
  rw [← trimLeft, List.head?_eq_some_head some_] at kept
  exact ⟨_, List.head?_eq_some_head some_, by simpa using kept⟩

/-- A text that is not blank is readable once it is trimmed. -/
theorem readable_trim {text : String} (some_ : trim text ≠ "") : Readable (trim text) := by
  have same : (trim text).toList = trimRight (trimLeft text.toList) := String.toList_ofList
  have right : trimRight (trimLeft text.toList) ≠ [] := by
    intro empty
    exact some_ (String.toList_inj.mp (same.trans empty))
  constructor
  · -- Dropping blanks at the end leaves a lead of the text, which starts as the text does.
    have left : trimLeft text.toList ≠ [] := by
      intro empty
      exact right (by rw [empty]; rfl)
    obtain ⟨c, head, visible⟩ := exists_head?_of_trimLeft left
    have lead : trimRight (trimLeft text.toList) <+: trimLeft text.toList :=
      List.rdropWhile_prefix isBlank _
    refine ⟨c, ?_, visible⟩
    rw [same, ← head, List.head?_eq_some_head right, List.head?_eq_some_head left,
      lead.head right]
  · have reversed : trimLeft (trimLeft text.toList).reverse ≠ [] := by
      intro empty
      exact right (congrArg List.reverse empty)
    obtain ⟨c, head, visible⟩ := exists_head?_of_trimLeft reversed
    exact ⟨c, by rw [same, ← head]; exact List.getLast?_reverse, visible⟩

/-- Readable texts are readable when they are joined. -/
theorem readable_intercalate {texts : List String} (separator : String) (some_ : texts ≠ [])
    (each : ∀ text ∈ texts, Readable text) : Readable (separator.intercalate texts) := by
  induction texts with
  | nil => exact absurd rfl some_
  | cons first others ih =>
      obtain ⟨here, rest⟩ := List.forall_mem_cons.mp each
      by_cases last : others = []
      · rw [last, String.intercalate_singleton]
        exact here
      · rw [String.intercalate_cons_of_ne_nil last]
        exact here.around (ih last rest) separator

end UtilityBilling.Text
