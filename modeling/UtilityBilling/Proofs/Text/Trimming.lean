/-
# Blanks around a text

Trimming takes off what there is of blanks at the two ends, and no more: every text is its
trimmed text with blanks around it, and blanks that are put around a text come off again.
-/

import UtilityBilling.Proofs.Text.Readable

namespace UtilityBilling.Text

/-- A text has no characters but blanks. -/
def AllBlank (text : List Char) : Prop :=
  ∀ c ∈ text, isBlank c = true

instance AllBlank.decidable (text : List Char) : Decidable (AllBlank text) :=
  decidable_of_iff (text.all isBlank = true) List.all_eq_true

/-- A text has no blank at its two ends. -/
structure Trimmed (text : List Char) : Prop where
  starts : ∀ c ∈ text.head?, isBlank c = false
  ends : ∀ c ∈ text.getLast?, isBlank c = false

variable {before text after : List Char}

namespace AllBlank

theorem nil : AllBlank [] :=
  fun _ within => absurd within List.not_mem_nil

theorem append (first : AllBlank before) (second : AllBlank after) : AllBlank (before ++ after) :=
  List.forall_mem_append.mpr ⟨first, second⟩

theorem trimLeft_append (blank : AllBlank before) (text : List Char) :
    trimLeft (before ++ text) = trimLeft text :=
  List.dropWhile_append_of_pos blank

theorem trimRight_append (blank : AllBlank after) (text : List Char) :
    trimRight (text ++ after) = trimRight text := by
  have reversed : AllBlank after.reverse := fun c within => blank c (List.mem_reverse.mp within)
  rw [trimRight, List.reverse_append, List.dropWhile_append_of_pos reversed, trimRight]

/-- Blanks that are put around a text come off again. -/
theorem trimBoth_around (start : AllBlank before) (stop : AllBlank after) (text : List Char) :
    trimBoth (before ++ text ++ after) = trimBoth text := by
  rw [trimBoth, List.append_assoc, start.trimLeft_append, trimLeft, List.dropWhile_append]
  split
  case isTrue none_ =>
    rw [trimBoth, trimLeft, List.isEmpty_iff.mp none_, List.dropWhile_eq_nil_iff.mpr stop]
  case isFalse => exact stop.trimRight_append _

end AllBlank

/-- What is taken off the end of a text is blank. -/
theorem exists_trimRight (text : List Char) :
    ∃ after, AllBlank after ∧ trimRight text ++ after = text := by
  refine ⟨(text.reverse.takeWhile isBlank).reverse, fun c within => ?_, ?_⟩
  · exact List.mem_takeWhile_imp (List.mem_reverse.mp within)
  · rw [trimRight, ← List.reverse_append, List.takeWhile_append_dropWhile, List.reverse_reverse]

/-- Every text is its trimmed text with blanks around it. -/
theorem exists_trimBoth (text : List Char) :
    ∃ before after, AllBlank before ∧ AllBlank after ∧ before ++ trimBoth text ++ after = text := by
  obtain ⟨after, stop, whole⟩ := exists_trimRight (trimLeft text)
  refine ⟨text.takeWhile isBlank, after, fun c => List.mem_takeWhile_imp, stop, ?_⟩
  rw [trimBoth, List.append_assoc, whole, trimLeft, List.takeWhile_append_dropWhile]

theorem trimBoth_eq_nil_iff : trimBoth text = [] ↔ AllBlank text := by
  constructor
  · intro none_
    obtain ⟨before, after, start, stop, whole⟩ := exists_trimBoth text
    rw [none_, List.append_nil] at whole
    exact whole ▸ start.append stop
  · intro blank
    rw [trimBoth, trimLeft, List.dropWhile_eq_nil_iff.mpr blank]
    rfl

theorem Readable.trimmed {text : String} (readable : Readable text) : Trimmed text.toList := by
  obtain ⟨⟨c, head, visible⟩, ⟨d, last, visible'⟩⟩ := readable
  constructor
  · rw [head]
    exact fun e first => Option.some.inj first ▸ visible
  · rw [last]
    exact fun e final => Option.some.inj final ▸ visible'

/-- What was trimmed has no blank at its ends. -/
theorem trimmed_trimBoth (text : List Char) : Trimmed (trimBoth text) := by
  have same : (trim (String.ofList text)).toList = trimBoth text := by
    rw [trim, String.toList_ofList, String.toList_ofList]
  rw [← same]
  by_cases none_ : trim (String.ofList text) = ""
  · rw [none_]
    constructor <;>
      · intro c at_end
        cases at_end
  · exact (readable_trim none_).trimmed

/-- A text without blanks at its ends stays as it is. -/
theorem Trimmed.trimBoth_eq (trimmed : Trimmed text) : trimBoth text = text := by
  have left : trimLeft text = text := by
    cases text with
    | nil => rfl
    | cons c rest => exact List.dropWhile_cons_of_neg (by simp [trimmed.starts c rfl])
  rw [trimBoth, left, trimRight]
  cases reversed : text.reverse with
  | nil => exact (List.reverse_eq_nil_iff.mp reversed).symm
  | cons c rest =>
      have last : text.getLast? = some c := by
        rw [← List.head?_reverse, reversed]
        rfl
      rw [List.dropWhile_cons_of_neg (by simp [trimmed.ends c last]), ← reversed,
        List.reverse_reverse]

theorem trimBoth_eq_self_iff : trimBoth text = text ↔ Trimmed text :=
  ⟨fun same => same ▸ trimmed_trimBoth text, Trimmed.trimBoth_eq⟩

theorem trim_eq_self_iff {text : String} : trim text = text ↔ Trimmed text.toList := by
  rw [← trimBoth_eq_self_iff, trim, ← String.toList_inj, String.toList_ofList]

/-- A trimmed text is what is left of the blanks around it. -/
theorem Trimmed.trimBoth_between (trimmed : Trimmed text) (start : AllBlank before)
    (stop : AllBlank after) : trimBoth (before ++ text ++ after) = text :=
  (start.trimBoth_around stop text).trans trimmed.trimBoth_eq

theorem trimRight_cons {c : Char} (visible : isBlank c = false) (rest : List Char) :
    trimRight (c :: rest) = c :: trimRight rest := by
  have kept : [c].dropWhile isBlank = [c] := List.dropWhile_cons_of_neg (by simp [visible])
  rw [trimRight, trimRight, List.reverse_cons, List.dropWhile_append]
  split
  case isTrue none_ =>
    rw [kept, List.isEmpty_iff.mp none_]
    rfl
  case isFalse => rw [List.reverse_append, List.reverse_singleton, List.singleton_append]

/-- Of a text with a character to be seen before it only the end is trimmed. -/
theorem AllBlank.trimBoth_cons (start : AllBlank before) {c : Char} (visible : isBlank c = false)
    (rest : List Char) : trimBoth (before ++ c :: rest) = c :: trimRight rest := by
  have left : trimLeft (c :: rest) = c :: rest := List.dropWhile_cons_of_neg (by simp [visible])
  rw [trimBoth, start.trimLeft_append, left, trimRight_cons visible]

/-- Trimming takes off the end whether or not this was done before. -/
theorem trimBoth_trimRight (text : List Char) : trimBoth (trimRight text) = trimBoth text := by
  obtain ⟨after, stop, whole⟩ := exists_trimRight text
  rw [← AllBlank.nil.trimBoth_around stop, List.nil_append, whole]

end UtilityBilling.Text
