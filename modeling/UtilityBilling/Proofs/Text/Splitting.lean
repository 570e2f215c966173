/-
# Texts and their pieces

A text is split at the signs of a kind into pieces that hold none of them, and pieces that hold
none of them come back from the text that joins them by one.
-/

import Mathlib.Data.List.TakeWhile
import UtilityBilling.Text.Blank

namespace UtilityBilling.Text

variable {isSeparator : Char → Bool} {separator : Char}

theorem splitAll_ne_nil (isSeparator : Char → Bool) (text : List Char) :
    splitAll isSeparator text ≠ [] := by
  cases text with
  | nil => simp [splitAll]
  | cons c rest =>
      unfold splitAll
      split
      · simp
      · split <;> simp

/-- A separator splits what is before it from what is after it. -/
theorem splitAll_append (separates : isSeparator separator = true) (before after : List Char) :
    splitAll isSeparator (before ++ separator :: after) =
      splitAll isSeparator before ++ splitAll isSeparator after := by
  induction before with
  | nil => simp [splitAll, separates]
  | cons c rest ih =>
      rw [List.cons_append, splitAll, splitAll, ih]
      split
      · rfl
      · cases pieces : splitAll isSeparator rest with
        | nil => exact absurd pieces (splitAll_ne_nil isSeparator rest)
        | cons first others => rfl

/-- A text without separators is one piece. -/
theorem splitAll_of_none {text : List Char} (plain : ∀ c ∈ text, isSeparator c = false) :
    splitAll isSeparator text = [text] := by
  induction text with
  | nil => rfl
  | cons c rest ih =>
      obtain ⟨first, others⟩ := List.forall_mem_cons.mp plain
      rw [splitAll, ih others, if_neg (by simp [first])]

/-- No piece holds a separator. -/
theorem separates_of_mem {text piece : List Char} (member : piece ∈ splitAll isSeparator text)
    {c : Char} (inside : c ∈ piece) : isSeparator c = false := by
  induction text generalizing piece with
  | nil =>
      rw [splitAll, List.mem_singleton] at member
      rw [member] at inside
      cases inside
  | cons d rest ih =>
      rw [splitAll] at member
      split at member
      case isTrue =>
        rcases List.mem_cons.mp member with rfl | later
        · cases inside
        · exact ih later inside
      case isFalse plain =>
        cases pieces : splitAll isSeparator rest with
        | nil => exact absurd pieces (splitAll_ne_nil isSeparator rest)
        | cons first others =>
            rw [pieces] at member ih
            rcases List.mem_cons.mp member with rfl | later
            · rcases List.mem_cons.mp inside with rfl | further
              · simpa using plain
              · exact ih List.mem_cons_self further
            · exact ih (List.mem_cons_of_mem _ later) inside

/-- The pieces hold nothing that the text does not hold. -/
theorem mem_of_mem_piece {text piece : List Char} (member : piece ∈ splitAll isSeparator text)
    {c : Char} (inside : c ∈ piece) : c ∈ text := by
  induction text generalizing piece with
  | nil =>
      rw [splitAll, List.mem_singleton] at member
      rw [member] at inside
      cases inside
  | cons d rest ih =>
      rw [splitAll] at member
      split at member
      case isTrue =>
        rcases List.mem_cons.mp member with rfl | later
        · cases inside
        · exact List.mem_cons_of_mem d (ih later inside)
      case isFalse =>
        cases pieces : splitAll isSeparator rest with
        | nil => exact absurd pieces (splitAll_ne_nil isSeparator rest)
        | cons first others =>
            rw [pieces] at member ih
            rcases List.mem_cons.mp member with rfl | later
            · rcases List.mem_cons.mp inside with rfl | further
              · exact List.mem_cons_self
              · exact List.mem_cons_of_mem d (ih List.mem_cons_self further)
            · exact List.mem_cons_of_mem d (ih (List.mem_cons_of_mem _ later) inside)

/-- What is no separator is in a piece. -/
theorem exists_piece {text : List Char} {c : Char} (inside : c ∈ text)
    (plain : isSeparator c = false) : ∃ piece ∈ splitAll isSeparator text, c ∈ piece := by
  induction text with
  | nil => cases inside
  | cons d rest ih =>
      rw [splitAll]
      rcases List.mem_cons.mp inside with rfl | later
      · rw [if_neg (by simp [plain])]
        split
        · exact ⟨_, List.mem_cons_self, List.mem_cons_self⟩
        · exact ⟨_, List.mem_cons_self, List.mem_cons_self⟩
      · obtain ⟨piece, isPiece, held⟩ := ih later
        split
        case isTrue => exact ⟨piece, List.mem_cons_of_mem _ isPiece, held⟩
        case isFalse =>
          cases pieces : splitAll isSeparator rest with
          | nil => exact absurd pieces (splitAll_ne_nil isSeparator rest)
          | cons first others =>
              rw [pieces] at isPiece
              rcases List.mem_cons.mp isPiece with rfl | further
              · exact ⟨_, List.mem_cons_self, List.mem_cons_of_mem _ held⟩
              · exact ⟨piece, List.mem_cons_of_mem _ further, held⟩

/-- A text without separators is not split. -/
theorem splitFirst_of_none {text : List Char} (plain : ∀ c ∈ text, isSeparator c = false) :
    splitFirst isSeparator text = none := by
  induction text with
  | nil => rfl
  | cons c rest ih =>
      obtain ⟨first, others⟩ := List.forall_mem_cons.mp plain
      rw [splitFirst, if_neg (by simp [first]), ih others]
      rfl

/-- The first separator splits what is before it from what is after it. -/
theorem splitFirst_append {before : List Char} (plain : ∀ c ∈ before, isSeparator c = false)
    (separates : isSeparator separator = true) (after : List Char) :
    splitFirst isSeparator (before ++ separator :: after) = some (before, after) := by
  induction before with
  | nil => exact if_pos separates
  | cons c rest ih =>
      obtain ⟨first, others⟩ := List.forall_mem_cons.mp plain
      rw [List.cons_append, splitFirst, if_neg (by simp [first]), ih others]
      rfl

/-- A text has no separator, or a first one. -/
theorem exists_first (isSeparator : Char → Bool) (text : List Char) :
    (∀ c ∈ text, isSeparator c = false) ∨
      ∃ before separator after, text = before ++ separator :: after ∧
        isSeparator separator = true ∧ ∀ c ∈ before, isSeparator c = false := by
  induction text with
  | nil => exact .inl fun c within => absurd within List.not_mem_nil
  | cons c rest ih =>
      cases here : isSeparator c with
      | true => exact .inr ⟨[], c, rest, rfl, here, fun _ within => absurd within List.not_mem_nil⟩
      | false =>
          rcases ih with none_ | ⟨before, separator, after, rfl, separates, plain⟩
          · exact .inl (List.forall_mem_cons.mpr ⟨here, none_⟩)
          · exact .inr ⟨c :: before, separator, after, rfl, separates,
              List.forall_mem_cons.mpr ⟨here, plain⟩⟩

section Joining

variable {separator : String}

theorem joinWith_eq_intercalate (separator : String) (parts : List String) :
    joinWith separator parts = separator.intercalate parts := by
  induction parts with
  | nil => exact String.intercalate_nil.symm
  | cons first others ih =>
      cases others with
      | nil => exact String.intercalate_singleton.symm
      | cons second others => rw [joinWith, ih, String.intercalate_cons_cons]; simp

/-- The pieces behind the first one, each with the separator before it. -/
theorem toList_joinWith (sign : Char) (single : separator.toList = [sign]) (first : List Char)
    (others : List (List Char)) :
    (joinWith separator ((first :: others).map String.ofList)).toList =
      first ++ others.flatMap (sign :: ·) := by
  induction others generalizing first with
  | nil => simp [joinWith]
  | cons second others ih =>
      have more : (second :: others).map String.ofList ≠ [] := List.cons_ne_nil _ _
      rw [List.map_cons, joinWith.eq_3 separator _ _ more, String.toList_append,
        String.toList_append, ih second, single, String.toList_ofList, List.append_assoc]
      rfl

/-- Pieces without separators are split again after they are joined. -/
theorem splitAll_joinWith {sign : Char} (single : separator.toList = [sign])
    {pieces : List (List Char)} (some_ : pieces ≠ [])
    (plain : ∀ piece ∈ pieces, ∀ c ∈ piece, c ≠ sign) :
    splitAll (· == sign) (joinWith separator (pieces.map String.ofList)).toList = pieces := by
  obtain ⟨first, others, rfl⟩ := List.exists_cons_of_ne_nil some_
  rw [toList_joinWith sign single]
  induction others generalizing first with
  | nil =>
      rw [List.flatMap_nil, List.append_nil]
      exact splitAll_of_none fun c within =>
        beq_eq_false_iff_ne.mpr (plain first List.mem_cons_self c within)
  | cons second others ih =>
      obtain ⟨here, rest⟩ := List.forall_mem_cons.mp plain
      rw [List.flatMap_cons, List.cons_append, splitAll_append (by simp),
        ih second (List.cons_ne_nil _ _) rest,
        splitAll_of_none fun c within => beq_eq_false_iff_ne.mpr (here c within)]
      rfl

end Joining

theorem takeWhile_ne {stop : Char} {before : List Char} (none_ : ∀ c ∈ before, c ≠ stop)
    (after : List Char) :
    (before ++ stop :: after).takeWhile (· != stop) = before ∧
      (before ++ stop :: after).dropWhile (· != stop) = stop :: after := by
  have all : ∀ c ∈ before, (c != stop) = true := fun c within => bne_iff_ne.mpr (none_ c within)
  rw [List.takeWhile_append_of_pos all, List.dropWhile_append_of_pos all,
    List.takeWhile_cons_of_neg (by simp), List.dropWhile_cons_of_neg (by simp), List.append_nil]
  exact ⟨rfl, rfl⟩

theorem takeWhile_ne_all {stop : Char} {all : List Char} (none_ : ∀ c ∈ all, c ≠ stop) :
    all.takeWhile (· != stop) = all ∧ all.dropWhile (· != stop) = [] := by
  have keeps : ∀ c ∈ all, (c != stop) = true := fun c within => bne_iff_ne.mpr (none_ c within)
  exact ⟨List.takeWhile_eq_self_iff.mpr keeps, List.dropWhile_eq_nil_iff.mpr keeps⟩

end UtilityBilling.Text
