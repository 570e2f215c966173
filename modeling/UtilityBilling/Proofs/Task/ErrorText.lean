/-
# The error texts of statuses

A status says in words why its task failed, or it says nothing: a text that has only blanks
is dropped when the status is read, and a value that is no text shows as JSON, which always
has something to see. So the message of a failed task is never blank.
-/

import UtilityBilling.Proofs.Json.Ink
import UtilityBilling.Proofs.Json.Records
import UtilityBilling.Proofs.Task.Schedule

namespace UtilityBilling.Task

open UtilityBilling.Text (trim HasInk Bytes)
open UtilityBilling.Json (Value)

/-- The error text in a value is not blank. -/
theorem trim_errorText_ne_empty {value : Option Value} {text : String}
    (given : errorText value = some text) : trim text ≠ "" := by
  match value with
  | none => cases given
  | some .null => cases given
  | some (.text words) =>
      simp only [errorText] at given
      split at given
      · cases given
      case isFalse visible =>
        cases given
        exact visible
  | some (.bool _) | some (.number _) | some (.list _) | some (.object _) =>
      cases given
      exact (Value.hasInk_chars _).trim_ne_empty

theorem trim_genericFailure_ne_empty : trim genericFailure ≠ "" := by
  have ink : HasInk genericFailure.toList := .cons rfl _
  have text : String.ofList genericFailure.toList = genericFailure := String.ofList_toList
  rw [← text]
  exact ink.trim_ne_empty

/-- The error text of a status under construction is not blank, if there is one. -/
def StatusDraft.Legible (draft : StatusDraft) : Prop :=
  ∀ text, draft.error = some (some text) → trim text ≠ ""

/-- What a field enters leaves the error text of a status legible. -/
theorem statusShape_keeps :
    ∀ field ∈ statusShape.fields, field.Keeps StatusDraft.Legible := by
  intro field member depth rest enter after read draft legible
  simp only [statusShape, List.mem_cons, List.not_mem_nil, or_false] at member
  rcases member with rfl | rfl | rfl | rfl | rfl
  case inr.inr.inr.inl =>
    obtain ⟨value, r, _, entered⟩ := Json.exists_of_map_eq_ok read
    cases entered
    intro text given
    exact trim_errorText_ne_empty (Option.some.inj given)
  -- The other fields do not touch the error text.
  all_goals
    obtain ⟨value, r, _, entered⟩ := Json.exists_of_map_eq_ok read
    cases entered
    exact legible

/-- The error text of a status that was read is not blank. -/
theorem trim_error_ne_empty {bytes : Bytes} {status : Status} {text : String}
    (read : Json.decode readStatus bytes = .ok status) (given : status.error = some text) :
    trim text ≠ "" := by
  have parsed : Json.readAll readStatus bytes = .ok status := by
    unfold Json.decode at read
    split at read
    · cases read
    case h_2 result parsed =>
      cases read
      exact parsed
  unfold Json.readAll at parsed
  split at parsed
  · cases parsed
  case h_2 result rest found =>
    obtain ⟨draft, r, drafted, made⟩ := Json.exists_of_map_eq_ok found
    have legible : draft.Legible :=
      Json.readRecord_keeps statusShape_keeps (by simp [StatusDraft.Legible]) drafted
    have same : result = status := by
      cases ended : Json.readEnd rest with
      | error fault => simp [ended, Except.map] at parsed
      | ok _ => simpa [ended, Except.map] using parsed
    cases made
    rw [← same] at given
    cases error : draft.error with
    | none => simp [error] at given
    | some words =>
        rw [error] at given
        exact legible text (by rw [error]; exact congrArg some given)

/-- The message of a failed task is the error text of its status, or the general one where
there is none, and not blank. -/
theorem failed_message {bytes : Bytes} {status : Status} {taskId message : String}
    (read : Json.decode readStatus bytes = .ok status)
    (failed : conclusion? taskId (.ok status) = some (.error (.failed message))) :
    trim message ≠ "" ∧
      (status.error = some message ∨ status.error = none ∧ message = genericFailure) := by
  have given : status.error.getD genericFailure = message := by
    simp only [conclusion?] at failed
    split at failed
    · cases failed
    · split at failed
      · cases failed
        rfl
      · cases failed
  cases error : status.error with
  | none =>
      rw [error] at given
      subst given
      exact ⟨trim_genericFailure_ne_empty, .inr ⟨rfl, rfl⟩⟩
  | some text =>
      rw [error] at given
      subst given
      exact ⟨trim_error_ne_empty read error, .inl rfl⟩

end UtilityBilling.Task
