/-
# What records are read to

A record is built up from one without fields by entering what is read of its members or
items. So whatever holds of the record without fields and is kept by what every field
enters holds of every record that is read, in either of the two forms.
-/

import UtilityBilling.Json.Record

namespace UtilityBilling.Json

open UtilityBilling.Text (Bytes)

/-- A reading that goes on to a fault in any case ends in one. -/
theorem exists_fault_bind {α β : Type} (first : Except Fault α) {next : α → Except Fault β}
    (fails : ∀ value, ∃ fault, next value = .error fault) :
    ∃ fault, (first >>= next) = .error fault := by
  cases first with
  | error fault => exact ⟨fault, rfl⟩
  | ok value => exact fails value

/-- What is found of another type than wanted is a fault. -/
theorem exists_fault_wrongType {α : Type} (expected : String) (rest : Bytes) :
    ∃ fault, (wrongType expected rest : Except Fault α) = .error fault := by
  unfold wrongType
  split
  · exact ⟨_, rfl⟩
  · simp only
    -- Words, numbers and strings are read before the fault; what else there is is not.
    repeat' split
    all_goals
      first
        | exact exists_fault_bind _ fun _ => ⟨_, rfl⟩
        | exact ⟨_, rfl⟩

theorem failAfter_ne_ok {α : Type} (close : Bytes → Except (Fault × Bytes) Bytes)
    (problem : Problem) (rest : Bytes) (result : α) :
    (failAfter close problem rest : Except Fault α) ≠ .ok result := by
  unfold failAfter
  split <;> simp [failHere]

/-- What is made of a reading was read. -/
theorem exists_of_map_eq_ok {α β : Type} {read : Read α} {make : α × Bytes → β × Bytes}
    {made : β × Bytes} (done : read.map make = .ok made) :
    ∃ value rest, read = .ok (value, rest) ∧ make (value, rest) = made := by
  cases read with
  | error fault => cases done
  | ok found => exact ⟨found.1, found.2, rfl, Except.ok.inj done⟩

/-- A record that is closed is the one that was read. -/
theorem eq_of_closeRecord {α : Type} {close : Bytes → Except (Fault × Bytes) Bytes}
    {record result : α} {rest after : Bytes}
    (closed : closeRecord close record rest = .ok (result, after)) : result = record := by
  unfold closeRecord at closed
  split at closed
  · cases closed
    rfl
  · cases closed

/-- What a field enters into a record keeps a property of records. -/
def Field.Keeps {σ : Type} (field : Field σ) (holds : σ → Prop) : Prop :=
  ∀ depth rest enter after, field.read depth rest = .ok (enter, after) →
    ∀ record, holds record → holds (enter record)

variable {σ : Type} {holds : σ → Prop} {result : σ} {rest after : Bytes}

theorem readListed_keeps (size : String) (depth : Nat) {fields : List (Field σ)}
    (keeps : ∀ field ∈ fields, field.Keeps holds) {index : Nat} {first : Bool} {record : σ}
    (before : holds record)
    (read : readListed size depth index first fields record rest = .ok (result, after)) :
    holds result := by
  induction fields generalizing index first record rest with
  | nil =>
      rw [readListed] at read
      rw [eq_of_closeRecord read]
      exact before
  | cons field others ih =>
      have othersKeep : ∀ field ∈ others, field.Keeps holds :=
        fun field member => keeps field (List.mem_cons_of_mem _ member)
      rw [readListed] at read
      split at read
      · cases read
      · split at read
        · exact absurd read (failAfter_ne_ok _ _ _ _)
        · exact ih othersKeep before read
      · split at read
        · cases read
        case h_2 enter _ entered =>
          exact ih othersKeep
            (keeps field List.mem_cons_self _ _ _ _ entered record before) read

theorem readNamed_keeps {fields : List (Field σ)} (keeps : ∀ field ∈ fields, field.Keeps holds)
    (depth : Nat) {fuel : Nat} {first : Bool} {record : σ} (before : holds record)
    (read : readNamed fields depth fuel first record rest = .ok (result, after)) :
    holds result := by
  induction fuel generalizing first record rest with
  | zero => cases read
  | succ fuel ih =>
      rw [readNamed] at read
      split at read
      · cases read
      · split at read
        · exact absurd read (failAfter_ne_ok _ _ _ _)
        · rw [eq_of_closeRecord read]
          exact before
      · split at read
        · cases read
        · split at read
          case h_1 field found =>
            split at read
            · exact absurd read (failAfter_ne_ok _ _ _ _)
            · split at read
              · cases read
              · split at read
                · cases read
                case h_2 enter _ entered =>
                  have member := List.mem_of_find?_eq_some found
                  exact ih (keeps field member _ _ _ _ entered record before) read
          case h_2 =>
            split at read
            · cases read
            · split at read
              · cases read
              · exact ih before read

/-- What holds of the record without fields and is kept by every field holds of every record
that is read. -/
theorem readRecord_keeps {shape : Shape σ} (keeps : ∀ field ∈ shape.fields, field.Keeps holds)
    {start : σ} (atStart : holds start) {depth : Nat}
    (read : readRecord shape start depth rest = .ok (result, after)) : holds result := by
  unfold readRecord at read
  split at read
  · cases read
  · split at read
    · cases read
    · exact readListed_keeps _ _ keeps atStart read
  · split at read
    · cases read
    · exact readNamed_keeps keeps _ atStart read
  case h_4 =>
    obtain ⟨fault, failed⟩ : ∃ fault,
        (wrongType shape.described (skipSpace rest) : Read σ) = .error fault :=
      exists_fault_wrongType _ _
    rw [failed] at read
    cases read

end UtilityBilling.Json
