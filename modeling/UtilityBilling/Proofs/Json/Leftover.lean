/-
# What reading leaves

Whatever is read or passed over, no more bytes are left than there were. A member of an object
takes at least the quote of its key, so the fuel with which the members of a record are read
never runs out.
-/

import UtilityBilling.Proofs.Json.Grammar

namespace UtilityBilling.Json

open UtilityBilling.Text

variable {rest after : Bytes}

theorem length_skipSpace (rest : Bytes) : (skipSpace rest).length ≤ rest.length :=
  List.length_dropWhile_le isSpace rest

/-- A byte behind blanks is one byte less. -/
theorem length_of_skipSpace {byte : UInt8} (skipped : skipSpace rest = byte :: after) :
    after.length < rest.length := by
  have bound := length_skipSpace rest
  rw [skipped, List.length_cons] at bound
  omega

theorem length_readWord {wanted : Bytes} (read : readWord wanted rest = .ok after) :
    after.length ≤ rest.length := by
  rw [readWord_eq_ok_iff.mp read, List.length_append]
  omega

theorem length_readHex {code : Nat} (read : readHex rest = .ok (code, after)) :
    after.length ≤ rest.length := by
  unfold readHex at read
  split at read
  · split at read
    · cases read
      simp only [List.length_cons]
      omega
    · cases read
  · cases read

theorem length_readLowSurrogate {high : Nat} {c : Char}
    (read : readLowSurrogate high rest = .ok (c, after)) : after.length ≤ rest.length := by
  unfold readLowSurrogate at read
  split at read
  case h_3 beyond =>
    split at read
    · cases read
    case h_2 low left found =>
      have bound := length_readHex found
      split at read
      · cases read
      · obtain ⟨-, rfl⟩ := Prod.mk.inj (Except.ok.inj read)
        simp only [List.length_cons]
        omega
  all_goals cases read

theorem length_readCode {c : Char} (read : readCode rest = .ok (c, after)) :
    after.length ≤ rest.length := by
  unfold readCode at read
  split at read
  · cases read
  case h_2 code left found =>
    have bound := length_readHex found
    split_ifs at read
    · cases read
    · exact (length_readLowSurrogate read).trans bound
    · cases read
      exact bound

theorem length_readEscape {c : Char} (read : readEscape rest = .ok (c, after)) :
    after.length ≤ rest.length := by
  unfold readEscape at read
  split at read
  · cases read
  case h_2 byte beyond =>
    rw [List.length_cons]
    split at read
    · cases read
      omega
    · split_ifs at read
      · have := length_readCode read
        omega
      · cases read

theorem length_readStringFrom {fuel : Nat} {held : Bytes} {text : String}
    (read : readStringFrom fuel held rest = .ok (text, after)) : after.length ≤ rest.length := by
  induction fuel generalizing held rest with
  | zero => cases read
  | succ fuel ih =>
      cases rest with
      | nil => cases read
      | cons byte rest =>
          rw [readStringFrom] at read
          rw [List.length_cons]
          split_ifs at read
          · split at read
            · cases read
              omega
            · cases read
          · split at read
            · cases read
            case h_2 c beyond found =>
              have := length_readEscape found
              have := ih read
              omega
          · cases read
          · have := ih read
            omega

theorem length_readString {text : String} (read : readString rest = .ok (text, after)) :
    after.length ≤ rest.length :=
  length_readStringFrom read

theorem length_passStringFrom {fuel : Nat} (passed : passStringFrom fuel rest = .ok after) :
    after.length ≤ rest.length := by
  induction fuel generalizing rest with
  | zero => cases passed
  | succ fuel ih =>
      cases rest with
      | nil => cases passed
      | cons byte rest =>
          unfold passStringFrom at passed
          rw [List.length_cons]
          split_ifs at passed
          · cases passed
            omega
          · split at passed
            · cases passed
            case h_2 kind beyond =>
              rw [List.length_cons]
              split_ifs at passed
              · have := ih passed
                omega
              · split at passed
                · cases passed
                case h_2 code further found =>
                  have := length_readHex found
                  have := ih passed
                  omega
              · cases passed
          · cases passed
          · have := ih passed
            omega

/-- A sign in front of an exponent may be dropped. -/
theorem length_unsigned (mark : Bytes) :
    (match mark with
      | 43 :: after => after
      | 45 :: after => after
      | after => after).length ≤ mark.length := by
  split <;> simp

theorem length_passExponent (passed : passExponent rest = .ok after) :
    after.length ≤ rest.length := by
  unfold passExponent at passed
  have drops : (rest.drop 1).length ≤ rest.length := by simp
  have unsigned := (length_unsigned (rest.drop 1)).trans drops
  dsimp only at passed
  split at passed
  · cases passed
  case h_2 byte beyond same =>
    have bound : (byte :: beyond).length ≤ rest.length := same ▸ unsigned
    rw [List.length_cons] at bound
    split_ifs at passed
    · cases passed
      have := List.length_dropWhile_le isDigitByte beyond
      omega
    · cases passed

theorem length_passPlaces (passed : passPlaces rest = .ok after) :
    after.length ≤ rest.length := by
  unfold passPlaces at passed
  split at passed
  case h_1 places =>
    have bound := List.length_dropWhile_le isDigitByte places
    rw [List.length_cons]
    dsimp only at passed
    split_ifs at passed
    · cases passed
    · have := length_passExponent passed
      omega
    · cases passed
      omega
  case h_2 =>
    split_ifs at passed
    · exact length_passExponent passed
    · cases passed
      exact Nat.le_refl _

theorem length_passNumber (passed : passNumber rest = .ok after) : after.length ≤ rest.length := by
  unfold passNumber at passed
  split at passed
  · cases passed
  case h_2 byte beyond =>
    rw [List.length_cons]
    split at passed
    · cases passed
    · split_ifs at passed
      · cases passed
      · have := length_passPlaces passed
        omega
    · have := length_passPlaces passed
      have := List.length_dropWhile_le isDigitByte beyond
      omega

theorem length_readColon (read : readColon rest = .ok after) : after.length ≤ rest.length := by
  unfold readColon at read
  split at read
  · cases read
  case h_2 skipped =>
    cases read
    exact (length_of_skipSpace skipped).le
  · cases read

theorem length_passKey (passed : passKey rest = .ok after) : after.length ≤ rest.length := by
  unfold passKey at passed
  split at passed
  · cases passed
  case h_2 beyond skipped =>
    split at passed
    · cases passed
    case h_2 left found =>
      have := length_of_skipSpace skipped
      have := length_passStringFrom found
      have := length_readColon passed
      omega
  · cases passed

/-- A word, a number or a string of a value that is passed over starts with a given byte. -/
theorem length_passToken {byte : UInt8} {beyond : Bytes}
    (passed : (if byte == 110 then readWord nullTail beyond
      else if byte == 116 then readWord trueTail beyond
      else if byte == 102 then readWord falseTail beyond
      else if byte == 45 then passNumber beyond
      else if isDigitByte byte then passNumber (byte :: beyond)
      else if byte == 34 then passString beyond
      else failNext .expectedValue (byte :: beyond)) = .ok after) :
    after.length ≤ beyond.length + 1 := by
  split_ifs at passed
  · exact (length_readWord passed).trans (Nat.le_succ _)
  · exact (length_readWord passed).trans (Nat.le_succ _)
  · exact (length_readWord passed).trans (Nat.le_succ _)
  · exact (length_passNumber passed).trans (Nat.le_succ _)
  · exact length_passNumber passed
  · exact (length_passStringFrom passed).trans (Nat.le_succ _)
  · cases passed

/-- What a comma leads to, or the byte behind an opening bracket. -/
theorem length_start {byte : UInt8} {beyond : Bytes} (passage : Passage)
    (skipped : skipSpace rest = byte :: beyond) :
    (if passage == .closed then beyond else byte :: beyond).length ≤ rest.length := by
  have shorter := length_of_skipSpace skipped
  split
  · exact shorter.le
  · exact shorter

theorem length_passFrom {fuel : Nat} {passage : Passage} {open_ : List Bracket}
    (passed : passFrom fuel passage open_ rest = .ok after) : after.length ≤ rest.length := by
  fun_induction passFrom fuel passage open_ rest with
  | case1 | case4 | case7 | case9 | case11 | case14 => cases passed
  | case2 | case3 =>
      cases passed
      exact Nat.le_refl _
  | case5 _ _ _ _ _ skipped _ ih | case6 _ _ _ _ _ skipped _ _ ih
  | case13 _ _ _ _ _ _ _ _ skipped _ _ _ ih =>
      exact (ih passed).trans (length_of_skipSpace skipped).le
  | case8 _ _ _ _ _ skipped _ _ _ _ found ih =>
      have := length_of_skipSpace skipped
      have := length_passToken found
      have := ih passed
      omega
  | case10 _ _ _ _ _ _ _ skipped _ _ _ ih =>
      exact (ih passed).trans (length_start _ skipped)
  | case12 _ _ _ _ _ _ _ skipped _ _ found _ _ ih =>
      exact ((ih passed).trans (length_passKey found)).trans (length_start _ skipped)

theorem length_passValue (passed : passValue rest = .ok after) : after.length ≤ rest.length :=
  length_passFrom passed

/-- A text starts with a quote. -/
theorem exists_quote_of_readText {found : String × Bytes} (read : readText rest = .ok found) :
    ∃ beyond, skipSpace rest = 34 :: beyond ∧ readString beyond = .ok found := by
  unfold readText at read
  split at read
  case h_1 beyond skipped => exact ⟨beyond, skipped, read⟩
  case h_2 =>
    obtain ⟨fault, failed⟩ :=
      exists_fault_wrongType (α := String × Bytes) "a string" (skipSpace rest)
    cases failed.symm.trans read

theorem length_readText {text : String} (read : readText rest = .ok (text, after)) :
    after.length ≤ rest.length := by
  obtain ⟨beyond, skipped, named⟩ := exists_quote_of_readText read
  have := length_of_skipSpace skipped
  have := length_readString named
  omega

/-- What follows at the next member is its key, or the closing brace. -/
theorem length_nextMember {first more : Bool} (next : nextMember first rest = .ok (more, after)) :
    after ≠ [] ∧ after.length ≤ rest.length := by
  have bound := length_skipSpace rest
  unfold nextMember at next
  split at next
  · cases next
  case h_2 beyond skipped =>
    cases next
    exact ⟨List.cons_ne_nil _ _, skipped ▸ bound⟩
  case h_3 byte beyond _ skipped =>
    rw [skipped, List.length_cons] at bound
    split_ifs at next
    · cases next
      exact ⟨List.cons_ne_nil _ _, bound⟩
    · cases next
    · have further := length_skipSpace beyond
      split at next
      · cases next
      case h_2 left skipped =>
        cases next
        rw [skipped] at further
        exact ⟨List.cons_ne_nil _ _, by omega⟩
      · cases next
      · cases next
    · cases next

end UtilityBilling.Json
