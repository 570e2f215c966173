/-
# The token in a sign-in answer

The body of a sign-in answer holds a token if it is an object with one member under either name
of the token, and that one a text, or else a list of just a text. What other members hold does
not matter. Two members under these names, in any mixture, or one that is no text, make the
body hold none. Exactly what a body holds is read of it.
-/

import Mathlib.Data.List.DropRight
import UtilityBilling.Api.LoginReply
import UtilityBilling.Proofs.Json.Leftover

namespace UtilityBilling.Api

open UtilityBilling.Json
open UtilityBilling.Text (Bytes bytesOf)

/-- The names of the token. -/
def IsTokenKey (key : String) : Prop :=
  key = "access_token" ∨ key = "token"

/-- The members of an object up to its closing brace hold some tokens: those under the names of
the token hold a text each, and the others hold anything. -/
inductive MembersHold : Bool → Bytes → List String → Bytes → Prop where
  | done {first : Bool} {rest close : Bytes} (ends : nextMember first rest = .ok (false, close)) :
      MembersHold first rest [] close
  | token {first : Bool} {rest member colon value next close : Bytes} {key token : String}
      {tokens : List String} (starts : nextMember first rest = .ok (true, member))
      (named : readString (member.drop 1) = .ok (key, colon)) (isToken : IsTokenKey key)
      (led : readColon colon = .ok value) (text : readText value = .ok (token, next))
      (others : MembersHold false next tokens close) :
      MembersHold first rest (token :: tokens) close
  | other {first : Bool} {rest member colon value next close : Bytes} {key : String}
      {tokens : List String} (starts : nextMember first rest = .ok (true, member))
      (named : readString (member.drop 1) = .ok (key, colon)) (noToken : ¬ IsTokenKey key)
      (led : readColon colon = .ok value) (passed : passValue value = .ok next)
      (others : MembersHold false next tokens close) :
      MembersHold first rest tokens close

/-- A body holds a token: as the only one in an object, or as the only item of a list. -/
inductive HoldsToken (body : Bytes) (token : String) : Prop where
  | object {rest after : Bytes} (opens : skipSpace body = 123 :: rest)
      (members : MembersHold true rest [token] (125 :: after)) (ends : skipSpace after = [])
  | list {rest next after : Bytes} (opens : skipSpace body = 91 :: rest)
      (text : readText rest = .ok (token, next)) (closes : skipSpace next = 93 :: after)
      (ends : skipSpace after = [])

/-- The members of an object end at its closing brace. -/
theorem exists_of_nextMember_false {first : Bool} {rest close : Bytes}
    (ends : nextMember first rest = .ok (false, close)) : ∃ after, close = 125 :: after := by
  unfold nextMember at ends
  split at ends
  · cases ends
  case h_2 after _ =>
    cases ends
    exact ⟨after, rfl⟩
  case h_3 =>
    split_ifs at ends
    · cases ends
    · cases ends
    · split at ends <;> cases ends
    · cases ends

variable {depth fuel : Nat} {first : Bool} {given : Option String}
  {rest member colon value next after : Bytes} {key token : String}

/-- A member under a name of the token gives it, unless it is given already. -/
theorem readNamed_token (starts : nextMember first rest = .ok (true, member))
    (named : readString (member.drop 1) = .ok (key, colon)) (isToken : IsTokenKey key) :
    readNamed loginShape.fields depth (fuel + 1) first given rest =
      if given.isSome then failAfter endObject (.duplicateField "access_token") colon
      else
        match readColon colon with
        | .error fault => .error fault
        | .ok value =>
          match readText value with
          | .error fault => .error fault
          | .ok (token, next) =>
            readNamed loginShape.fields depth fuel false (some token) next := by
  have found : loginShape.fields.find? (fun field => field.keys.contains key) =
      loginShape.fields.head? := by
    rcases isToken with rfl | rfl <;> rfl
  rw [readNamed, starts]
  dsimp only
  rw [named]
  dsimp only
  rw [found]
  change (if given.isSome then _ else _) = _
  congr 1
  cases readColon colon with
  | error fault => rfl
  | ok value =>
      dsimp only [loginShape, List.head?_cons]
      cases readText value <;> rfl

/-- A member under another key is passed over. -/
theorem readNamed_other (starts : nextMember first rest = .ok (true, member))
    (named : readString (member.drop 1) = .ok (key, colon)) (noToken : ¬ IsTokenKey key) :
    readNamed loginShape.fields depth (fuel + 1) first given rest =
      match readColon colon with
      | .error fault => .error fault
      | .ok value =>
        match passValue value with
        | .error fault => .error fault
        | .ok next => readNamed loginShape.fields depth fuel false given next := by
  have missing : loginShape.fields.find? (fun field => field.keys.contains key) = none := by
    rw [IsTokenKey, not_or] at noToken
    simp [loginShape, noToken]
  rw [readNamed, starts]
  dsimp only
  rw [named]
  dsimp only
  split
  case h_1 field found => cases missing.symm.trans found
  case h_2 => rfl

/-- The members that are read are those of an object that holds one token in all. -/
theorem exists_of_readNamed {result : Option String}
    (read : readNamed loginShape.fields depth fuel first given rest = .ok (result, after)) :
    ∃ token tokens, result = some token ∧ given.toList ++ tokens = [token] ∧
      MembersHold first rest tokens (125 :: after) := by
  induction fuel generalizing first given rest with
  | zero => cases read
  | succ fuel ih =>
      cases starts : nextMember first rest with
      | error fault =>
          rw [readNamed, starts] at read
          cases read
      | ok found =>
          obtain ⟨more, member⟩ := found
          cases more with
          | false =>
              obtain ⟨left, rfl⟩ := exists_of_nextMember_false starts
              rw [readNamed, starts] at read
              cases given with
              | none => exact absurd read (failAfter_ne_ok _ _ _ _)
              | some token =>
                  cases read
                  exact ⟨token, [], rfl, rfl, .done starts⟩
          | true =>
              cases named : readString (member.drop 1) with
              | error fault =>
                  rw [readNamed, starts] at read
                  dsimp only at read
                  rw [named] at read
                  cases read
              | ok found =>
                  obtain ⟨key, colon⟩ := found
                  by_cases isToken : IsTokenKey key
                  · rw [readNamed_token starts named isToken] at read
                    split at read
                    case isTrue => exact absurd read (failAfter_ne_ok _ _ _ _)
                    case isFalse absent =>
                      obtain rfl : given = none := by simpa using absent
                      split at read
                      · cases read
                      case h_2 value led =>
                        split at read
                        · cases read
                        case h_2 token next text =>
                          obtain ⟨last, tokens, same, all, others⟩ := ih read
                          obtain ⟨rfl, rfl⟩ := List.cons.inj all
                          exact ⟨_, [_], same, rfl,
                            .token starts named isToken led text others⟩
                  · rw [readNamed_other starts named isToken] at read
                    split at read
                    · cases read
                    case h_2 value led =>
                      split at read
                      · cases read
                      case h_2 next passed =>
                        obtain ⟨last, tokens, same, all, others⟩ := ih read
                        exact ⟨last, tokens, same, all,
                          .other starts named isToken led passed others⟩

/-- The members of an object that holds one token in all are read, with fuel for all bytes. -/
theorem readNamed_of_membersHold {tokens : List String} {close : Bytes}
    (hold : MembersHold first rest tokens close) (ends : close = 125 :: after)
    (all : given.toList ++ tokens = [token]) (enough : rest.length < fuel) :
    readNamed loginShape.fields depth fuel first given rest = .ok (some token, after) := by
  -- Every member takes at least one byte, so the fuel lasts for those behind it.
  have shorter {first : Bool} {rest member colon value : Bytes} {key : String}
      (starts : nextMember first rest = .ok (true, member))
      (named : readString (member.drop 1) = .ok (key, colon)) (led : readColon colon = .ok value) :
      value.length < rest.length := by
    obtain ⟨some_, bound⟩ := length_nextMember starts
    have some_ := List.length_pos_iff.mpr some_
    have named := length_readString named
    have led := length_readColon led
    rw [List.length_drop] at named
    omega
  induction hold generalizing fuel given with
  | done stops =>
      obtain ⟨fuel, rfl⟩ := Nat.exists_eq_add_one.mpr (Nat.zero_lt_of_lt enough)
      rw [List.append_nil] at all
      cases given with
      | none => cases all
      | some other =>
          obtain ⟨rfl, -⟩ := List.cons.inj all
          rw [readNamed, stops, ends]
          rfl
  | token starts named isToken led text others ih =>
      obtain ⟨fuel, rfl⟩ := Nat.exists_eq_add_one.mpr (Nat.zero_lt_of_lt enough)
      have := shorter starts named led
      have := length_readText text
      cases given with
      | some other => simp at all
      | none =>
          rw [readNamed_token starts named isToken, led, if_neg (by simp)]
          dsimp only
          rw [text]
          exact ih ends all (by omega)
  | other starts named noToken led passed others ih =>
      obtain ⟨fuel, rfl⟩ := Nat.exists_eq_add_one.mpr (Nat.zero_lt_of_lt enough)
      have := shorter starts named led
      have := length_passValue passed
      rw [readNamed_other starts named noToken, led]
      dsimp only
      rw [passed]
      exact ih ends all (by omega)

/-- What comes first in a list is what follows the blanks. -/
theorem eq_of_nextItem (next : nextItem true rest = .ok (true, after)) :
    after = skipSpace rest := by
  unfold nextItem at next
  split at next
  · cases next
  · cases next
  case h_3 skipped =>
    rw [if_pos rfl, skipped.symm] at next
    cases next
    rfl

/-- Reading a text drops the blanks before it. -/
theorem readText_skipSpace (rest : Bytes) : readText (skipSpace rest) = readText rest := by
  have twice : skipSpace (skipSpace rest) = skipSpace rest := List.dropWhile_idempotent _ _
  rw [readText, readText, twice]

/-- A record ends at the closing bracket of its list. -/
theorem closeRecord_endList_iff {result record : Option String} :
    closeRecord endList record rest = .ok (result, after) ↔
      result = record ∧ skipSpace rest = 93 :: after := by
  have closes : endList rest = .ok after ↔ skipSpace rest = 93 :: after := by
    unfold endList
    split
    · simp [*]
    · simp [*]
    · dsimp only
      split <;> simp [*]
    case h_4 other _ =>
      simp only [reduceCtorEq, false_iff]
      exact other after
  rw [← closes, closeRecord]
  cases endList rest <;> simp [eq_comm]

/-- The items of a list are read if there is just one, and that a text. -/
theorem readListed_eq_ok_iff {size : String} {result : Option String} :
    readListed size depth 0 true loginShape.fields none rest = .ok (result, after) ↔
      ∃ token next, result = some token ∧ readText rest = .ok (token, next) ∧
        skipSpace next = 93 :: after := by
  rw [loginShape, readListed]
  constructor
  · intro read
    split at read
    · cases read
    · exact absurd read (failAfter_ne_ok _ _ _ _)
    case h_3 item found =>
      obtain rfl := eq_of_nextItem found
      dsimp only at read
      rw [readText_skipSpace] at read
      split at read
      · cases read
      case h_2 enter next entered =>
        obtain ⟨token, left, text, same⟩ := exists_of_map_eq_ok entered
        obtain ⟨rfl, rfl⟩ := Prod.mk.inj same
        obtain ⟨rfl, closes⟩ := closeRecord_endList_iff.mp read
        exact ⟨token, left, rfl, text, closes⟩
  · rintro ⟨token, next, rfl, text, closes⟩
    obtain ⟨beyond, skipped, -⟩ := exists_quote_of_readText text
    have item : nextItem true rest = .ok (true, skipSpace rest) := by
      rw [nextItem, skipped]
      rfl
    rw [item]
    dsimp only
    rw [readText_skipSpace, text]
    exact closeRecord_endList_iff.mpr ⟨rfl, closes⟩

/-- An object gives the one token of its members, and a list its one text. -/
theorem readLogin_eq_ok_iff {body : Bytes} :
    readLogin nestingBound body = .ok (token, after) ↔
      (∃ rest, skipSpace body = 123 :: rest ∧ MembersHold true rest [token] (125 :: after)) ∨
        ∃ rest next, skipSpace body = 91 :: rest ∧ readText rest = .ok (token, next) ∧
          skipSpace next = 93 :: after := by
  unfold readLogin readRecord
  constructor
  · intro read
    obtain ⟨found, left, done, same⟩ := exists_of_map_eq_ok read
    obtain ⟨rfl, rfl⟩ := Prod.mk.inj same
    split at done
    · cases done
    case h_2 rest opens =>
      rw [if_neg (by decide)] at done
      obtain ⟨token, next, rfl, text, closes⟩ := readListed_eq_ok_iff.mp done
      exact .inr ⟨rest, next, opens, text, closes⟩
    case h_3 rest opens =>
      rw [if_neg (by decide)] at done
      obtain ⟨token, tokens, rfl, all, hold⟩ := exists_of_readNamed done
      rw [Option.toList_none, List.nil_append] at all
      exact .inl ⟨rest, opens, all ▸ hold⟩
    case h_4 =>
      obtain ⟨fault, failed⟩ :=
        exists_fault_wrongType (α := Option String × Bytes) loginShape.described (skipSpace body)
      cases failed.symm.trans done
  · have deep : ¬ nestingBound ≤ 1 := by decide
    rintro (⟨rest, opens, hold⟩ | ⟨rest, next, opens, text, closes⟩)
    · simp only [opens, if_neg deep]
      rw [readNamed_of_membersHold hold rfl rfl (Nat.lt_succ_self _)]
      rfl
    · simp only [opens, if_neg deep]
      rw [readListed_eq_ok_iff.mpr ⟨token, next, rfl, text, closes⟩]
      rfl

theorem readEnd_eq_ok_iff : readEnd rest = .ok () ↔ skipSpace rest = [] := by
  unfold readEnd
  split
  case h_1 none_ => exact iff_of_true rfl none_
  case h_2 some_ => exact iff_of_false (by simp [failNext]) some_

/-- A token is read of a body exactly if the body holds it. -/
theorem decode_readLogin_iff {body : Bytes} :
    decode readLogin body = .ok token ↔ HoldsToken body token := by
  have read : decode readLogin body = .ok token ↔
      ∃ after, readLogin nestingBound body = .ok (token, after) ∧ readEnd after = .ok () := by
    rw [decode, readAll]
    cases readLogin nestingBound body with
    | error fault => simp
    | ok found =>
        obtain ⟨last, after⟩ := found
        cases ends : readEnd after <;> simp [ends, Except.map]
  rw [read]
  simp only [readEnd_eq_ok_iff, readLogin_eq_ok_iff]
  constructor
  · rintro ⟨after, ⟨rest, opens, hold⟩ | ⟨rest, next, opens, text, closes⟩, ends⟩
    · exact .object opens hold ends
    · exact .list opens text closes ends
  · intro holds
    cases holds with
    | object opens members ends => exact ⟨_, .inl ⟨_, opens, members⟩, ends⟩
    | list opens text closes ends => exact ⟨_, .inr ⟨_, _, opens, text, closes⟩, ends⟩

/-- Either name will do, and so will a list of one text, but not both names at once. -/
example :
    decode readLogin (bytesOf "\x7b\"user\":[1],\"token\":\"a\"\x7d") = .ok "a" ∧
      decode readLogin (bytesOf "[\"a\"]") = .ok "a" ∧
      (decode readLogin (bytesOf "\x7b\"token\":\"a\",\"access_token\":\"a\"\x7d")).toOption =
        none := by
  decide +kernel

end UtilityBilling.Api
