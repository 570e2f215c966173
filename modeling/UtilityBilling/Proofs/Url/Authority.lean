/-
# User, host and port are read as they are written

The part of a url between its slashes and its path is split at the last sign of a user, at the
colon of a port and at the first slash. None of the pieces that were read contains the sign at
which it would be split, so written one after another they are told apart again.
-/

import UtilityBilling.Proofs.Text.Splitting
import UtilityBilling.Proofs.Url.Path

namespace UtilityBilling.Url

open UtilityBilling.Text

variable {username rest text : List Char} {password : Option (List Char)} {c : Char}

/-- A user name and a password as they are kept: encoded, and without an empty password. -/
structure SettledUser (username : List Char) (password : Option (List Char)) : Prop where
  name : ∀ c ∈ username, inUserSet c = false
  password : ∀ p, password = some p → p ≠ [] ∧ ∀ c ∈ p, inUserSet c = false

theorem not_inUserSet_of_mem_encodeText (within : c ∈ encodeText inUserSet text) :
    inUserSet c = false := by
  have code : ∀ c ∈ codeChars, inUserSet c = false := List.all_iff_forall_prop.mp (by decide)
  rcases mem_encodeText within with kept | among
  · exact kept.2
  · exact code c among

/-- The user that is read is settled. -/
theorem settledUser_readUser (user : List Char) :
    SettledUser (readUser user).1 (readUser user).2 := by
  rw [readUser]
  split
  case h_1 =>
    exact ⟨fun _ => not_inUserSet_of_mem_encodeText, fun _ same => by cases same⟩
  case h_2 typed some_ =>
    refine ⟨fun _ => not_inUserSet_of_mem_encodeText, fun p same => ?_⟩
    obtain rfl := Option.some.inj same
    exact ⟨mt encodeText_eq_nil_iff.mp some_, fun _ => not_inUserSet_of_mem_encodeText⟩

/-- The text of a user without the sign behind it. -/
def userBody (username : List Char) : Option (List Char) → List Char
  | none => username
  | some password => username ++ ':' :: password

/-- A settled user is read as it is written. -/
theorem SettledUser.readUser_userBody (settled : SettledUser username password) :
    readUser (userBody username password) = (username, password) := by
  have noColon : ∀ c ∈ username, c ≠ ':' := by
    rintro c within rfl
    exact absurd (settled.name _ within) (by decide)
  have name := encodeText_eq_self settled.name
  cases password with
  | none =>
      obtain ⟨taken, dropped⟩ := takeWhile_ne_all noColon
      rw [readUser, userBody, taken, dropped, name]
      rfl
  | some p =>
      obtain ⟨taken, dropped⟩ := takeWhile_ne noColon p
      obtain ⟨some_, plain⟩ := settled.password p rfl
      rw [readUser, userBody, taken, dropped, name, List.drop_one, List.tail_cons]
      split
      case h_1 => exact absurd rfl some_
      case h_2 => rw [encodeText_eq_self plain]

/-- The last sign of a user splits it from what follows. -/
theorem splitUser_append (user : List Char) {host : List Char} (none_ : ∀ c ∈ host, c ≠ '@') :
    splitUser (user ++ '@' :: host) = some (user, host) := by
  have none' : ∀ c ∈ host.reverse, c ≠ '@' := fun c within => none_ c (List.mem_reverse.mp within)
  obtain ⟨taken, dropped⟩ := takeWhile_ne none' user.reverse
  have reversed : (user ++ '@' :: host).reverse = host.reverse ++ '@' :: user.reverse := by
    simp
  rw [splitUser, reversed, taken, dropped]
  dsimp only
  rw [List.reverse_reverse, List.reverse_reverse]

theorem splitUser_eq_none {host : List Char} (none_ : ∀ c ∈ host, c ≠ '@') :
    splitUser host = none := by
  have none' : ∀ c ∈ host.reverse, c ≠ '@' := fun c within => none_ c (List.mem_reverse.mp within)
  rw [splitUser, (takeWhile_ne_all none').2]

/-- The text of a port with its colon. -/
def portText : Option UInt16 → List Char
  | none => []
  | some port => ':' :: Nat.toDigits 10 port.toNat

/-- What may follow a host and a port: nothing, or a path. -/
def StartsPath (rest : List Char) : Prop :=
  rest = [] ∨ ∃ path, rest = '/' :: path

/-- The digits of a port are read to their end. -/
theorem readPortDigits_digits (held : Option Nat) {digits : List Char} (some_ : digits ≠ [])
    (all : ∀ c ∈ digits, c.isDigit = true)
    (small : Nat.ofDigitChars 10 digits (held.getD 0) ≤ 65535) (path : StartsPath rest) :
    readPortDigits held (digits ++ rest) =
      .ok (some (Nat.ofDigitChars 10 digits (held.getD 0)), rest) := by
  induction digits generalizing held with
  | nil => exact absurd rfl some_
  | cons c digits ih =>
      obtain ⟨digit, others⟩ := List.forall_mem_cons.mp all
      have value : Nat.ofDigitChars 10 (c :: digits) (held.getD 0) =
          Nat.ofDigitChars 10 digits (held.getD 0 * 10 + (c.toNat - 48)) := by
        rw [Nat.ofDigitChars_cons, Nat.mul_comm]
        rfl
      rw [value] at small ⊢
      have grows : held.getD 0 * 10 + (c.toNat - 48) ≤ 65535 := by
        rw [Nat.ofDigitChars_eq_ofDigitChars_zero] at small
        have := Nat.le_mul_of_pos_left (held.getD 0 * 10 + (c.toNat - 48))
          (Nat.pow_pos (n := digits.length) (show 0 < 10 by decide))
        omega
      rw [List.cons_append, readPortDigits, if_pos digit]
      dsimp only
      rw [if_neg (Nat.not_lt.mpr grows)]
      by_cases last : digits = []
      · subst last
        rcases path with rfl | ⟨path, rfl⟩
        · rfl
        · rw [List.nil_append, readPortDigits, if_neg (by decide), if_pos (by decide)]
          rfl
      · exact ih (some _) last others small

/-- A port other than the default one is read as it is written. -/
theorem readPort_portText {scheme : List Char} {port : Option UInt16}
    (other : port = none ∨ port ≠ defaultPort scheme) (path : StartsPath rest) :
    readPort scheme (portText port ++ rest) = .ok (port, rest) := by
  cases port with
  | none =>
      rcases path with rfl | ⟨path, rfl⟩ <;> rfl
  | some port =>
      have small := port.toNat_lt
      have digits := readPortDigits_digits none (Nat.toDigits_ne_nil (n := port.toNat))
        (fun c => Nat.isDigit_of_mem_toDigits (b := 10) (by decide) (by decide))
        (by rw [Option.getD_none, Nat.ofDigitChars_ten_toDigits]; omega) path
      rw [Option.getD_none, Nat.ofDigitChars_ten_toDigits] at digits
      have different : some port ≠ defaultPort scheme := other.resolve_left (by simp)
      rw [portText, List.cons_append, readPort, digits]
      simp only [Except.map, Option.map_some, UInt16.ofNat_toNat]
      rw [if_neg (by simpa using different)]

/-- The port that is read is not the default one. -/
theorem port_of_readPort {scheme after : List Char} {port : Option UInt16}
    (read : readPort scheme text = .ok (port, after)) :
    port = none ∨ port ≠ defaultPort scheme := by
  unfold readPort at read
  split at read
  case h_2 =>
    cases read
    exact .inl rfl
  case h_1 typed =>
    cases digits : readPortDigits none typed with
    | error fault =>
        rw [digits] at read
        cases read
    | ok found =>
        rw [digits, Except.map, Except.ok.injEq, Prod.mk.injEq] at read
        obtain ⟨port_, -⟩ := read
        split at port_
        case isTrue => exact .inl port_.symm
        case isFalse different => exact .inr (by rw [← port_]; simpa using different)

/-- The text of a host that is told apart from what stands around it. -/
structure HostText (text : List Char) : Prop where
  written : text ≠ []
  chars : ∀ c ∈ text, 0x20 < c.toNat ∧ c ≠ '@' ∧ c ≠ '/' ∧ c ≠ '\\' ∧ c ≠ '?' ∧ c ≠ '#'
  split : ∀ rest, (StartsPath rest ∨ ∃ port, rest = ':' :: port) →
    splitHost true false (text ++ rest) = (text, rest)

/-- A host without colons and brackets ends where its text does. -/
theorem HostText.of_plain (written : text ≠ [])
    (chars : ∀ c ∈ text, 0x20 < c.toNat ∧ c ≠ '@' ∧ c ≠ '/' ∧ c ≠ '\\' ∧ c ≠ '?' ∧ c ≠ '#')
    (plain : ∀ c ∈ text, c ≠ ':' ∧ c ≠ '[' ∧ c ≠ ']') : HostText text := by
  refine ⟨written, chars, fun rest after => ?_⟩
  have ended : ∀ text : List Char, (∀ c ∈ text, c ≠ ':' ∧ c ≠ '[' ∧ c ≠ ']') →
      (∀ c ∈ text, endsAuthority true c = false) →
      splitHost true false (text ++ rest) = (text, rest) := by
    intro text plain inside
    induction text with
    | nil => rcases after with (rfl | ⟨path, rfl⟩) | ⟨port, rfl⟩ <;> rfl
    | cons c text ih =>
        obtain ⟨⟨noColon, noOpening, noClosing⟩, others⟩ := List.forall_mem_cons.mp plain
        obtain ⟨noEnd, rest⟩ := List.forall_mem_cons.mp inside
        rw [List.cons_append, splitHost, if_neg (by simp [noColon, noEnd]),
          if_neg (by simpa using noOpening), if_neg (by simpa using noClosing), ih others rest]
  refine ended text plain fun c within => ?_
  obtain ⟨-, -, noSlash, noBackslash, noQuery, noFragment⟩ := chars c within
  simp [endsAuthority, isSlash, noSlash, noBackslash, noQuery, noFragment]

/-- A url with one of the special schemes and a host, in parts that are told apart in its text. -/
structure Parted (url : Address) (host : Host) (segments : List (List Char)) : Prop where
  special : kindOf url.scheme = .special
  user : SettledUser url.username url.password
  hosted : url.host = some host
  text : HostText host.text
  port : url.port = none ∨ url.port ≠ defaultPort url.scheme
  path : url.path = .segments segments
  written : segments ≠ []
  settled : ∀ segment ∈ segments, Settled segment

/-- Such a url is kept after it was read: its parts are also read again as they are. -/
structure Kept (url : Address) (host : Host) (segments : List (List Char)) : Prop
    extends Parted url host segments where
  /-- The text of the host is read as this host. -/
  rereads : specialHost host.text = .ok host

variable {url : Address} {host : Host} {segments : List (List Char)}

/-- What stands in a user part is neither a blank nor a sign that splits urls, the colon between
name and password apart. -/
theorem mem_userBody (settled : SettledUser username password)
    (within : c ∈ userBody username password) :
    c = ':' ∨ inUserSet c = false := by
  cases password with
  | none => exact .inr (settled.name c within)
  | some p =>
      rcases List.mem_append.mp within with name | within
      · exact .inr (settled.name c name)
      · exact (List.mem_cons.mp within).imp_right ((settled.password p rfl).2 c)

theorem of_not_inUserSet (kept : inUserSet c = false) :
    0x20 < c.toNat ∧ c ≠ '@' ∧ c ≠ '/' ∧ c ≠ '\\' ∧ c ≠ '?' ∧ c ≠ '#' := by
  refine ⟨?_, ?_, ?_, ?_, ?_, ?_⟩
  · refine Nat.lt_of_not_le fun low => ?_
    have blank : isControlOrForeign c = true ∨ c = ' ' := by
      rcases Nat.lt_or_eq_of_le low with control | blank
      · exact .inl (by simp [isControlOrForeign, control])
      · exact .inr (Char.toNat_inj.mp blank)
    rcases blank with control | rfl
    · simp [inUserSet, inPathSet, inFragmentSet, control] at kept
    · exact absurd kept (by decide)
  all_goals
    rintro rfl
    exact absurd kept (by decide)

theorem userText_eq (url : Address) :
    (url.username = [] ∧ url.password = none ∧ url.userText = []) ∨
      (userBody url.username url.password ≠ [] ∧
        url.userText = userBody url.username url.password ++ ['@']) := by
  rw [Address.userText]
  cases password : url.password with
  | none =>
      cases username : url.username with
      | nil => exact .inl ⟨rfl, rfl, rfl⟩
      | cons c rest => exact .inr ⟨by simp [userBody], by simp [userBody]⟩
  | some p => exact .inr ⟨by simp [userBody], by simp [userBody]⟩

theorem Parted.authorityText_eq (parted : Parted url host segments) :
    url.authorityText = '/' :: '/' :: (url.userText ++ (host.text ++ portText url.port)) := by
  rw [Address.authorityText, parted.hosted]
  cases url.port <;> simp [portText]

/-- A port is written with digits behind a colon. -/
theorem mem_portText {port : Option UInt16} (within : c ∈ portText port) :
    c = ':' ∨ c.isDigit = true := by
  cases port with
  | none => exact absurd within List.not_mem_nil
  | some port =>
      exact (List.mem_cons.mp within).imp_right
        (Nat.isDigit_of_mem_toDigits (by decide) (by decide))

theorem of_isDigit (digit : c.isDigit = true) :
    0x20 < c.toNat ∧ c ≠ '@' ∧ c ≠ '/' ∧ c ≠ '\\' ∧ c ≠ '?' ∧ c ≠ '#' := by
  refine ⟨?_, ?_, ?_, ?_, ?_, ?_⟩
  · simp only [Char.isDigit, Bool.and_eq_true, decide_eq_true_eq, ge_iff_le,
      UInt32.le_iff_toNat_le] at digit
    exact Nat.lt_of_lt_of_le (by decide) digit.1
  all_goals
    rintro rfl
    exact absurd digit (by decide)

/-- No character of the host and the port ends them or belongs to a user. -/
theorem Parted.mem_hostPort (parted : Parted url host segments)
    (within : c ∈ host.text ++ portText url.port) :
    0x20 < c.toNat ∧ c ≠ '@' ∧ c ≠ '/' ∧ c ≠ '\\' ∧ c ≠ '?' ∧ c ≠ '#' := by
  rcases List.mem_append.mp within with inHost | inPort
  · exact parted.text.chars c inHost
  · rcases mem_portText inPort with rfl | digit
    · decide
    · exact of_isDigit digit

/-- Nothing before the path ends the part before it. -/
theorem Parted.mem_authority (parted : Parted url host segments)
    (within : c ∈ url.userText ++ (host.text ++ portText url.port)) :
    0x20 < c.toNat ∧ c ≠ '/' ∧ c ≠ '\\' ∧ c ≠ '?' ∧ c ≠ '#' := by
  rcases List.mem_append.mp within with inUser | behind
  · rcases userText_eq url with ⟨-, -, none_⟩ | ⟨-, body⟩
    · rw [none_] at inUser
      exact absurd inUser List.not_mem_nil
    · rw [body] at inUser
      rcases List.mem_append.mp inUser with inBody | sign
      · rcases mem_userBody parted.user inBody with rfl | plain
        · decide
        · obtain ⟨visible, -, others⟩ := of_not_inUserSet plain
          exact ⟨visible, others⟩
      · obtain rfl := List.mem_singleton.mp sign
        decide
  · obtain ⟨visible, -, others⟩ := parted.mem_hostPort behind
    exact ⟨visible, others⟩

/-- The part before a path and the path are told apart. -/
theorem Parted.split_authority (parted : Parted url host segments) (rest : List Char) :
    let authority := url.userText ++ (host.text ++ portText url.port)
    (authority ++ '/' :: rest).takeWhile (!endsAuthority true ·) = authority ∧
      (authority ++ '/' :: rest).dropWhile (!endsAuthority true ·) = '/' :: rest := by
  intro authority
  have inside : ∀ c ∈ authority, (!endsAuthority true c) = true := by
    intro c within
    obtain ⟨-, noSlash, noBackslash, noQuery, noFragment⟩ := parted.mem_authority within
    simp [endsAuthority, isSlash, noSlash, noBackslash, noQuery, noFragment]
  rw [List.takeWhile_append_of_pos inside, List.dropWhile_append_of_pos inside,
    List.takeWhile_cons_of_neg (by decide), List.dropWhile_cons_of_neg (by decide),
    List.append_nil]
  exact ⟨rfl, rfl⟩

/-- The user part, if there is one, and all behind it. -/
def splitAuthority (text : List Char) : Option (List Char) × List Char :=
  match splitUser (text.takeWhile (!endsAuthority true ·)) with
  | some (user, host) => (some user, host ++ text.dropWhile (!endsAuthority true ·))
  | none => (none, text)

/-- The part after the two slashes, under one of the special schemes: its user is split off, then
its host, and then its port. -/
theorem readAfterSlashes_special {scheme : List Char} (special : kindOf scheme = .special)
    (text : List Char) :
    readAfterSlashes scheme text =
      if (splitAuthority text).1 == some [] &&
          readAfterSlashes.startsAtEnd true (splitAuthority text).2 then .error .emptyHost
      else
        let (hostChars, afterHost) := splitHost true false (splitAuthority text).2
        if hostChars.isEmpty then .error .emptyHost
        else
          match specialHost hostChars with
          | .error e => .error e
          | .ok host =>
            match readPort scheme afterHost with
            | .error e => .error e
            | .ok (port, afterPort) =>
              let (path, tail) := readPathAfterHost .special afterPort
              .ok (Address.withTail
                { scheme := scheme
                  username := (readUser ((splitAuthority text).1.getD [])).1
                  password := (readUser ((splitAuthority text).1.getD [])).2
                  host := some host
                  port := port
                  path := .segments path } tail) := by
  rw [readAfterSlashes, special]
  simp only [SchemeKind.isSpecial, Bool.true_or, Bool.and_true, if_true]
  rfl

/-- The user is told apart from the host. -/
theorem Parted.exists_splitAuthority (parted : Parted url host segments) (rest : List Char) :
    ∃ user, splitAuthority (url.userText ++ (host.text ++ portText url.port) ++ '/' :: rest) =
        (user, host.text ++ (portText url.port ++ '/' :: rest)) ∧
      user ≠ some [] ∧ readUser (user.getD []) = (url.username, url.password) := by
  obtain ⟨authority, path⟩ := parted.split_authority rest
  have noSign : ∀ c ∈ host.text ++ portText url.port, c ≠ '@' := fun c within =>
    (parted.mem_hostPort within).2.1
  rw [splitAuthority, authority, path]
  rcases userText_eq url with ⟨noName, noPassword, none_⟩ | ⟨some_, body⟩
  · refine ⟨none, ?_, by simp, by rw [noName, noPassword]; rfl⟩
    rw [none_, List.nil_append, splitUser_eq_none noSign, List.append_assoc]
  · refine ⟨some (userBody url.username url.password), ?_, by simpa using some_,
      parted.user.readUser_userBody⟩
    rw [body, List.append_assoc _ ['@'], List.singleton_append, splitUser_append _ noSign]
    exact congrArg (Prod.mk _) (List.append_assoc _ _ _)

/-- What stands before a path is read part by part, whatever the path; the text of the host is left
to the reader of hosts. -/
theorem Parted.readAfterSlashes_text (parted : Parted url host segments) (rest : List Char) :
    readAfterSlashes url.scheme
        (url.userText ++ (host.text ++ portText url.port) ++ '/' :: rest) =
      (specialHost host.text).map fun read => Address.withTail
        { url with
          host := some read
          path := .segments (readPathAfterHost .special ('/' :: rest)).1 }
        (readPathAfterHost .special ('/' :: rest)).2 := by
  obtain ⟨user, split_, some_, read⟩ := parted.exists_splitAuthority rest
  have hostSplit := parted.text.split (portText url.port ++ '/' :: rest) (by
    cases url.port with
    | none => exact .inl (.inr ⟨rest, rfl⟩)
    | some port => exact .inr ⟨_, rfl⟩)
  have notEmpty : host.text.isEmpty = false := by
    rw [List.isEmpty_eq_false_iff]
    exact parted.text.written
  rw [readAfterSlashes_special parted.special, split_, if_neg (by simp [some_]), hostSplit]
  dsimp only
  rw [notEmpty, if_neg Bool.false_ne_true]
  cases specialHost host.text with
  | error fault => rfl
  | ok found =>
      dsimp only
      rw [readPort_portText parted.port (.inr ⟨rest, rfl⟩), read]
      rfl

end UtilityBilling.Url
