/-
# Sessions come back from their texts

The text of a session file is one record with one field to a line. Reading passes over the
blanks between the tokens, takes the name of each field up to its colon, and finds after it the
text that was written. What comes back is the session that was saved, character for character
and to the nanosecond.
-/

import UtilityBilling.Proofs.Session.InstantText
import UtilityBilling.Proofs.Session.QuotedText
import UtilityBilling.Session.Stored

namespace UtilityBilling.Session

open UtilityBilling.Text

namespace Notation

variable {c : Char} {rest next : List Char}

theorem skipFrom_cons (fuel : Nat) (c : Char) (rest : List Char) :
    skipFrom (fuel + 1) (c :: rest) =
      if isSpace c then skipFrom fuel rest
      else
        match c, rest with
        | '/', '/' :: after => skipFrom fuel (after.dropWhile (· != '\n'))
        | '/', '*' :: after => (closeComment 1 after).bind (skipFrom fuel)
        | _, _ => if c == '/' then none else some (c :: rest) :=
  rfl

theorem skip_of_space (space : isSpace c = true) (rest : List Char) :
    skip (c :: rest) = skip rest :=
  (skipFrom_cons (rest.length + 1) c rest).trans (if_pos space)

theorem skip_of_ink (ink : isSpace c = false) (noComment : c ≠ '/') (rest : List Char) :
    skip (c :: rest) = some (c :: rest) := by
  show skipFrom (rest.length + 1 + 1) (c :: rest) = some (c :: rest)
  rw [skipFrom_cons, if_neg (by simp [ink])]
  split
  case h_1 => exact absurd rfl noComment
  case h_2 => exact absurd rfl noComment
  case h_3 => exact if_neg (by simpa using noComment)

/-- A word names something as it stands. -/
structure IsWord (word : String) : Prop where
  starts : ∃ c rest, word.toList = c :: rest ∧ startsName c = true ∧ isSpace c = false ∧
    c ≠ '/' ∧ c ≠ ')'
  goesOn : ∀ c ∈ word.toList, continuesName c = true

/-- A word is read up to the colon after it. -/
theorem name_word {word : String} (isWord : IsWord word) (rest : List Char) :
    name (word.toList ++ ':' :: rest) = some (word, ':' :: rest) := by
  obtain ⟨first, others, written, starts, _⟩ := isWord.starts
  have goesOn := isWord.goesOn
  have run : (word.toList ++ ':' :: rest).takeWhile continuesName = word.toList := by
    rw [List.takeWhile_append_of_pos goesOn, List.takeWhile_cons_of_neg (by decide),
      List.append_nil]
  rw [written, List.cons_append] at run ⊢
  rw [written] at goesOn
  unfold name
  split
  case h_1 marked =>
    -- A raw name goes on with a mark, which neither a word nor the colon is.
    obtain ⟨_, second⟩ := List.cons.inj marked
    cases others with
    | nil => cases second
    | cons mark others =>
        obtain ⟨rfl, _⟩ := List.cons.inj second
        exact absurd (goesOn '#' (by simp)) (by decide)
  case h_2 found =>
    obtain ⟨rfl, _⟩ := List.cons.inj found
    rw [if_pos starts, run, ← List.cons_append]
    dsimp only
    rw [List.drop_left, ← written, String.ofList_toList]
  case h_3 empty => cases empty

/-- A line of a field is read as its name and its text. -/
theorem fields_line {known : List String} {key value : String} {held : List (String × String)}
    (isWord : IsWord key) (isKnown : known.contains key = true) (new : held.lookup key = none)
    (follows : skip rest = some next) (fuel : Nat) :
    fields known (fuel + 1) held
        (key.toList ++ ':' :: ' ' :: (quote true value.toList ++ ',' :: rest)) =
      fields known fuel (held ++ [(key, value)]) next := by
  obtain ⟨first, others, written, _, _, _, noEnd⟩ := isWord.starts
  have named := name_word isWord (' ' :: (quote true value.toList ++ ',' :: rest))
  have colon : token ':' (':' :: ' ' :: (quote true value.toList ++ ',' :: rest)) =
      some (quote true value.toList ++ ',' :: rest) := by
    rw [token, if_pos (by decide), skip_of_space (by decide), quote]
    exact skip_of_ink (by decide) (by decide) _
  have quoted := text_quote value.toList (',' :: rest)
  rw [String.ofList_toList] at quoted
  rw [written, List.cons_append] at named ⊢
  rw [fields.eq_def]
  dsimp only
  split
  case h_1 closed => exact absurd (List.cons.inj closed).1 noEnd
  simp only [named, Option.bind_eq_bind, Option.bind_some, isKnown, new,
    skip_of_ink (show isSpace ':' = false from rfl) (by decide), colon, quoted, if_true,
    Option.isSome_none, Bool.false_eq_true, if_false,
    skip_of_ink (show isSpace ',' = false from rfl) (by decide), follows]

/-- A record without a name is read from its opening parenthesis on. -/
theorem record_of_fields {recordName : String} {known : List String} {source : List Char}
    {found : List (String × String)} (follows : skip source = some next)
    (read : fields known (next.length + 1) [] next = some (found, [])) :
    record recordName known (String.ofList ('(' :: source)) = some found := by
  have opens : token '(' ('(' :: source) = some next := by
    rw [token, if_pos (by decide), follows]
  have plain : attributes (('(' :: source).length + 1) ('(' :: source) =
      some ([], '(' :: source) := by
    rw [attributes]
    exact nofun
  have unnamed : name ('(' :: source) = none := by
    rw [name, if_neg (by decide)]
    exact nofun
  have ended : skip [] = some [] := rfl
  rw [record, String.toList_ofList, skip_of_ink (by decide) (by decide)]
  simp only [Option.bind_eq_bind, Option.bind_some, plain, unnamed, opens, read, ended]
  rfl

end Notation

namespace Stored

open Notation

theorem isWord_of_mem_fieldNames {key : String} (member : key ∈ fieldNames) : IsWord key := by
  simp only [fieldNames, List.mem_cons, List.not_mem_nil, or_false] at member
  rcases member with rfl | rfl | rfl
  all_goals exact ⟨⟨_, _, rfl, by decide⟩, List.all_eq_true.mp rfl⟩

/-- Before a line of a field there are only blanks. -/
theorem skip_fieldLine {key : String} (isWord : IsWord key) (value : String) (rest : List Char) :
    skip ('\n' :: (fieldLine key value ++ rest)) =
      some (key.toList ++ ':' :: ' ' :: (quote true value.toList ++ ',' :: '\n' :: rest)) := by
  obtain ⟨first, others, written, _, ink, noComment, _⟩ := isWord.starts
  have blank : isSpace ' ' = true := rfl
  simp only [fieldLine, List.append_assoc, List.cons_append, List.nil_append,
    skip_of_space (show isSpace '\n' = true from rfl), skip_of_space blank]
  rw [written, List.cons_append, skip_of_ink ink noComment]

/-- The fields of a file are the texts that were written. -/
theorem record_text (session : Stored) :
    record recordName fieldNames session.text =
      some [("base_url", session.baseUrl), ("token", session.token),
        ("saved_at", session.savedAt.zuluText)] := by
  have first : IsWord "base_url" := isWord_of_mem_fieldNames (by decide)
  have second : IsWord "token" := isWord_of_mem_fieldNames (by decide)
  have third : IsWord "saved_at" := isWord_of_mem_fieldNames (by decide)
  have closes : skip ['\n', ')'] = some [')'] := rfl
  have lines := skip_fieldLine first session.baseUrl
    (fieldLine "token" session.token ++ fieldLine "saved_at" session.savedAt.zuluText ++ [')'])
  rw [text]
  simp only [List.append_assoc, List.cons_append, List.nil_append] at lines ⊢
  apply record_of_fields lines
  generalize length : List.length _ + 1 = fuel
  obtain ⟨more, rfl⟩ : ∃ more, fuel = more + 4 := by
    refine ⟨fuel - 4, ?_⟩
    simp at length
    omega
  rw [fields_line first (by decide) rfl (skip_fieldLine second session.token _),
    fields_line second (by decide) rfl (skip_fieldLine third session.savedAt.zuluText _),
    fields_line third (by decide) rfl closes]
  rfl

/-- A session comes back from its text. What is read from the text of a session that the
clock has stamped is the same session, whatever characters its backend and its token hold. -/
theorem parse?_text {session : Stored} (clock : session.savedAt.IsClockTime) :
    parse? session.text = some session := by
  have savedAt := Instant.parse?_zuluText clock
  rw [parse?, record_text]
  generalize session.savedAt.zuluText = shown at savedAt
  have third : List.lookup "saved_at"
      [("base_url", session.baseUrl), ("token", session.token), ("saved_at", shown)] =
        some shown := rfl
  simp only [Option.bind_eq_bind, Option.bind_some, third, savedAt]
  rfl

end Stored

end UtilityBilling.Session
