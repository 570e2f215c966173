/-
# Typed lines and their commands

The grammar of the prompt, apart from the reader of it: a line is blank, a slash with a text, or a
word with its argument, and a word in small letters decides with its argument what the line means.
Every line has one meaning, and it is the one that is read.
-/

import UtilityBilling.Console.Prompt
import UtilityBilling.Proofs.Number.Numerals
import UtilityBilling.Proofs.Text.Splitting
import UtilityBilling.Proofs.Text.Trimming

namespace UtilityBilling.Console

open UtilityBilling.Number UtilityBilling.Text

/-- A word of a line: it has no blanks, and does not start as a search does. -/
structure IsWord (word : List Char) : Prop where
  some_ : word ≠ []
  visible : ∀ c ∈ word, isBlank c = false
  noSlash : word.head? ≠ some '/'

instance IsWord.decidable (word : List Char) : Decidable (IsWord word) :=
  decidable_of_iff (word ≠ [] ∧ word.all (!isBlank ·) = true ∧ word.head? ≠ some '/')
    ⟨fun ⟨some_, visible, noSlash⟩ =>
      ⟨some_, fun c within => by simpa using List.all_eq_true.mp visible c within, noSlash⟩,
    fun ⟨some_, visible, noSlash⟩ =>
      ⟨some_, List.all_eq_true.mpr fun c within => by simpa using visible c within, noSlash⟩⟩

/-- What stands behind a word: nothing, or something that starts with a blank. -/
def IsRest (rest : List Char) : Prop :=
  ∀ c ∈ rest.head?, isBlank c = true

/-- A line has a word behind blanks, and its argument is all the rest without the blanks around
it. -/
structure HasParts (line word argument : List Char) : Prop where
  isWord : IsWord word
  parted : ∃ before rest, AllBlank before ∧ IsRest rest ∧ line = before ++ word ++ rest ∧
    trimBoth rest = argument

/-- The words for another page size. -/
def limitWords : List String := ["l", "limit"]

/-- All words that have a meaning. -/
def knownWords : List String :=
  ["n", "next", "p", "prev", "r", "refresh", "q", "quit", "exit", "h", "help", "?", "s", "sort"] ++
    limitWords

/-- What a word in small letters means with an argument. -/
inductive Means (word argument : String) : Except PromptError Command → Prop where
  | next (spelled : word ∈ ["n", "next"]) : Means word argument (.ok (.page 1))
  | previous (spelled : word ∈ ["p", "prev"]) : Means word argument (.ok (.page (-1)))
  | refresh (spelled : word ∈ ["r", "refresh"]) : Means word argument (.ok .refresh)
  | quit (spelled : word ∈ ["q", "quit", "exit"]) : Means word argument (.ok .quit)
  | help (spelled : word ∈ ["h", "help", "?"]) : Means word argument (.ok .help)
  | sort (spelled : word ∈ ["s", "sort"]) (some_ : argument ≠ "") :
      Means word argument (.ok (.sort argument))
  | sortNothing (spelled : word ∈ ["s", "sort"]) (none_ : argument = "") :
      Means word argument (.error .sortWithoutField)
  | limit {size : UInt32} (spelled : word ∈ limitWords) (positive : 1 ≤ size.toNat)
      (numeral : IsNumeral argument.toList size.toNat) : Means word argument (.ok (.limit size))
  | limitOutside (spelled : word ∈ limitWords)
      (outside : ∀ n, IsNumeral argument.toList n → n = 0 ∨ UInt32.size ≤ n) :
      Means word argument (.error (.badLimit argument))
  | unknown (unheard : word ∉ knownWords) : Means word argument (.error (.unknown word))

/-- What a line means. -/
inductive Reads : List Char → Except PromptError (Option Command) → Prop where
  | nothing {line : List Char} (blank : AllBlank line) : Reads line (.ok none)
  | search {before rest : List Char} (blank : AllBlank before) :
      Reads (before ++ '/' :: rest) (.ok (some (.search (.ofList (trimBoth rest)))))
  | word {line word argument : List Char} {outcome : Except PromptError Command}
      (parts : HasParts line word argument)
      (means : Means (asciiLower (.ofList word)) (.ofList argument) outcome) :
      Reads line (outcome.map some)

section Words

variable {word argument : String} {outcome : Except PromptError Command}

theorem le_maxUInt32_iff {n : Nat} : n ≤ maxUInt32 ↔ n < UInt32.size :=
  Nat.lt_succ_iff.symm

/-- A page size within its bound is taken if it leaves room for something. -/
theorem commandOf_limit {n : Nat} (spelled : word ∈ limitWords)
    (read : natural maxUInt32 argument.toList = .ok n) :
    commandOf word argument =
      if n = 0 then .error (.badLimit argument) else .ok (.limit (.ofNat n)) := by
  rcases List.mem_pair.mp spelled with rfl | rfl <;> cases n <;> simp [commandOf, read]

/-- A word is read as what it means. -/
theorem Means.commandOf_eq (means : Means word argument outcome) :
    commandOf word argument = outcome := by
  cases means with
  | next spelled | previous spelled | refresh spelled =>
      rcases List.mem_pair.mp spelled with rfl | rfl <;> simp [commandOf]
  | quit spelled | help spelled =>
      simp only [List.mem_cons, List.not_mem_nil, or_false] at spelled
      rcases spelled with rfl | rfl | rfl <;> simp [commandOf]
  | sort spelled some_ =>
      rcases List.mem_pair.mp spelled with rfl | rfl <;> simp [commandOf, some_]
  | sortNothing spelled none_ =>
      rcases List.mem_pair.mp spelled with rfl | rfl <;> simp [commandOf, none_]
  | @limit size spelled positive numeral =>
      have read : natural maxUInt32 argument.toList = .ok size.toNat :=
        natural_eq_ok_iff.mpr ⟨numeral, le_maxUInt32_iff.mpr size.toNat_lt_size⟩
      rw [commandOf_limit spelled read, if_neg (by omega), UInt32.ofNat_toNat]
  | limitOutside spelled outside =>
      cases read : natural maxUInt32 argument.toList with
      | error fault => rcases List.mem_pair.mp spelled with rfl | rfl <;> simp [commandOf, read]
      | ok n =>
          obtain ⟨numeral, within⟩ := natural_eq_ok_iff.mp read
          have none_ : n = 0 :=
            (outside n numeral).resolve_right (Nat.not_le.mpr (le_maxUInt32_iff.mp within))
          rw [commandOf_limit spelled read, if_pos none_]
  | unknown unheard =>
      simp only [knownWords, limitWords, List.cons_append, List.nil_append, List.mem_cons,
        List.not_mem_nil, or_false, not_or] at unheard
      simp [commandOf, unheard]

/-- Every word means something. -/
theorem means_commandOf (word argument : String) :
    Means word argument (commandOf word argument) := by
  unfold commandOf
  split_ifs with next previous refresh quit help sort none_ limit
  · exact .next (List.mem_pair.mpr next)
  · exact .previous (List.mem_pair.mpr previous)
  · exact .refresh (List.mem_pair.mpr refresh)
  · exact .quit (by simpa using quit)
  · exact .help (by simpa using help)
  · exact .sortNothing (List.mem_pair.mpr sort) none_
  · exact .sort (List.mem_pair.mpr sort) none_
  · have spelled : word ∈ limitWords := List.mem_pair.mpr limit
    split
    case h_1 read =>
      refine .limitOutside spelled fun n numeral => .inl ?_
      exact numeral.unique (natural_eq_ok_iff.mp read).1
    case h_2 n positive read =>
      obtain ⟨numeral, within⟩ := natural_eq_ok_iff.mp read
      have same : (UInt32.ofNat n).toNat = n :=
        UInt32.toNat_ofNat_of_lt' (le_maxUInt32_iff.mp within)
      refine .limit spelled ?_ ?_
      · rw [same]
        exact Nat.pos_of_ne_zero fun none_ => positive (none_ ▸ rfl)
      · rw [same]
        exact numeral
    case h_3 fault read =>
      refine .limitOutside spelled fun n numeral => .inr (Nat.not_lt.mp fun small => ?_)
      rw [natural_eq_ok_iff.mpr ⟨numeral, le_maxUInt32_iff.mpr small⟩] at read
      cases read
  · refine .unknown fun known => ?_
    simp only [knownWords, limitWords, List.cons_append, List.nil_append, List.mem_cons,
      List.not_mem_nil, or_false] at known
    tauto

theorem commandOf_eq_iff : commandOf word argument = outcome ↔ Means word argument outcome :=
  ⟨fun same => same ▸ means_commandOf word argument, Means.commandOf_eq⟩

end Words

section Lines

variable {line word argument before rest : List Char}

theorem IsWord.trimmed (isWord : IsWord word) : Trimmed word where
  starts c first := isWord.visible c (List.mem_of_mem_head? first)
  ends c last := isWord.visible c (List.mem_of_mem_getLast? last)

/-- A trimmed line is split into its word and its argument. -/
theorem HasParts.wordAndArgument_trimBoth (parts : HasParts line word argument) :
    wordAndArgument (trimBoth line) = (word, argument) ∧ ∃ more, trimBoth line = word ++ more := by
  obtain ⟨isWord, before, rest, blank, isRest, rfl, rfl⟩ := parts
  cases trimmed : trimBoth rest with
  | nil =>
      have alone : trimBoth (before ++ word ++ rest) = word :=
        isWord.trimmed.trimBoth_between blank (trimBoth_eq_nil_iff.mp trimmed)
      rw [alone, wordAndArgument, splitFirst_of_none isWord.visible]
      exact ⟨rfl, [], (List.append_nil word).symm⟩
  | cons c more =>
      have whole : Trimmed (c :: more) := trimmed ▸ trimmed_trimBoth rest
      obtain ⟨gap, after, gapBlank, afterBlank, around⟩ := exists_trimBoth rest
      rw [trimmed] at around
      cases gap with
      | nil =>
          -- the argument would start where the word ends
          have starts : isBlank c = true := isRest c (by rw [← around]; rfl)
          rw [whole.starts c rfl] at starts
          cases starts
      | cons space gap =>
          obtain ⟨isSpace, gapBlank⟩ := List.forall_mem_cons.mp gapBlank
          have core : Trimmed (word ++ space :: (gap ++ c :: more)) := by
            obtain ⟨first, others, rfl⟩ := List.exists_cons_of_ne_nil isWord.some_
            refine ⟨fun d starts => isWord.trimmed.starts d starts, fun d ends => whole.ends d ?_⟩
            rwa [← List.cons_append, ← List.append_assoc, List.getLast?_append_cons] at ends
          have both : trimBoth (before ++ word ++ rest) = word ++ space :: (gap ++ c :: more) := by
            rw [← core.trimBoth_between blank afterBlank, ← around]
            simp only [List.append_assoc, List.cons_append]
          have argument : trimBoth (gap ++ c :: more) = c :: more := by
            rw [← List.append_nil (gap ++ c :: more)]
            exact whole.trimBoth_between gapBlank .nil
          rw [both, wordAndArgument, splitFirst_append isWord.visible isSpace]
          exact ⟨congrArg (word, ·) argument, _, rfl⟩

/-- A line is blank, or starts with a slash behind its blanks, or has a word. -/
theorem line_cases (line : List Char) :
    AllBlank line ∨ (∃ before rest, AllBlank before ∧ line = before ++ '/' :: rest) ∨
      ∃ word argument, HasParts line word argument := by
  rcases exists_first (!isBlank ·) line with blank | ⟨before, c, more, rfl, visible, blank⟩
  · exact .inl fun c within => by simpa using blank c within
  · have blank : AllBlank before := fun c within => by simpa using blank c within
    have visible : isBlank c = false := by simpa using visible
    by_cases slash : c = '/'
    · exact .inr (.inl ⟨before, more, blank, slash ▸ rfl⟩)
    · have noSlash : (c :: more).head? ≠ some '/' := fun same => slash (Option.some.inj same)
      refine .inr (.inr ?_)
      rcases exists_first isBlank (c :: more) with
        plain | ⟨word, space, after, whole, isSpace, plain⟩
      · have isWord : IsWord (c :: more) := ⟨List.cons_ne_nil _ _, plain, noSlash⟩
        refine ⟨c :: more, [], isWord, before, [], blank, nofun, ?_, rfl⟩
        rw [List.append_nil]
      · cases word with
        | nil =>
            cases whole
            rw [visible] at isSpace
            cases isSpace
        | cons first others =>
            cases whole
            exact ⟨_, _, ⟨List.cons_ne_nil _ _, plain, noSlash⟩, before, space :: after, blank,
              fun d starts => Option.some.inj starts ▸ isSpace,
              (List.append_assoc before (_ :: _) _).symm, rfl⟩

end Lines

section Reading

variable {line : String} {word argument before rest : List Char}

theorem readCommand_of_blank (blank : AllBlank line.toList) : readCommand line = .ok none := by
  rw [readCommand, trimBoth_eq_nil_iff.mpr blank]

theorem readCommand_of_slash (blank : AllBlank before)
    (whole : line.toList = before ++ '/' :: rest) :
    readCommand line = .ok (some (.search (.ofList (trimBoth rest)))) := by
  rw [readCommand, whole, blank.trimBoth_cons rfl, ← trimBoth_trimRight rest]
  rfl

theorem HasParts.readCommand_eq (parts : HasParts line.toList word argument) :
    readCommand line =
      (commandOf (asciiLower (.ofList word)) (.ofList argument)).map some := by
  obtain ⟨both, more, whole⟩ := parts.wordAndArgument_trimBoth
  obtain ⟨first, others, rfl⟩ := List.exists_cons_of_ne_nil parts.isWord.some_
  rw [List.cons_append] at whole
  unfold readCommand
  split
  case h_1 none_ =>
    rw [whole] at none_
    cases none_
  case h_2 text slash =>
    rw [whole] at slash
    exact absurd (congrArg List.head? slash) parts.isWord.noSlash
  case h_3 c cs _ same => rw [← same, both]

theorem HasParts.readCommand_eq_ok_iff {command : Command}
    (parts : HasParts line.toList word argument) :
    readCommand line = .ok (some command) ↔
      Means (asciiLower (.ofList word)) (.ofList argument) (.ok command) := by
  rw [parts.readCommand_eq, ← commandOf_eq_iff]
  cases commandOf (asciiLower (.ofList word)) (.ofList argument) <;> simp [Except.map]

/-- A line is read as what it means, and everything else is not what it means. -/
theorem readCommand_eq_iff {outcome : Except PromptError (Option Command)} :
    readCommand line = outcome ↔ Reads line.toList outcome := by
  constructor
  · rintro rfl
    rcases line_cases line.toList with
      blank | ⟨before, rest, blank, whole⟩ | ⟨word, argument, parts⟩
    · rw [readCommand_of_blank blank]
      exact .nothing blank
    · rw [readCommand_of_slash blank whole, whole]
      exact .search blank
    · rw [parts.readCommand_eq]
      exact .word parts (means_commandOf _ _)
  · intro reads
    generalize whole : line.toList = text at reads
    cases reads with
    | nothing blank => exact readCommand_of_blank (whole ▸ blank)
    | search blank => exact readCommand_of_slash blank whole
    | word parts means =>
        rw [(whole ▸ parts : HasParts line.toList _ _).readCommand_eq, means.commandOf_eq]

/-- A line means nothing exactly if it is blank. -/
theorem readCommand_eq_none_iff : readCommand line = .ok none ↔ AllBlank line.toList := by
  refine ⟨fun read => ?_, readCommand_of_blank⟩
  rcases line_cases line.toList with blank | ⟨before, rest, blank, whole⟩ | ⟨word, argument, parts⟩
  · exact blank
  · rw [readCommand_of_slash blank whole] at read
    cases read
  · rw [parts.readCommand_eq] at read
    cases meant : commandOf (asciiLower (.ofList word)) (.ofList argument) <;>
      · rw [meant] at read
        cases read

/-- A command that is read is a search, or what a word means. -/
theorem command_cases {command : Command} (read : readCommand line = .ok (some command)) :
    (∃ text, command = .search (.ofList (trimBoth text))) ∨
      ∃ word argument, HasParts line.toList word argument ∧
        Means (asciiLower (.ofList word)) (.ofList argument) (.ok command) := by
  rcases line_cases line.toList with blank | ⟨before, rest, blank, whole⟩ | ⟨word, argument, parts⟩
  · rw [readCommand_of_blank blank] at read
    cases read
  · rw [readCommand_of_slash blank whole] at read
    cases read
    exact .inl ⟨rest, rfl⟩
  · exact .inr ⟨word, argument, parts, parts.readCommand_eq_ok_iff.mp read⟩

end Reading

end UtilityBilling.Console
