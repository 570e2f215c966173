/-
# What can be typed, and what comes of it

The blanks around a line and the case of its word have no bearing on what it means. The commands
that a line can mean are those that can be written down, and each is read back from how it is
written. The table heeds every one that it is sent, unless the page before the first one or the
page after the last one is asked for.
-/

import UtilityBilling.Console.Browser
import UtilityBilling.Proofs.Console.Prompt
import UtilityBilling.Proofs.Table.Ignored
import UtilityBilling.Proofs.Text.Case

namespace UtilityBilling.Console

open UtilityBilling.Json (Value)
open UtilityBilling.Number UtilityBilling.Text

section Alike

variable {line : String} {word other argument before after : List Char}

/-- Blanks around a line have no bearing on it. -/
theorem readCommand_around (start : AllBlank before) (stop : AllBlank after) (line : String) :
    readCommand (.ofList (before ++ line.toList ++ after)) = readCommand line := by
  rw [readCommand, String.toList_ofList, start.trimBoth_around stop]
  rfl

/-- A word in other letters is a word. -/
theorem IsWord.of_toLower (isWord : IsWord word)
    (same : other.map Char.toLower = word.map Char.toLower) : IsWord other where
  some_ none_ := by
    rw [none_, List.map_nil, eq_comm, List.map_eq_nil_iff] at same
    exact isWord.some_ same
  visible c within := by
    have small : c.toLower ∈ word.map Char.toLower := same ▸ List.mem_map_of_mem within
    obtain ⟨d, inside, alike⟩ := List.mem_map.mp small
    rw [← isBlank_toLower, ← alike, isBlank_toLower]
    exact isWord.visible d inside
  noSlash slash := by
    have first := congrArg List.head? same
    rw [List.head?_map, slash, List.head?_map] at first
    obtain ⟨d, head, small⟩ := Option.map_eq_some_iff.mp first.symm
    rw [(toLower_eq_slash_iff d).mp small] at head
    exact isWord.noSlash head

/-- The case of its word has no bearing on a line. -/
theorem readCommand_eq_of_toLower {rest : List Char} (isWord : IsWord word)
    (start : AllBlank before) (isRest : IsRest rest)
    (same : other.map Char.toLower = word.map Char.toLower) :
    readCommand (.ofList (before ++ other ++ rest)) =
      readCommand (.ofList (before ++ word ++ rest)) := by
  have read {spoken : List Char} (isWord : IsWord spoken) :
      readCommand (.ofList (before ++ spoken ++ rest)) =
        (commandOf (asciiLower (.ofList spoken)) (.ofList (trimBoth rest))).map some := by
    apply HasParts.readCommand_eq
    rw [String.toList_ofList]
    exact ⟨isWord, before, rest, start, isRest, rfl, rfl⟩
  have small : asciiLower (.ofList other) = asciiLower (.ofList word) := by
    rw [asciiLower, asciiLower, String.toList_ofList, String.toList_ofList, same]
  rw [read (isWord.of_toLower same), read isWord, small]

/-- Behind a slash that starts a line its search is trimmed. -/
theorem readCommand_of_trimmed_slash {rest : List Char}
    (trimmed : trimBoth line.toList = '/' :: rest) :
    readCommand line = .ok (some (.search (trim (.ofList rest)))) := by
  rw [readCommand, trimmed, trim, String.toList_ofList]
  rfl

end Alike

/-- A command can be written as a line. -/
inductive Command.Sayable : Command → Prop where
  | next : Sayable (.page 1)
  | previous : Sayable (.page (-1))
  | search {text : String} (trimmed : trim text = text) : Sayable (.search text)
  | sort {field : String} (some_ : field ≠ "") (trimmed : trim field = field) :
      Sayable (.sort field)
  | limit {size : UInt32} (positive : 1 ≤ size.toNat) : Sayable (.limit size)
  | refresh : Sayable .refresh
  | help : Sayable .help
  | quit : Sayable .quit

/-- How a command is written. -/
def Command.written : Command → String
  | .page delta => if 0 < delta then "next" else "prev"
  | .search text => "/" ++ text
  | .sort field => "sort " ++ field
  | .limit size => "limit " ++ toString size.toNat
  | .refresh => "refresh"
  | .help => "help"
  | .quit => "quit"

section Written

variable {line : String} {word argument : List Char} {command : Command}

theorem trim_ofList (trimmed : Trimmed argument) : trim (.ofList argument) = .ofList argument :=
  trim_eq_self_iff.mpr (String.toList_ofList.symm ▸ trimmed)

/-- What a word means can be written. -/
theorem Means.sayable {spoken given : String} (means : Means spoken given (.ok command))
    (trimmed : trim given = given) : command.Sayable := by
  cases means with
  | next => exact .next
  | previous => exact .previous
  | refresh => exact .refresh
  | quit => exact .quit
  | help => exact .help
  | sort _ some_ => exact .sort some_ trimmed
  | limit _ positive => exact .limit positive

/-- A command that is read can be written. -/
theorem sayable_of_readCommand (read : readCommand line = .ok (some command)) :
    command.Sayable := by
  rcases command_cases read with ⟨text, rfl⟩ | ⟨word, argument, ⟨_, _, rest, _, _, _, rfl⟩, means⟩
  · exact .search (trim_ofList (trimmed_trimBoth text))
  · exact means.sayable (trim_ofList (trimmed_trimBoth rest))

/-- Behind a word and a blank stands its argument. -/
theorem hasParts_spaced (isWord : IsWord word) (trimmed : Trimmed argument) :
    HasParts (word ++ ' ' :: argument) word argument := by
  refine ⟨isWord, [], ' ' :: argument, .nil, fun c starts => ?_, rfl, ?_⟩
  · cases starts
    rfl
  · have space : AllBlank [' '] := by decide
    have both := space.trimBoth_around AllBlank.nil argument
    rw [List.append_nil, trimmed.trimBoth_eq] at both
    exact both

/-- A word with a blank and an argument behind it is read as the two. -/
theorem readCommand_spaced {spoken given : String} (isWord : IsWord spoken.toList)
    (trimmed : Trimmed given.toList) (whole : line.toList = spoken.toList ++ ' ' :: given.toList)
    (means : Means (asciiLower spoken) given (.ok command)) :
    readCommand line = .ok (some command) := by
  have parts := hasParts_spaced isWord trimmed
  rw [← whole] at parts
  rw [parts.readCommand_eq_ok_iff, String.ofList_toList, String.ofList_toList]
  exact means

/-- Every command is read back from how it is written. -/
theorem Command.Sayable.readCommand_written (sayable : command.Sayable) :
    readCommand command.written = .ok (some command) := by
  cases sayable with
  | next | previous | refresh | help | quit => rfl
  | @search text trimmed =>
      have whole : (written (.search text)).toList = [] ++ '/' :: text.toList :=
        String.toList_append
      rw [readCommand_of_slash .nil whole, (trim_eq_self_iff.mp trimmed).trimBoth_eq,
        String.ofList_toList]
  | @sort field some_ trimmed =>
      have isWord : IsWord "sort".toList := by decide
      exact readCommand_spaced isWord (trim_eq_self_iff.mp trimmed) String.toList_append
        (.sort (by decide) some_)
  | @limit size positive =>
      have isWord : IsWord "limit".toList := by decide
      have numeral : IsNumeral (toString size.toNat).toList size.toNat := by
        rw [show (toString size.toNat).toList = Nat.toDigits 10 size.toNat from Nat.toList_repr]
        exact isNumeral_toDigits _
      exact readCommand_spaced isWord (readable_toString _).trimmed String.toList_append
        (.limit (by decide) positive numeral)

/-- A page size is read exactly from its numeral behind a word for it. -/
theorem readCommand_eq_limit_iff {size : UInt32} :
    readCommand line = .ok (some (.limit size)) ↔
      ∃ word argument, HasParts line.toList word argument ∧
        asciiLower (.ofList word) ∈ limitWords ∧ IsNumeral argument size.toNat ∧
        1 ≤ size.toNat := by
  constructor
  · intro read
    rcases command_cases read with ⟨text, search⟩ | ⟨word, argument, parts, means⟩
    · cases search
    · cases means with
      | limit spelled positive numeral =>
          rw [String.toList_ofList] at numeral
          exact ⟨word, argument, parts, spelled, numeral, positive⟩
  · rintro ⟨word, argument, parts, spelled, numeral, positive⟩
    rw [← String.toList_ofList (l := argument)] at numeral
    exact parts.readCommand_eq_ok_iff.mpr (.limit spelled positive numeral)

/-- A word for the page size refuses every other argument. -/
theorem HasParts.readCommand_of_outside (parts : HasParts line.toList word argument)
    (spelled : asciiLower (.ofList word) ∈ limitWords)
    (outside : ∀ n, IsNumeral argument n → n = 0 ∨ UInt32.size ≤ n) :
    readCommand line = .error (.badLimit (.ofList argument)) := by
  rw [parts.readCommand_eq,
    Means.commandOf_eq (.limitOutside spelled (String.toList_ofList.symm ▸ outside))]
  rfl

end Written

/-- The message that a command sends to the table, if it sends one. -/
def Command.message? : Command → Option (Table.Message Value)
  | .page delta => some (.pageMoved delta)
  | .search text => some (.searchTyped text)
  | .sort field => some (.sortClicked field)
  | .limit size => some (.limitChanged size)
  | .refresh => some .refresh
  | .help | .quit => none

section Table

variable {line : String} {command : Command} {message : Table.Message Value}

theorem Browser.take_of_message? (read : readCommand line = .ok (some command))
    (sends : command.message? = some message) (browser : Browser) :
    browser.take line = some (browser.send message) := by
  rw [Browser.take, read]
  cases command <;> cases sends <;> rfl

theorem Command.message?_eq_none_iff (command : Command) :
    command.message? = none ↔ command = .help ∨ command = .quit := by
  cases command <;> simp [message?]

/-- A command asks for the page before the first one or the page after the last one. -/
def Command.LeavesPages (command : Command) (page : UInt32) : Prop :=
  (command = .page (-1) ∧ page = 1) ∨ (command = .page 1 ∧ page = 4294967295)

/-- A table ignores what a written command sends only if there is no such page. -/
theorem Command.Sayable.update_eq_self_iff (sayable : command.Sayable)
    (sends : command.message? = some message) {state : Table.State Value}
    (sound : state.query.Sound) :
    state.update message = (state, []) ↔ command.LeavesPages state.query.page := by
  have first : state.query.page = 1 ↔ state.query.page.toNat = 1 := UInt32.toNat_inj.symm
  have last : state.query.page = 4294967295 ↔ state.query.page.toNat = 4294967295 :=
    UInt32.toNat_inj.symm
  have below := state.query.page.toNat_lt
  have above := sound.page
  rw [Table.State.update_eq_self_iff, LeavesPages, first, last]
  constructor
  · intro ignores
    cases sayable with
    | next =>
        cases sends
        cases ignores with
        | noPage outside => exact .inr ⟨rfl, by omega⟩
        | lateAnswer answers => cases answers
    | previous =>
        cases sends
        cases ignores with
        | noPage outside => exact .inl ⟨rfl, by omega⟩
        | lateAnswer answers => cases answers
    | limit positive =>
        cases sends
        cases ignores with
        | noLimit => exact absurd positive (by decide)
        | lateAnswer answers => cases answers
    | help | quit => cases sends
    | _ =>
        cases sends
        cases ignores with
        | lateAnswer answers => cases answers
  · rintro (⟨rfl, page⟩ | ⟨rfl, page⟩)
    · cases sends
      exact .noPage (by omega)
    · cases sends
      exact .noPage (by omega)

end Table

/-- Typed lines are read by their grammar, and what is read is heeded. Every line is read as
the one outcome that it means, a command, nothing or the reason why it is no command; it is nothing
exactly if it is blank. Blanks around a line and the case of its word have no bearing on this. A
trimmed line that starts with a slash searches for what is behind it, trimmed. A page size is read
exactly from a numeral of it behind a word for it, from 1 up to the greatest 32-bit number, and such
a word refuses every other argument. The commands that are read are those that can be written, and
each is read back from how it is written. All but those for help and for the end are sent to the
table, which ignores them, in whatever state, only where they ask for the page before the first one
or the page after the last one. -/
theorem lines_read_by_grammar (line : String) :
    (∀ outcome, readCommand line = outcome ↔ Reads line.toList outcome) ∧
      (readCommand line = .ok none ↔ AllBlank line.toList) ∧
      (∀ before after, AllBlank before → AllBlank after →
        readCommand (.ofList (before ++ line.toList ++ after)) = readCommand line) ∧
      (∀ before word other rest, AllBlank before → IsWord word → IsRest rest →
        line.toList = before ++ word ++ rest → other.map Char.toLower = word.map Char.toLower →
          readCommand (.ofList (before ++ other ++ rest)) = readCommand line) ∧
      (∀ rest, trimBoth line.toList = '/' :: rest →
        readCommand line = .ok (some (.search (trim (.ofList rest))))) ∧
      (∀ size, readCommand line = .ok (some (.limit size)) ↔
        ∃ word argument, HasParts line.toList word argument ∧
          asciiLower (.ofList word) ∈ limitWords ∧ IsNumeral argument size.toNat ∧
          1 ≤ size.toNat) ∧
      (∀ word argument, HasParts line.toList word argument →
        asciiLower (.ofList word) ∈ limitWords →
        (∀ n, IsNumeral argument n → n = 0 ∨ UInt32.size ≤ n) →
          readCommand line = .error (.badLimit (.ofList argument))) ∧
      (∀ command, readCommand line = .ok (some command) → command.Sayable) ∧
      (∀ command : Command, command.Sayable → readCommand command.written = .ok (some command)) ∧
      ∀ command, readCommand line = .ok (some command) →
        (command.message? = none ↔ command = .help ∨ command = .quit) ∧
          ∀ message, command.message? = some message →
            (∀ browser : Browser, browser.take line = some (browser.send message)) ∧
              ∀ config moves, let state := (Table.State.ofConfig config).after moves
                state.update message = (state, []) ↔ command.LeavesPages state.query.page := by
  refine ⟨fun _ => readCommand_eq_iff, readCommand_eq_none_iff, ?_, ?_, ?_, ?_, ?_, ?_, ?_, ?_⟩
  · exact fun before after start stop => readCommand_around start stop line
  · intro before word other rest start isWord isRest whole same
    rw [readCommand_eq_of_toLower isWord start isRest same, ← whole, String.ofList_toList]
  · exact fun rest => readCommand_of_trimmed_slash
  · exact fun size => readCommand_eq_limit_iff
  · exact fun word argument => HasParts.readCommand_of_outside
  · exact fun command => sayable_of_readCommand
  · exact fun command => Command.Sayable.readCommand_written
  · intro command read
    refine ⟨command.message?_eq_none_iff, fun message sends => ?_⟩
    refine ⟨Browser.take_of_message? read sends, fun config moves => ?_⟩
    have sound := Table.State.sound_after (α := Value) config moves
    exact (sayable_of_readCommand read).update_eq_self_iff sends sound

/-- A page size with a sign and zeros before it is taken, in whatever case and with whatever blanks
it is asked for; one that is greater than every 32-bit number is refused. -/
theorem lines_read_by_grammar_limit :
    let line := "\u3000LiMiT \t+007 "
    let beyond := "limit 4294967296"
    readCommand line = .ok (some (.limit 7)) ∧
      readCommand (.ofList (['\u3000'] ++ "lImIt".toList ++ " \t+007 ".toList)) =
        readCommand line ∧
      readCommand beyond = .error (.badLimit "4294967296") ∧
      ∀ browser : Browser, browser.take line = some (browser.send (.limitChanged 7)) := by
  intro line beyond
  have start : AllBlank ['\u3000'] := by decide
  have isWord : IsWord "LiMiT".toList := by decide
  have isRest : IsRest " \t+007 ".toList := fun c first => Option.some.inj first ▸ rfl
  have parts : HasParts line.toList "LiMiT".toList "+007".toList :=
    ⟨isWord, _, _, start, isRest, by decide, by decide⟩
  have seven : IsNumeral "+007".toList 7 := .plus (by decide) (List.all_eq_true.mp rfl) rfl
  obtain ⟨-, -, -, case, -, limit, -, -, -, sent⟩ := lines_read_by_grammar line
  have read := (limit 7).mpr ⟨_, _, parts, by decide, seven, by decide⟩
  have partsBeyond : HasParts beyond.toList "limit".toList "4294967296".toList := by
    refine ⟨by decide, [], " 4294967296".toList, .nil, ?_, ?_, ?_⟩
    · exact fun c first => Option.some.inj first ▸ rfl
    · decide
    · decide
  have large : IsNumeral "4294967296".toList 4294967296 :=
    .plain (by decide) (List.all_eq_true.mp rfl) rfl
  obtain ⟨-, -, -, -, -, -, refuses, -⟩ := lines_read_by_grammar beyond
  refine ⟨read, case _ _ _ _ start isWord isRest (by decide) (by decide), ?_,
    ((sent _ read).2 _ rfl).1⟩
  exact refuses _ _ partsBeyond (by decide) fun n numeral => .inr (numeral.unique large).ge

end UtilityBilling.Console
