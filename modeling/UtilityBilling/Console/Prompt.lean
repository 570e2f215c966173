/-
# The prompt of the table browser

A line typed at the prompt is blank, a search that starts with a slash, or a
command word with its argument. The case of the word and the blanks around the
parts do not matter.
-/

import UtilityBilling.Number.Numeral
import UtilityBilling.Text.Blank
import UtilityBilling.Text.Quoted

namespace UtilityBilling.Console

open UtilityBilling.Text

/-- A command typed at the prompt. -/
inductive Command where
  | page (delta : Int)
  | search (text : String)
  | sort (field : String)
  | limit (size : UInt32)
  | refresh
  | help
  | quit
  deriving DecidableEq, Repr

/-- What the help command shows. -/
def helpText : String :=
  "n | next          next page\n" ++
  "  p | prev          previous page\n" ++
  "  /text             search (just `/` clears)\n" ++
  "  s | sort <field>  sort by field, again to reverse\n" ++
  "  l | limit <n>     page size\n" ++
  "  r | refresh       reload\n" ++
  "  q | quit"

/-- Why a line is no command. -/
inductive PromptError where
  | sortWithoutField
  | badLimit (text : String)
  | unknown (word : String)
  deriving DecidableEq, Repr

/-- The wording of a prompt error. -/
def PromptError.message : PromptError → String
  | .sortWithoutField => "sort needs a field name"
  | .badLimit text => "limit needs a positive number, got " ++ quoted text
  | .unknown word => "unknown command " ++ quoted word ++ "; type h for help"

/-- The command of a word in small letters and its trimmed argument. -/
def commandOf (word argument : String) : Except PromptError Command :=
  if word = "n" ∨ word = "next" then .ok (.page 1)
  else if word = "p" ∨ word = "prev" then .ok (.page (-1))
  else if word = "r" ∨ word = "refresh" then .ok .refresh
  else if word = "q" ∨ word = "quit" ∨ word = "exit" then .ok .quit
  else if word = "h" ∨ word = "help" ∨ word = "?" then .ok .help
  else if word = "s" ∨ word = "sort" then
    if argument = "" then .error .sortWithoutField else .ok (.sort argument)
  else if word = "l" ∨ word = "limit" then
    match Number.natural Number.maxUInt32 argument.toList with
    | .ok 0 => .error (.badLimit argument)
    | .ok size => .ok (.limit (UInt32.ofNat size))
    | .error _ => .error (.badLimit argument)
  else .error (.unknown word)

/-- Splits a trimmed line into its word and its trimmed argument. -/
def wordAndArgument (line : List Char) : List Char × List Char :=
  match splitFirst isBlank line with
  | some (word, rest) => (word, trimBoth rest)
  | none => (line, [])

/-- The command of a line; nothing for a blank line. -/
def readCommand (line : String) : Except PromptError (Option Command) :=
  match trimBoth line.toList with
  | [] => .ok none
  | '/' :: text => .ok (some (.search (String.ofList (trimBoth text))))
  | first :: rest =>
    let (word, argument) := wordAndArgument (first :: rest)
    (commandOf (asciiLower (String.ofList word)) (String.ofList argument)).map some

end UtilityBilling.Console
