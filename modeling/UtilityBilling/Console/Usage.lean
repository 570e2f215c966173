/-
# Reading command lines

A command line is a list of words. A level of it has options, at most one free
word, and perhaps commands that open a level of their own. An option is given by its
long name, with a value behind an equals sign or in the next word, or by its letter,
alone or run together with others. After two dashes every word is a free one. What
the words leave open is filled in from variables of the environment and from fixed
defaults. Options that hold at every level may be given before and after the command;
the command line counts more than a variable, a variable more than a default, and of
two equals the later.
-/

import UtilityBilling.Number.Numeral
import UtilityBilling.Text.Blank
import UtilityBilling.Text.Quoted

namespace UtilityBilling.Console

open UtilityBilling.Number UtilityBilling.Text

/-- Why a command line is not carried out. -/
inductive UsageError where
  | displayHelp
  | displayVersion
  /-- Nothing at all was given where a command is needed. -/
  | nothingGiven
  | missingCommand
  | unknownCommand
  | unknownArgument
  /-- A value is missing or empty. -/
  | missingValue
  /-- A value was given to an option that takes none. -/
  | unwantedValue
  /-- A value is not of the kind that the option takes. -/
  | badValue (message : String)
  | givenTwice
  | missingArgument
  deriving DecidableEq, Repr

/-- The kinds of values. -/
inductive ValueKind where
  | text
  /-- A text that is not empty. -/
  | path
  | number32
  | number64
  /-- A key and a value with an equals sign between them. -/
  | pair
  deriving DecidableEq, Repr

/-- Reads a number of 32 bits. -/
def number32? (text : String) : Except UsageError UInt32 :=
  match integer maxInt64 text.toList with
  | .error e => .error (.badValue e.message)
  | .ok n =>
    if 0 ≤ n ∧ n ≤ maxUInt32 then .ok (UInt32.ofNat n.toNat)
    else .error (.badValue (toString n ++ " is not in 0..=" ++ toString maxUInt32))

/-- Reads a number of 64 bits. -/
def number64? (text : String) : Except UsageError UInt64 :=
  match natural maxUInt64 text.toList with
  | .error e => .error (.badValue e.message)
  | .ok n => .ok (UInt64.ofNat n)

/-- Reads a key and a value, each without the blanks around it. -/
def pair? (text : String) : Except UsageError (String × String) :=
  match splitFirst (· == '=') text.toList with
  | some (key, value) =>
    if (trimBoth key).isEmpty then .error (.badValue ("expected key=value, got " ++ quoted text))
    else .ok (String.ofList (trimBoth key), String.ofList (trimBoth value))
  | none => .error (.badValue ("expected key=value, got " ++ quoted text))

/-- Whether a text is a value of a kind. -/
def ValueKind.check (text : String) : ValueKind → Except UsageError Unit
  | .text => .ok ()
  | .path => if text = "" then .error .missingValue else .ok ()
  | .number32 => (number32? text).map fun _ => ()
  | .number64 => (number64? text).map fun _ => ()
  | .pair => (pair? text).map fun _ => ()

/-- What giving an option does. -/
inductive Action where
  /-- Takes one value, once. -/
  | set (kind : ValueKind)
  /-- Takes one value each time; a value may be several with a mark between them. -/
  | append (kind : ValueKind) (separator : Option Char)
  /-- Is given once, without a value. -/
  | flag
  /-- Counts how often it is given, up to 255. -/
  | count
  | help
  | version
  deriving DecidableEq, Repr

/-- Whether an option takes a value. -/
def Action.takesValue : Action → Bool
  | .set _ | .append _ _ => true
  | _ => false

/-- An option. -/
structure Switch where
  name : String
  letter : Option Char := none
  action : Action
  /-- The variable of the environment that stands in for the option. -/
  environmentName : Option String := none
  deriving DecidableEq, Repr

/-- A level of a command line. -/
structure Level where
  switches : List Switch
  /-- The free word of the level. -/
  free : Option String := none
  commands : List String := []
  /-- The options and the free word that have to be given. -/
  required : List String := []
  /-- Pairs of which the first needs the second. -/
  needs : List (String × String) := []
  deriving DecidableEq, Repr

/-- Where a value comes from. -/
inductive Source where
  | environment
  | commandLine
  deriving DecidableEq, Repr

/-- An option or free word that is given, with its values. -/
structure Given where
  name : String
  source : Source
  values : List String
  deriving DecidableEq, Repr

/-- What is given on a level. -/
abbrev Givens := List Given

/-- What is given under a name. -/
def Givens.find? (givens : Givens) (name : String) : Option Given :=
  List.find? (fun given => given.name == name) givens

/-- The givens with another one in place of any of its name. -/
def Givens.put (givens : Givens) (given : Given) : Givens :=
  givens.filter (fun other => other.name != given.name) ++ [given]

/-- The values in a value. -/
def splitValue (separator : Option Char) (value : String) : List String :=
  match separator with
  | some mark => (splitAll (· == mark) value.toList).map String.ofList
  | none => [value]

/-- Checks the values of a kind in order. -/
def checkAll (kind : ValueKind) : List String → Except UsageError Unit
  | [] => .ok ()
  | value :: rest =>
    match kind.check value with
    | .error e => .error e
    | .ok () => checkAll kind rest

/-- How often an option has been counted. -/
def countOf (values : List String) : Nat :=
  min 255 values.length

/-- Takes an option with its values, if it has any. -/
def give (givens : Givens) (source : Source) (switch : Switch) (values : List String) :
    Except UsageError Givens :=
  match switch.action with
  | .help => .error .displayHelp
  | .version => .error .displayVersion
  | .flag =>
    if (givens.find? switch.name).isSome then .error .givenTwice
    else .ok (givens.put ⟨switch.name, source, ["true"]⟩)
  | .count =>
    let before := ((givens.find? switch.name).map Given.values).getD []
    .ok (givens.put ⟨switch.name, source, before ++ ["true"]⟩)
  | .set kind =>
    if values.isEmpty then .error .missingValue
    else if (givens.find? switch.name).isSome then .error .givenTwice
    else (checkAll kind values).map fun () => givens.put ⟨switch.name, source, values⟩
  | .append kind separator =>
    if values.isEmpty then .error .missingValue
    else
      let parts := values.flatMap (splitValue separator)
      let before := ((givens.find? switch.name).map Given.values).getD []
      (checkAll kind parts).map fun () => givens.put ⟨switch.name, source, before ++ parts⟩

/-- How far the reading of a level has come. -/
structure Progress where
  givens : Givens := []
  /-- An option whose value has not been taken yet, with the value if it has come. -/
  pending : Option (Switch × List String) := none
  /-- Whether two dashes have been read. -/
  onlyFree : Bool := false
  freeTaken : Bool := false
  deriving DecidableEq, Repr

namespace Progress

/-- Takes the pending option. -/
def settle (progress : Progress) : Except UsageError Progress :=
  match progress.pending with
  | none => .ok progress
  | some (switch, values) =>
    (give progress.givens .commandLine switch values).map fun givens =>
      { progress with givens := givens, pending := none }

/-- Takes an option, after the pending one. -/
def take (progress : Progress) (switch : Switch) (values : List String) :
    Except UsageError Progress :=
  match progress.settle with
  | .error e => .error e
  | .ok settled =>
    (give settled.givens .commandLine switch values).map fun givens =>
      { settled with givens := givens }

/-- Leaves an option pending until its value comes, after the pending one. -/
def await (progress : Progress) (switch : Switch) : Except UsageError Progress :=
  progress.settle.map fun settled => { settled with pending := some (switch, []) }

/-- Whether an option still waits for its value. -/
def isAwaiting (progress : Progress) : Bool :=
  match progress.pending with
  | some (_, []) => true
  | _ => false

/-- Takes a word as the value that is waited for. -/
def supply (progress : Progress) (word : String) : Progress :=
  { progress with pending := progress.pending.map fun (switch, _) => (switch, [word]) }

/-- Takes an option that may have a value attached. -/
def takeValued (progress : Progress) (switch : Switch) (attached : Option String) :
    Except UsageError Progress :=
  match attached with
  | some value => progress.take switch [value]
  | none => progress.await switch

/-- Takes a long option without its dashes. -/
def takeLong (level : Level) (progress : Progress) (text : List Char) :
    Except UsageError Progress :=
  let (name, attached) := match splitFirst (· == '=') text with
    | some (name, value) => (String.ofList name, some (String.ofList value))
    | none => (String.ofList text, none)
  match level.switches.find? fun switch => switch.name == name with
  | none => .error .unknownArgument
  | some switch =>
    if switch.action.takesValue then progress.takeValued switch attached
    else if attached.isSome then .error .unwantedValue
    else progress.take switch []

/-- Takes letters that are run together. An option with a value takes all the rest as
its value, without an equals sign in front. -/
def takeLetters (level : Level) : Progress → List Char → Except UsageError Progress
  | progress, [] => .ok progress
  | progress, letter :: rest =>
    match level.switches.find? fun switch => switch.letter == some letter with
    | none => .error .unknownArgument
    | some switch =>
      if switch.action.takesValue then
        let attached := match rest with
          | [] => none
          | '=' :: value => some (String.ofList value)
          | value => some (String.ofList value)
        progress.takeValued switch attached
      else
        match progress.take switch [] with
        | .error e => .error e
        | .ok taken => takeLetters level taken rest

/-- Takes a word that is neither an option nor a value. -/
def takeFree (level : Level) (progress : Progress) (word : String) :
    Except UsageError Progress :=
  match level.free, progress.freeTaken with
  | some name, false =>
    progress.settle.map fun settled =>
      { settled with
        givens := settled.givens.put ⟨name, .commandLine, [word]⟩, freeTaken := true }
  | _, _ =>
    if level.commands.isEmpty then .error .unknownArgument
    else if progress.onlyFree && level.commands.contains word then .error .unknownArgument
    else .error .unknownCommand

end Progress

/-- The command that shows help about the others. -/
def helpCommand : String := "help"

/-- The words of a level: what they give, and the command with the words after it. -/
structure Words where
  progress : Progress
  command : Option (String × List String) := none
  deriving DecidableEq, Repr

/-- Asks for help about commands. There is only one level of them. -/
def helpAbout (level : Level) : List String → UsageError
  | [] => .displayHelp
  | [name] => if level.commands.contains name then .displayHelp else .unknownCommand
  | _ => .unknownCommand

/-- Reads the words of a level up to a command. -/
def readWords (level : Level) : Progress → List String → Except UsageError Words
  | progress, [] => .ok ⟨progress, none⟩
  | progress, word :: rest =>
    let goOn (next : Except UsageError Progress) : Except UsageError Words :=
      match next with
      | .error e => .error e
      | .ok progress => readWords level progress rest
    if progress.onlyFree then goOn (progress.takeFree level word)
    else if !progress.isAwaiting && level.commands.contains word then
      if word = helpCommand then .error (helpAbout level rest)
      else .ok ⟨progress, some (word, rest)⟩
    else
      match word.toList with
      | ['-', '-'] => goOn (.ok { progress with onlyFree := true })
      | '-' :: '-' :: text => goOn (progress.takeLong level text)
      | '-' :: letter :: letters => goOn (progress.takeLetters level (letter :: letters))
      | _ =>
        if progress.isAwaiting then goOn (.ok (progress.supply word))
        else goOn (progress.takeFree level word)

/-- Fills in options from variables of the environment. -/
def fillIn (environment : List (String × String)) :
    List Switch → Givens → Except UsageError Givens
  | [], givens => .ok givens
  | switch :: rest, givens =>
    match switch.environmentName.bind fun name => environment.lookup name with
    | none => fillIn environment rest givens
    | some value =>
      if (givens.find? switch.name).isSome then fillIn environment rest givens
      else
        match give givens .environment switch [value] with
        | .error e => .error e
        | .ok more => fillIn environment rest more

/-- What a level still lacks. -/
def lacking (level : Level) (givens : Givens) : List String :=
  let needed := level.needs.filterMap fun (first, second) =>
    if (givens.find? first).isSome then some second else none
  (level.required ++ needed).filter fun name => (givens.find? name).isNone

/-- Completes a level after its words have been read. -/
def complete (level : Level) (environment : List (String × String)) (hasCommand : Bool)
    (progress : Progress) : Except UsageError Givens := do
  let settled ← progress.settle
  let givens ← fillIn environment level.switches settled.givens
  if !level.commands.isEmpty && !hasCommand then
    throw (if givens.isEmpty then .nothingGiven else .missingCommand)
  if !(lacking level givens).isEmpty then throw .missingArgument
  return givens

/-- Reads a level without commands. -/
def readInner (level : Level) (environment : List (String × String)) (words : List String) :
    Except UsageError Givens := do
  let read ← readWords level {} words
  complete level environment false read.progress

/-- What is given on a command line: at the outer level, and under a command. -/
structure CommandLine where
  outer : Givens
  command : String
  inner : Givens
  deriving DecidableEq, Repr

/-- Reads a command line. The words under the command are looked at first. -/
def readCommandLine (outer : Level) (innerOf : String → Level)
    (environment : List (String × String)) (words : List String) :
    Except UsageError CommandLine := do
  let read ← readWords outer {} words
  match read.command with
  | none =>
    let _ ← complete outer environment false read.progress
    throw .missingCommand
  | some (command, rest) =>
    let inner ← readInner (innerOf command) environment rest
    let givens ← complete outer environment true read.progress
    return ⟨givens, command, inner⟩

/-- What an option that holds at every level comes to. -/
def CommandLine.everywhere (line : CommandLine) (name : String) : Option (List String) :=
  match line.outer.find? name, line.inner.find? name with
  | some before, some after =>
    if before.source = .commandLine ∧ after.source = .environment then some before.values
    else some after.values
  | some before, none => some before.values
  | none, some after => some after.values
  | none, none => none

end UtilityBilling.Console
