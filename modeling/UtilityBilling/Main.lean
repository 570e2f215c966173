/-
# The command line program

Reads its words, the environment and the session file, runs the command with the
lines that the user types, and shows, saves and logs what comes of it. The program
has no network of its own: every call to the backend finds the line down.
-/

import Std.Time.DateTime.Timestamp
import UtilityBilling.Console.Command

namespace UtilityBilling.Program

open UtilityBilling.Console
open UtilityBilling.Files (Volume)

/-- The variables of the environment that an invocation looks at. -/
def environmentNames : List String :=
  (innerLevel "login").switches.filterMap Switch.environmentName

/-- Reads the environment. -/
def readEnvironment : IO (List (String × String)) :=
  environmentNames.filterMapM fun name => do
    return (← IO.getEnv name).map fun value => (name, value)

/-- How the program is used. -/
def usageText : String :=
  "usage: billing [options] login | logout | status | browse | task | run\n"

/-- The present time. -/
def presentTime : IO Session.Instant := do
  let now ← Std.Time.Timestamp.now
  let nanoseconds := now.toNanosecondsSinceUnixEpoch.toInt
  return ⟨nanoseconds.fdiv 1000000000, (nanoseconds.fmod 1000000000).toNat⟩

/-- Takes the file at a path into a tree, if there is one. -/
def loadFile (path : String) : IO Volume := do
  match ← (IO.FS.readBinFile path).toBaseIO with
  | .ok content => return Volume.install {} path content.toList
  | .error _ => return {}

/-- Writes back the file at a path, if it has changed. -/
def saveFile (path : String) (before after : Volume) : IO Unit := do
  let held := (before.read path).toOption
  match (after.read path).toOption with
  | some content =>
    if held != some content then
      IO.FS.createDirAll (Files.directoryOf path)
      IO.FS.writeBinFile path content.toByteArray
  | none => if held.isSome then IO.FS.removeFile path

/-- Writes the log to where it goes. -/
def writeLog (destination : Option Log.Destination) (records : List Log.Record) : IO Unit := do
  let lines := String.join (records.map fun record => record.line ++ "\n")
  match destination with
  | none => return
  | some (.file path) => IO.FS.writeFile path lines
  | some .terminal => IO.eprint lines
  | some (.both path) =>
    IO.eprint lines
    IO.FS.writeFile path lines

/-- Shows what a client has come to show since it was looked at last. -/
def showSince (output notices : Nat) (client : Client) : IO Unit := do
  IO.print (String.ofList (client.output.toList.drop output))
  IO.eprint (String.ofList (client.notices.toList.drop notices))
  (← IO.getStdout).flush

/-- Takes lines until the command is finished. -/
partial def converse (input : IO.FS.Stream) (output notices : Nat) (stage : Stage) :
    IO (CommandResult × Client) := do
  showSince output notices stage.client
  let output := stage.client.output.length
  let notices := stage.client.notices.length
  match stage with
  | .finished result client => return (result, client)
  | waiting =>
    let line ← input.getLine
    if line.isEmpty then
      let (result, client) := waiting.endOfInput
      showSince output notices client
      return (result, client)
    else
      let text := String.ofList (line.toList.takeWhile (· != '\n'))
      converse input output notices (waiting.take text).rest

/-- Runs an invocation; the answer is why it failed, if it did. -/
def runInvocation (invocation : Invocation) : IO (Option String) := do
  let before ← loadFile invocation.sessionFile
  match Client.ofInvocation Api.Line.down before (← presentTime) invocation with
  | .error error =>
    writeLog invocation.log [Log.error error.message]
    return some error.message
  | .ok client =>
    let (result, client) ← converse (← IO.getStdin) 0 0 (.start client invocation.order)
    saveFile invocation.sessionFile before client.state.volume
    match result with
    | .ok () =>
      writeLog invocation.log client.state.log
      return none
    | .error error =>
      writeLog invocation.log (client.state.log ++ [Log.error error.message])
      return some error.message

end UtilityBilling.Program

/-- Runs the program: the exit code is 1 after a failure and 2 after a wrong command
line. -/
def main (words : List String) : IO UInt32 := do
  match UtilityBilling.Console.readInvocation
      (← UtilityBilling.Program.readEnvironment) words with
  | .error .displayHelp | .error .displayVersion =>
    IO.print UtilityBilling.Program.usageText
    return 0
  | .error _ =>
    IO.eprint UtilityBilling.Program.usageText
    return 2
  | .ok invocation =>
    match ← UtilityBilling.Program.runInvocation invocation with
    | none => return 0
    | some message =>
      IO.eprintln ("error: " ++ message)
      return 1
