/-
# The client at work

A client has a gateway to the backend and two streams to the user: what was asked
for goes to one of them, notices and prompts to the other. Whenever the gateway
signs the user out a notice says so. A command that cannot do what it was asked for
ends with a cause, and the cause has one wording.
-/

import UtilityBilling.Api.Gateway
import UtilityBilling.Files.Output

namespace UtilityBilling.Console

open UtilityBilling.Json (Value)

/-- Why a command did not do what it was asked for. -/
inductive CommandError where
  /-- The user was asked for a password and gave none. -/
  | noPassword
  | signIn (error : Api.Error)
  /-- The backend refused the session before anything could be shown. -/
  | notSignedIn
  /-- The first frame of a list did not come in time. -/
  | noResponse (endpoint : String)
  /-- The backend refused the session while a list was browsed. -/
  | sessionEnded
  | task (taskId : String) (error : Task.PollError)
  | notStarted (endpoint : String) (error : Api.Error)
  /-- The answer to the start of a job names no task. -/
  | noTaskId (endpoint : String) (answer : Value)
  | output (error : Files.OutputError)
  | download (error : Api.Error)

/-- The wording of a failed command. -/
def CommandError.message : CommandError → String
  | .noPassword => "no password given"
  | .signIn error => "sign-in failed: " ++ error.message
  | .notSignedIn => "not signed in"
  | .noResponse endpoint => "no response from " ++ endpoint
  | .sessionEnded => "session ended"
  | .task taskId error => "task " ++ taskId ++ ": " ++ error.message
  | .notStarted endpoint error => "could not start " ++ endpoint ++ ": " ++ error.message
  | .noTaskId endpoint answer => endpoint ++ " did not return a task id: " ++ answer.compact
  | .output error => error.message
  | .download error => error.message

/-- What a command comes to. -/
abbrev CommandResult := Except CommandError Unit

/-- A client at work. -/
structure Client where
  settings : Api.Settings
  line : Api.Line
  /-- The path of the session file. -/
  sessionFile : String
  state : Api.State
  /-- What the user was shown of what was asked for. -/
  output : String := ""
  /-- The prompts, notices and progress reports that the user was shown. -/
  notices : String := ""

/-- The notice that the session has ended. -/
def sessionEndedNotice : String :=
  "Session ended. Run `billing login --username <name>` to sign in again.\n"

namespace Client

/-- Shows a line of what was asked for. -/
def say (client : Client) (text : String) : Client :=
  { client with output := client.output ++ text ++ "\n" }

/-- Shows a prompt or a notice as it is. -/
def notify (client : Client) (text : String) : Client :=
  { client with notices := client.notices ++ text }

/-- Takes on the state in which calls have left the gateway, with a notice for each
time the user was signed out. -/
def adopt (client : Client) (after : Api.State) : Client :=
  let fresh := after.signOuts - client.state.signOuts
  { client with
    state := after
    notices := client.notices ++ String.join (List.replicate fresh sessionEndedNotice) }

/-- Whether the user was signed out in the course of the work. -/
def wasSignedOut (client : Client) : Bool :=
  0 < client.state.signOuts

/-- Adds records to the log. -/
def record (client : Client) (records : List Log.Record) : Client :=
  { client with state := { client.state with log := client.state.log ++ records } }

/-- Asks for the password. -/
def askPassword (client : Client) : Client :=
  client.notify "Password: "

/-- The password in a typed line: carriage returns at its end do not count. -/
def passwordIn (line : String) : String :=
  String.ofList (line.toList.reverse.dropWhile (· == '\r')).reverse

/-- Signs in with a name and a password. -/
def login (client : Client) (username password : String) : CommandResult × Client :=
  match Api.login client.settings client.line client.state username password with
  | (.ok (), after) => (.ok (), (client.adopt after).say ("Signed in as " ++ username ++ "."))
  | (.error error, after) => (.error (.signIn error), client.adopt after)

/-- Signs out, if there is a session. -/
def logout (client : Client) : Client :=
  if client.state.isAuthenticated then client.adopt client.state.signOut
  else client.say "No stored session."

/-- The line that says since when there is a session. -/
def sessionLine (client : Client) : String :=
  match client.state.credentials.savedAt with
  | some savedAt =>
    if client.state.isAuthenticated then "Signed in since " ++ savedAt.minuteText
    else "Not signed in"
  | none => "Not signed in"

/-- Says where the backend and the session file are, and since when there is a
session. -/
def status (client : Client) : Client :=
  ((client.say ("API:      " ++ client.settings.baseUrl.text)).say
    ("Session:  " ++ client.sessionFile)).say client.sessionLine

end Client

end UtilityBilling.Console
