/-
# A command in progress

A command runs until it is finished or needs a line from the user: the password of
a sign-in, or what to do next with a list. Given lines until there are no more, every
command finishes. What the user types comes in pieces, and a piece can wait for a
number of frames to be painted.
-/

import UtilityBilling.Console.Browser
import UtilityBilling.Console.Follow
import UtilityBilling.Session.FileStore

namespace UtilityBilling.Console

open UtilityBilling.Files (Volume)
open UtilityBilling.Session (FileStore Instant)
open UtilityBilling.Text

/-- Opens a client for an invocation: its session is that of the session file, if it
belongs to the backend. -/
def Client.ofInvocation (line : Api.Line) (volume : Volume) (now : Instant)
    (invocation : Invocation) : Api.Result Client :=
  (Api.Settings.ofBaseUrl invocation.baseUrl).map fun settings =>
    let (store, log) :=
      FileStore.load volume invocation.sessionFile settings.baseUrl.text
    { settings := { settings with requestTimeout := max invocation.timeoutSeconds.toNat 1 }
      line := line
      sessionFile := invocation.sessionFile
      state := { credentials := .file store, volume := volume, now := now, log := log } }

/-- Where a command stands. -/
inductive Stage where
  | finished (result : CommandResult) (client : Client)
  /-- The password is awaited. -/
  | password (username : String) (client : Client)
  /-- What to do next with a list is awaited. -/
  | browsing (browser : Browser)

namespace Stage

/-- A finished command. -/
def ofResult (result : CommandResult × Client) : Stage :=
  .finished result.1 result.2

/-- Starts to browse a list, as far as it goes without a line from the user. -/
def browse (client : Client) (options : BrowseOptions) : Stage :=
  let browser := Browser.start client options
  match browser.refusal? options.endpoint with
  | some error => .finished (.error error) browser.client
  | none => if options.once then .finished (.ok ()) browser.client else .browsing browser.help

/-- Starts what an order asks for, as far as it goes without a line from the user. -/
def start (client : Client) : Order → Stage
  | .login username none => .password username client.askPassword
  | .login username (some secret) => .ofResult (client.login username secret)
  | .logout => .finished (.ok ()) client.logout
  | .status => .finished (.ok ()) client.status
  | .browse options => .browse client options
  | .task taskId options => .ofResult (client.task taskId options)
  | .run endpoint parameters options => .ofResult (client.run endpoint parameters options)

/-- The client as far as it has come. -/
def client : Stage → Client
  | .finished _ client | .password _ client => client
  | .browsing browser => browser.client

/-- Goes on with a list, unless the session has ended. -/
def goOn (browser : Browser) (next : Browser → Stage) : Stage :=
  if browser.client.wasSignedOut then
    .finished (.error .sessionEnded) browser.close.client
  else next browser

/-- Takes a line from the user. A session that has ended counts before the line. -/
def take (line : String) : Stage → Stage
  | .finished result client => .finished result client
  | .password username client =>
    .ofResult (client.login username (Client.passwordIn line))
  | .browsing browser =>
    goOn browser fun browser =>
      match browser.take line with
      | some after => .browsing after
      | none => .finished (.ok ()) browser.close.client

/-- Waits until a number of frames was painted, if they come. -/
def awaitFrames (frames : Nat) : Stage → Stage
  | .browsing browser => goOn (browser.awaitFrames frames) .browsing
  | other => other

/-- Waits until nothing more is to come. -/
def rest : Stage → Stage
  | .browsing browser => goOn browser.rest .browsing
  | other => other

/-- What the command comes to when there are no more lines. -/
def endOfInput : Stage → CommandResult × Client
  | .finished result client => (result, client)
  | .password _ client => (.error .noPassword, client)
  | .browsing browser =>
    if browser.client.wasSignedOut then (.error .sessionEnded, browser.close.client)
    else (.ok (), browser.close.client)

end Stage

/-- A piece of what the user types. -/
structure Typed where
  /-- How many frames the user waits for. -/
  frames : Nat := 0
  text : List Char
  deriving DecidableEq, Repr

/-- All that the user types. -/
structure Typing where
  pieces : List Typed := []
  /-- Whether the input stays open after the last piece. -/
  staysOpen : Bool := false
  deriving DecidableEq, Repr

/-- The whole lines of a text, and what follows the last of them. -/
def linesAndRest (text : List Char) : List (List Char) × List Char :=
  let pieces := splitAll (· == '\n') text
  (pieces.dropLast, pieces.getLast?.getD [])

namespace Stage

/-- Takes lines in one go. -/
def takeAll (stage : Stage) (lines : List (List Char)) : Stage :=
  lines.foldl (fun held line => held.take (String.ofList line)) stage

/-- Takes pieces of text; what was begun on a line before is finished by the next
piece. The answer is also what was begun on the last line. -/
def takePieces : List Typed → List Char → Stage → Stage × List Char
  | [], begun, stage => (stage, begun)
  | piece :: later, begun, stage =>
    let (lines, next) := linesAndRest (begun ++ piece.text)
    takePieces later next ((stage.awaitFrames piece.frames).takeAll lines)

/-- What the command comes to when the user types something. The end of the input ends
a line that was begun; an input that stays open leaves it unread, and the command goes
on until nothing more is to come. -/
def takeTyping (stage : Stage) (typing : Typing) : CommandResult × Client :=
  let (after, begun) := takePieces typing.pieces [] stage
  if typing.staysOpen then after.rest.endOfInput
  else if begun.isEmpty then after.endOfInput
  else (after.take (String.ofList begun)).endOfInput

end Stage

/-- What an invocation comes to when the user types something. -/
def perform (line : Api.Line) (volume : Volume) (now : Instant) (invocation : Invocation)
    (typing : Typing) : Api.Result (CommandResult × Client) :=
  (Client.ofInvocation line volume now invocation).map fun client =>
    (Stage.start client invocation.order).takeTyping typing

end UtilityBilling.Console
