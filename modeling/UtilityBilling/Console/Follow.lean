/-
# Following a task

A client follows a task with a poller of its own: each pending answer is reported on
one line that is written over and over. What the finished task hands back is shown,
and its file is saved if there is a directory for it. A job is started first and
followed then.
-/

import UtilityBilling.Console.Client
import UtilityBilling.Console.Invocation
import UtilityBilling.Task.Job
import UtilityBilling.Task.Timeline

namespace UtilityBilling.Console

open UtilityBilling.Json (Value)

/-- The status endpoint of a backend. What the gateway logs goes with its answer. -/
def statusSource (settings : Api.Settings) (line : Api.Line) : Task.Source Api.State :=
  fun state taskId =>
    let (result, after) := Api.taskStatus settings line { state with log := [] } taskId
    ({ result := result, log := after.log }, { after with log := [] })

/-- The poller of a client, with at least one second between two checks. -/
def PollOptions.poller (options : PollOptions) : Task.Poller :=
  { interval := 1000 * max options.intervalSeconds.toNat 1
    maxAttempts := max options.maxAttempts 1 }

/-- The time in which a poll makes all its checks, in milliseconds. -/
def PollOptions.patience (options : PollOptions) : Nat :=
  options.poller.interval * options.poller.allowed.toNat

/-- The progress report that something seen in a poll gives rise to. -/
def reportOf : Task.Sight → String
  | .pending _ status => status.report
  | _ => ""

/-- What a poll came to, by what was seen of it. -/
def endingIn (seen : List (Nat × Task.Sight)) : Task.PollResult :=
  (seen.findSome? fun (_, sight) =>
    match sight with
    | .ended _ result => some result
    | _ => none).getD (.error .superseded)

namespace Client

/-- The run of a poll to its end. -/
def pollRun (client : Client) (taskId : String) (options : PollOptions) :
    Task.Timeline Api.State :=
  let fresh : Task.Timeline Api.State :=
    { poller := options.poller
      source := statusSource client.settings client.line
      world := { client.state with log := [] } }
  (fresh.poll taskId true).advance options.patience

/-- Follows a task to its end, with a report of each pending answer. A session that
ends takes the poll with it, so its notice comes after all reports. -/
def follow (client : Client) (taskId : String) (options : PollOptions) :
    Task.PollResult × Client :=
  let run := client.pollRun taskId options
  let reported := client.notify (String.join (run.seen.map fun (_, sight) => reportOf sight))
  let after := reported.adopt { run.world with log := client.state.log ++ run.poller.log }
  (endingIn run.seen, after.notify "\n")

/-- Saves the file behind a link in a directory. -/
def save (client : Client) (link directory name : String) : CommandResult × Client :=
  match Files.ensureDirectory client.state.volume directory with
  | (.error error, volume) =>
    (.error (.output error), { client with state := { client.state with volume := volume } })
  | (.ok (), volume) =>
    let made := { client.state with volume := volume }
    match Api.download client.settings client.line made link directory name with
    | (.ok path, after) => (.ok (), (client.adopt after).say ("Saved " ++ path))
    | (.error error, after) => (.error (.download error), client.adopt after)

/-- Shows the result of a task, if it has one. -/
def showResult (client : Client) : Option Value → Client
  | some result => client.say result.indented
  | none => client

/-- Shows what a finished task hands back and saves its file. -/
def finish (client : Client) (outcome : Task.Outcome) (options : PollOptions) :
    CommandResult × Client :=
  let shown :=
    (client.say ("Task " ++ outcome.taskId ++ " finished.")).showResult outcome.result
  match outcome.downloadUrl, options.downloadDirectory with
  | none, _ => (.ok (), shown)
  | some link, none => (.ok (), shown.say ("Result file: " ++ link))
  | some link, some directory =>
    shown.save link directory (Task.downloadName link outcome.taskId)

/-- Follows a task and shows what it hands back. -/
def task (client : Client) (taskId : String) (options : PollOptions) :
    CommandResult × Client :=
  match client.follow taskId options with
  | (.ok outcome, after) => after.finish outcome options
  | (.error error, after) => (.error (.task taskId error), after)

/-- Starts a job and follows its task. -/
def run (client : Client) (endpoint : String) (parameters : List (String × String))
    (options : PollOptions) : CommandResult × Client :=
  let body := (Task.jobBody parameters).compact
  match Api.postJson client.settings client.line client.state Json.readValue endpoint body with
  | (.error error, after) => (.error (.notStarted endpoint error), client.adopt after)
  | (.ok answer, after) =>
    match Task.taskIdOf answer with
    | none => (.error (.noTaskId endpoint answer), client.adopt after)
    | some taskId =>
      ((client.adopt after).say ("Started task " ++ taskId)).task taskId options

end Client

end UtilityBilling.Console
