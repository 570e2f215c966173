/-
# The poller of tasks

A poll asks for the status of a task until the task is done or has failed, a status
request fails, or the checks are used up; between two checks it waits. A poller
follows one task at a time: a new poll takes over from the one before, which then
ends as superseded without asking again. The poller knows the poll that it would
cancel. It gives every poll a word of 64 bits, and by this word it tells, when a poll
ends, whether that is the one it knows. The words come round again after 2^64 polls.
-/

import UtilityBilling.Api.Error
import UtilityBilling.Log.Record

namespace UtilityBilling.Task

/-- The error text of a task that failed without one. -/
def genericFailure : String := "the task failed without an error message"

/-- What a poll comes to. -/
abbrev PollResult := Except PollError Outcome

/-- What a poll does after an answer. -/
inductive Verdict where
  | resolved (result : PollResult)
  /-- The answer is pending and is reported; there are checks left. -/
  | goOn (status : Status)
  /-- The answer is pending and is reported; it was the last check. -/
  | giveUp (status : Status)

/-- What becomes of a poll by the answer to a given check. -/
def judge (taskId : String) (attempts allowed : UInt32) :
    Api.Result Status → Verdict
  | .error error => .resolved (.error (.api error))
  | .ok status =>
    match status.stage with
    | .done => .resolved (.ok ⟨taskId, status.result, status.downloadUrl⟩)
    | .failed => .resolved (.error (.failed (status.error.getD genericFailure)))
    | .pending => if allowed ≤ attempts then .giveUp status else .goOn status

/-- The warning about an answer with an unknown word. -/
def answerWarning? : Api.Result Status → Option Log.Record
  | .ok status => (unknownWordWarning? status.word).map Log.warning
  | .error _ => none

/-- The warning about a poll that ended without an outcome. A poll that was
superseded is not worth one. -/
def endWarning? (taskId : String) : PollResult → Option Log.Record
  | .ok _ => none
  | .error .superseded => none
  | .error error =>
    some (Log.warning ("Task " ++ taskId ++ " did not complete: " ++ error.message))

/-- Where a poll stands. -/
inductive PollStage where
  /-- It has its number and is not yet the poll that the poller knows. -/
  | numbered
  /-- It is about to ask. -/
  | ready
  /-- It waits for an answer. -/
  | checking
  /-- It waits for its next check, until a time in milliseconds. -/
  | resting (due : Nat)
  | ended (result : PollResult)

/-- A poll. -/
structure Poll where
  /-- Which poll of its poller this is, counted from one. The number only tells polls and
  their tokens apart here; the poller has nothing but the word. -/
  number : Nat
  /-- The word that the poller gave to the poll. -/
  generation : UInt64
  taskId : String
  /-- Whether pending answers are reported. -/
  reports : Bool := true
  cancelled : Bool := false
  attempts : UInt32 := 0
  stage : PollStage := .numbered

/-- What a poller keeps of the poll that it would cancel: the word of the poll, and which
poll it is, that is, whose token it holds. -/
@[ext]
structure Registration where
  generation : UInt64
  number : Nat
deriving DecidableEq

/-- What the poller keeps of a poll. -/
def Poll.registration (poll : Poll) : Registration := ⟨poll.generation, poll.number⟩

/-- A poller with its polls. -/
structure Poller where
  /-- The time between two checks, in milliseconds. -/
  interval : Nat := 2000
  maxAttempts : UInt32 := 150
  /-- The present time, in milliseconds. -/
  clock : Nat := 0
  /-- How many polls were started. -/
  last : Nat := 0
  /-- The word of the last poll. -/
  generation : UInt64 := 0
  /-- The poll that can be cancelled. -/
  current : Option Registration := none
  polls : List Poll := []
  log : List Log.Record := []

namespace Poller

/-- How many checks a poll makes at most; at least one. -/
def allowed (poller : Poller) : UInt32 :=
  max poller.maxAttempts 1

/-- The poll with a number. -/
def poll? (poller : Poller) (number : Nat) : Option Poll :=
  poller.polls.find? fun poll => poll.number == number

/-- The poller with the poll of a number changed. -/
def modify (poller : Poller) (number : Nat) (change : Poll → Poll) : Poller :=
  { poller with
    polls := poller.polls.map fun poll => if poll.number = number then change poll else poll }

/-- Gives a new poll its word. -/
def enter (poller : Poller) (taskId : String) (reports : Bool) : Poller :=
  let number := poller.last + 1
  let generation := poller.generation + 1
  { poller with
    last := number
    generation := generation
    polls := poller.polls ++ [⟨number, generation, taskId, reports, false, 0, .numbered⟩] }

/-- Cancels the poll that the poller knows, which it then forgets. -/
def cancel (poller : Poller) : Poller :=
  match poller.current with
  | some held =>
    { poller.modify held.number (fun poll => { poll with cancelled := true }) with
      current := none }
  | none => poller

/-- Makes a poll the one that the poller knows; the one before is cancelled. -/
def register (poller : Poller) (poll : Poll) : Poller :=
  { poller.cancel.modify poll.number (fun poll => { poll with stage := .ready }) with
    current := some poll.registration }

/-- Ends a poll. -/
def resolve (poller : Poller) (number : Nat) (result : PollResult) : Poller :=
  poller.modify number fun poll => { poll with stage := .ended result }

/-- Asks for the status, unless the poll is cancelled. -/
def check (poller : Poller) (poll : Poll) : Poller :=
  if poll.cancelled then poller.resolve poll.number (.error .superseded)
  else
    poller.modify poll.number fun poll =>
      { poll with stage := .checking, attempts := poll.attempts + 1 }

/-- Takes the answer to a check, unless the poll is cancelled. -/
def answer (poller : Poller) (poll : Poll) (result : Api.Result Status) : Poller :=
  if poll.cancelled then poller.resolve poll.number (.error .superseded)
  else
    let warned := { poller with log := poller.log ++ (answerWarning? result).toList }
    match judge poll.taskId poll.attempts poller.allowed result with
    | .resolved ending => warned.resolve poll.number ending
    | .giveUp _ => warned.resolve poll.number (.error (.timedOut poll.attempts))
    | .goOn _ =>
      warned.modify poll.number fun poll =>
        { poll with stage := .resting (poller.clock + poller.interval) }

/-- Ends the rest between two checks. -/
def wake (poller : Poller) (poll : Poll) : Poller :=
  if poll.cancelled then poller.resolve poll.number (.error .superseded)
  else poller.modify poll.number fun poll => { poll with stage := .ready }

/-- Forgets a poll that has ended, unless the poller holds another word than its, and logs
its end. -/
def release (poller : Poller) (poll : Poll) (result : PollResult) : Poller :=
  { poller with
    current := poller.current.filter fun held => held.generation != poll.generation
    polls := poller.polls.filter fun other => other.number != poll.number
    log := poller.log ++ (endWarning? poll.taskId result).toList }

/-- Drops a poll that nobody waits for any more. -/
def abandon (poller : Poller) (number : Nat) : Poller :=
  { poller with polls := poller.polls.filter fun poll => poll.number != number }

end Poller

/-- The pending answer that a poll reports, if the answer is one. -/
def reported? (poll : Poll) (allowed : UInt32) (result : Api.Result Status) :
    Option Status :=
  if poll.reports && !poll.cancelled then
    match judge poll.taskId poll.attempts allowed result with
    | .goOn status | .giveUp status => some status
    | .resolved _ => none
  else none

end UtilityBilling.Task
