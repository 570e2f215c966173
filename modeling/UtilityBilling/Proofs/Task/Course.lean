/-
# The courses of a poller

Any number of polls can be under way on one poller. Each of them takes its number, registers,
asks, rests and is forgotten in single steps, and between two of them anything else can
happen: another poll takes a step, an answer comes, somebody cancels or lets go of a poll,
time passes. A course is what such a list of events leads to, together with the history of
what could be seen on the way.

An event that cannot happen at its moment does nothing, so that every list of events is a
course. A poll that waits looks at its cancellation first. An answer that it has taken while
it was not cancelled it holds until its next step, and a cancellation between the two comes
too late for that answer.
-/

import UtilityBilling.Task.Poller

namespace UtilityBilling.Task

/-- What can happen to a poller and around it. -/
inductive Event where
  /-- Someone starts a poll, which takes its number. -/
  | enter (taskId : String) (reports : Bool)
  /-- A poll takes its next step, if it need not wait. -/
  | turn (number : Nat)
  /-- The status endpoint answers a poll. -/
  | answer (number : Nat) (result : Api.Result Status)
  | cancel
  /-- The one who started a poll lets go of it. -/
  | abandon (number : Nat)
  | wait (milliseconds : Nat)

/-- Whether an event starts a poll. -/
def Event.isEnter : Event → Bool
  | .enter _ _ => true
  | _ => false

/-- One thing that was seen of a course. -/
inductive Entry where
  /-- A poll became the one that the poller knows. -/
  | registered (number : Nat)
  /-- A poll asked for the status. -/
  | asked (number : Nat)
  /-- A poll reported a pending answer. -/
  | reported (number : Nat) (status : Status)
  | resolved (number : Nat) (result : PollResult)
  /-- A poll that had ended was forgotten. -/
  | released (number : Nat)

/-- The poll that an entry is about. -/
def Entry.number : Entry → Nat
  | .registered number | .asked number | .reported number _ | .resolved number _
  | .released number => number

namespace PollStage

/-- How a poll has ended. -/
def result? : PollStage → Option PollResult
  | .ended result => some result
  | _ => none

/-- Whether a poll has been registered. -/
def isRegistered : PollStage → Bool
  | .numbered => false
  | _ => true

/-- Whether a poll has been registered and has not ended. -/
def isUnderWay : PollStage → Bool
  | .numbered | .ended _ => false
  | _ => true

theorem isRegistered_of_isUnderWay {stage : PollStage} (underWay : stage.isUnderWay = true) :
    stage.isRegistered = true := by
  cases stage <;> first | rfl | cases underWay

end PollStage

/-- Whether a poll is registered and not cancelled. -/
def Poll.isLive (poll : Poll) : Bool :=
  poll.stage.isRegistered && !poll.cancelled

namespace Poller

/-- How the poll of a number has ended, if it has. -/
def ending? (poller : Poller) (number : Nat) : Option PollResult :=
  (poller.poll? number).bind fun poll => poll.stage.result?

/-- The polls that are registered and not cancelled. -/
def live (poller : Poller) : List Poll :=
  poller.polls.filter Poll.isLive

end Poller

/-- An answer that a poll has taken, with the poll as it was then. -/
structure Held where
  poll : Poll
  result : Api.Result Status

/-- A poller at a moment of its course, with the answers that its polls have taken and not
yet looked at, and its history, the latest entry first. -/
structure Course where
  poller : Poller
  held : List Held := []
  past : List Entry := []

namespace Course

/-- The course at its start. -/
def start (interval : Nat) (maxAttempts : UInt32) : Course where
  poller := { interval := interval, maxAttempts := maxAttempts }

/-- The answer that a poll holds. -/
def held? (course : Course) (number : Nat) : Option Held :=
  course.held.find? fun held => held.poll.number == number

/-- The answers that other polls hold. -/
def heldByOthers (course : Course) (number : Nat) : List Held :=
  course.held.filter fun held => held.poll.number != number

/-- The course after a step of a poll that was under way, which may have ended by it. -/
def proceed (course : Course) (number : Nat) (poller : Poller) (seen : List Entry) : Course :=
  { course with
    poller := poller
    past := (poller.ending? number).toList.map (.resolved number) ++ (seen ++ course.past) }

/-- The course after a poll has looked at the answer that it holds. -/
def weigh (course : Course) (held : Held) : Course :=
  let number := held.poll.number
  let reported := reported? held.poll course.poller.allowed held.result
  { course.proceed number (course.poller.answer held.poll held.result)
      (reported.toList.map (.reported number)) with
    held := course.heldByOthers number }

/-- The course after the next step of a poll. -/
def turn (course : Course) (poll : Poll) : Course :=
  match course.held? poll.number with
  | some held => course.weigh held
  | none =>
    match poll.stage with
    | .numbered =>
      { course with
        poller := course.poller.register poll
        past := .registered poll.number :: course.past }
    | .ready =>
      course.proceed poll.number (course.poller.check poll)
        (if poll.cancelled then [] else [.asked poll.number])
    | .checking =>
      if poll.cancelled then
        course.proceed poll.number
          (course.poller.resolve poll.number (.error .superseded)) []
      else course
    | .resting due =>
      if poll.cancelled || due ≤ course.poller.clock then
        course.proceed poll.number (course.poller.wake poll) []
      else course
    | .ended result =>
      { course with
        poller := course.poller.release poll result
        past := .released poll.number :: course.past }

/-- The course after an answer to a poll, which counts when the poll waits for one. -/
def take (course : Course) (poll : Poll) (result : Api.Result Status) : Course :=
  match poll.stage, course.held? poll.number with
  | .checking, none =>
    if poll.cancelled then
      course.proceed poll.number
        (course.poller.resolve poll.number (.error .superseded)) []
    else { course with held := course.held ++ [⟨poll, result⟩] }
  | _, _ => course

/-- The course after one more event. -/
def step (course : Course) : Event → Course
  | .enter taskId reports => { course with poller := course.poller.enter taskId reports }
  | .turn number =>
    match course.poller.poll? number with
    | some poll => course.turn poll
    | none => course
  | .answer number result =>
    match course.poller.poll? number with
    | some poll => course.take poll result
    | none => course
  | .cancel => { course with poller := course.poller.cancel }
  | .abandon number =>
    { course with
      poller := course.poller.abandon number
      held := course.heldByOthers number }
  | .wait milliseconds =>
    { course with poller := { course.poller with clock := course.poller.clock + milliseconds } }

/-- The course after some more events. -/
def run (course : Course) (events : List Event) : Course :=
  events.foldl step course

end Course

end UtilityBilling.Task
