/-
# A poller in time

A run of a poller in time, against a status endpoint that has a state of its own. A
poll goes on as long as it need not wait; when a new poll takes over it runs first,
and then the one before ends. After that the clock moves to the next answer or the
end of the next rest.
-/

import UtilityBilling.Task.Poller

namespace UtilityBilling.Task

/-- The status in a text. -/
def statusOfText (text : String) : Api.Result Status :=
  match Json.decode readStatus (Text.bytesOf text) with
  | .ok status => .ok status
  | .error message => .error ⟨.decode, message⟩

/-- An answer of a status endpoint, with how long it takes, in milliseconds, and what
the endpoint logs when it comes. -/
structure Reply where
  delay : Nat := 0
  result : Api.Result Status
  log : List Log.Record := []

/-- A status endpoint: its answer to the question about a task, and its state
afterwards. -/
abbrev Source (σ : Type) := σ → String → Reply × σ

/-- An endpoint that answers by a script: the last answer is given again and again,
and a script without answers gives empty texts. -/
def scripted : Source (List Reply)
  | [], _ => ({ result := statusOfText "" }, [])
  | [only], _ => (only, [only])
  | first :: rest, _ => (first, rest)

/-- An answer that is on its way. -/
structure Arrival where
  number : Nat
  due : Nat
  reply : Reply

/-- What can be seen from outside. -/
inductive Sight where
  | checked (taskId : String)
  | pending (number : Nat) (status : Status)
  | ended (number : Nat) (result : PollResult)

/-- A run of a poller. -/
structure Timeline (σ : Type) where
  poller : Poller
  source : Source σ
  /-- The state of the endpoint. -/
  world : σ
  arrivals : List Arrival := []
  /-- What was seen and when, the latest last. -/
  seen : List (Nat × Sight) := []

namespace Timeline

variable {σ : Type}

/-- The run with something more seen now. -/
def see (run : Timeline σ) (sight : Sight) : Timeline σ :=
  { run with seen := run.seen ++ [(run.poller.clock, sight)] }

/-- Takes the answer for a poll. -/
def take (run : Timeline σ) (poll : Poll) (reply : Reply) : Timeline σ :=
  let logged := { run.poller with log := run.poller.log ++ reply.log }
  let after := { run with poller := logged.answer poll reply.result }
  match reported? poll run.poller.allowed reply.result with
  | some status => after.see (.pending poll.number status)
  | none => after

/-- One step of a poll, if it need not wait. -/
def stepPoll (run : Timeline σ) (poll : Poll) : Option (Timeline σ) :=
  match poll.stage with
  | .numbered => some { run with poller := run.poller.register poll }
  | .ready =>
    let checked := { run with poller := run.poller.check poll }
    if poll.cancelled then some checked
    else
      let (reply, world) := run.source run.world poll.taskId
      let asked := { checked.see (.checked poll.taskId) with world := world }
      match asked.poller.poll? poll.number with
      | none => some asked
      | some asking =>
        if reply.delay = 0 then some (asked.take asking reply)
        else
          some { asked with
            arrivals :=
              asked.arrivals ++ [⟨poll.number, asked.poller.clock + reply.delay, reply⟩] }
  | .checking =>
    if poll.cancelled then
      some { run with
        poller := run.poller.resolve poll.number (.error .superseded)
        arrivals := run.arrivals.filter fun arrival => arrival.number != poll.number }
    else none
  | .resting due =>
    if poll.cancelled || due ≤ run.poller.clock then
      some { run with poller := run.poller.wake poll }
    else none
  | .ended result =>
    some ({ run with poller := run.poller.release poll result }.see (.ended poll.number result))

/-- Lets a poll go on until it waits or is gone. -/
def runPoll : Nat → Nat → Timeline σ → Timeline σ
  | 0, _, run => run
  | fuel + 1, number, run =>
    match (run.poller.poll? number).bind run.stepPoll with
    | some after => runPoll fuel number after
    | none => run

/-- How many steps a poll can make: three for each check, and its first and last. -/
def stepsOf (run : Timeline σ) : Nat :=
  3 * run.poller.allowed.toNat + 4

/-- Lets all polls go on, the newest first. -/
def settle (run : Timeline σ) : Timeline σ :=
  (run.poller.polls.map Poll.number).reverse.foldl
    (fun run number => runPoll run.stepsOf number run) run

/-- When a poll stops resting. -/
def restEnd? (poll : Poll) : Option Nat :=
  match poll.stage with
  | .resting due => some due
  | _ => none

/-- When the next answer or the end of a rest is due. -/
def nextDue (run : Timeline σ) : Option Nat :=
  (run.arrivals.map Arrival.due ++ run.poller.polls.filterMap restEnd?).min?

/-- Lets the answers that are due come. -/
def deliver (run : Timeline σ) : Timeline σ :=
  let (due, later) := run.arrivals.partition fun arrival => arrival.due ≤ run.poller.clock
  due.foldl
    (fun run arrival =>
      match run.poller.poll? arrival.number with
      | some poll => run.take poll arrival.reply
      | none => run)
    { run with arrivals := later }

/-- The run with its clock set. -/
def withClock (run : Timeline σ) (time : Nat) : Timeline σ :=
  { run with poller := { run.poller with clock := time } }

/-- Moves the clock from one due time to the next, up to an end. -/
def advanceFor : Nat → Nat → Timeline σ → Timeline σ
  | 0, finish, run => run.withClock finish
  | fuel + 1, finish, run =>
    match run.nextDue with
    | none => run.withClock finish
    | some due =>
      if due ≤ finish then advanceFor fuel finish (run.withClock due).deliver.settle
      else run.withClock finish

/-- Lets time pass. Each poll has an answer and a rest for every check. -/
def advance (run : Timeline σ) (milliseconds : Nat) : Timeline σ :=
  advanceFor (2 * run.stepsOf * (run.poller.polls.length + 1))
    (run.poller.clock + milliseconds) run

/-- Starts a poll. -/
def poll (run : Timeline σ) (taskId : String) (reports : Bool) : Timeline σ :=
  settle { run with poller := run.poller.enter taskId reports }

/-- Cancels the poll under way. -/
def cancel (run : Timeline σ) : Timeline σ :=
  settle { run with poller := run.poller.cancel }

/-- Drops a poll. -/
def abandon (run : Timeline σ) (number : Nat) : Timeline σ :=
  { run with
    poller := run.poller.abandon number
    arrivals := run.arrivals.filter fun arrival => arrival.number != number }

end Timeline

end UtilityBilling.Task
