/-
# A table in time

A run of a binder in time, against a source that has a state of its own. Everything
that is ready is done before time goes on: the driver empties its queue, then
cancelled fetches end, new fetches ask the source, and the alarm goes off if it is
due, in the order in which they were started. Then the clock moves to the next
answer or alarm.
-/

import UtilityBilling.Table.Binder

namespace UtilityBilling.Table

/-- An answer of a source, with how long it takes, in milliseconds, and what the
source logs when it comes. -/
structure Reply (α : Type) where
  delay : Nat := 0
  result : Api.Result (Page α)
  log : List Log.Record := []

/-- A source of pages: its answer to the parameters of a load, and its state
afterwards. -/
abbrev Source (σ α : Type) := σ → List Parameter → Reply α × σ

/-- A source that answers by a script: the last answer is given again and again, and
a script without answers gives empty pages. -/
def scripted {α : Type} : Source (List (Reply α)) α
  | [], _ => ({ result := .ok ⟨[], 0⟩ }, [])
  | [only], _ => (only, [only])
  | first :: rest, _ => (first, rest)

/-- An answer that is on its way. -/
structure Arrival (α : Type) where
  request : RequestId
  due : Nat
  reply : Reply α

/-- What can be seen from outside. -/
inductive Sight (α : Type) where
  /-- The source is asked. -/
  | asked (parameters : List Parameter)
  | painted (view : View α)

/-- A run of a binder. -/
structure Timeline (σ α : Type) where
  binder : Binder α
  source : Source σ α
  /-- The state of the source. -/
  world : σ
  arrivals : List (Arrival α) := []
  /-- What was seen and when, the latest last. -/
  seen : List (Nat × Sight α) := []
  /-- Whether the user has let go of the binder. -/
  released : Bool := false

namespace Timeline

variable {σ α : Type}

/-- The run with something more seen now. -/
def see (run : Timeline σ α) (sight : Sight α) : Timeline σ α :=
  { run with seen := run.seen ++ [(run.binder.clock, sight)] }

/-- Lets the driver take steps. -/
def driveFor : Nat → Timeline σ α → Timeline σ α
  | 0, run => run
  | steps + 1, run =>
    let (binder, painted) := run.binder.drive
    let after := { run with binder := binder }
    driveFor steps (match painted with
      | some view => after.see (.painted view)
      | none => after)

/-- Lets the driver empty its queue. -/
def drain (run : Timeline σ α) : Timeline σ α :=
  driveFor (run.binder.queue.length + 1) run

/-- Takes the answer to a load. -/
def take (run : Timeline σ α) (request : RequestId) (reply : Reply α) : Timeline σ α :=
  let logged := { run.binder with log := run.binder.log ++ reply.log }
  { run with binder := logged.answer request reply.result }

/-- Lets a fetch go on: it ends if it is cancelled and asks the source if it is new. -/
def wakeFetch (run : Timeline σ α) (fetch : Fetch) : Timeline σ α :=
  if fetch.cancelled then
    { run with
      binder := run.binder.retire fetch.request
      arrivals := run.arrivals.filter fun arrival => arrival.request != fetch.request }
  else if fetch.asked then run
  else
    let (reply, world) := run.source run.world fetch.parameters
    let asked :=
      { run.see (.asked fetch.parameters) with
        world := world, binder := run.binder.ask fetch.request }
    if reply.delay = 0 then asked.take fetch.request reply
    else
      { asked with
        arrivals := asked.arrivals ++ [⟨fetch.request, run.binder.clock + reply.delay, reply⟩] }

/-- Lets fetches go on and the alarm go off, in the order of their start. -/
def wake (run : Timeline σ α) : Timeline σ α :=
  if run.binder.alarmIsDue then
    let loads := (run.binder.alarm.map Alarm.loadsBefore).getD 0
    let (before, after) := run.binder.fetches.partition fun fetch => fetch.request.value ≤ loads
    let woken := before.foldl wakeFetch run
    after.foldl wakeFetch { woken with binder := woken.binder.ring }
  else run.binder.fetches.foldl wakeFetch run

/-- How often the driver and the others take turns before nothing is left to do: a
message of the user can set an alarm, the alarm can start a load, and the load can
bring an answer. -/
def turns : Nat := 4

/-- Does everything that is ready. -/
def settleFor : Nat → Timeline σ α → Timeline σ α
  | 0, run => run.drain
  | turns + 1, run => settleFor turns run.drain.wake

/-- Does everything that is ready. -/
def settle (run : Timeline σ α) : Timeline σ α :=
  settleFor turns run

/-- The earlier of two times. -/
def earlier : Option Nat → Option Nat → Option Nat
  | some a, some b => some (min a b)
  | some a, none => some a
  | none, other => other

/-- When the next answer or alarm is due. -/
def nextDue (run : Timeline σ α) : Option Nat :=
  run.arrivals.foldl (fun found arrival => earlier found (some arrival.due))
    (run.binder.alarm.map Alarm.due)

/-- Lets the answers that are due come. -/
def deliver (run : Timeline σ α) : Timeline σ α :=
  let (due, later) := run.arrivals.partition fun arrival => arrival.due ≤ run.binder.clock
  due.foldl (fun run arrival => run.take arrival.request arrival.reply)
    { run with arrivals := later }

/-- The run with its clock set. -/
def withClock (run : Timeline σ α) (time : Nat) : Timeline σ α :=
  { run with binder := { run.binder with clock := time } }

/-- Moves the clock from one due time to the next, up to an end. -/
def advanceFor : Nat → Nat → Timeline σ α → Timeline σ α
  | 0, finish, run => run.withClock finish
  | fuel + 1, finish, run =>
    match run.nextDue with
    | none => run.withClock finish
    | some due =>
      if due ≤ finish then advanceFor fuel finish (run.withClock due).deliver.settle
      else run.withClock finish

/-- Lets time pass. Each answer on its way comes once; the alarm goes off once and
starts one more load. -/
def advance (run : Timeline σ α) (milliseconds : Nat) : Timeline σ α :=
  let settled := run.settle
  advanceFor (settled.arrivals.length + 2) (settled.binder.clock + milliseconds) settled

/-- Starts a binder. -/
def start (binder : Binder α) (source : Source σ α) (world : σ) : Timeline σ α :=
  settle { binder := binder, source := source, world := world }

/-- Sends a message, unless the user has let go. -/
def send (run : Timeline σ α) (message : Message α) : Timeline σ α :=
  if run.released then run else { run with binder := run.binder.send message }

/-- Stops the binder, unless the user has let go. -/
def stop (run : Timeline σ α) : Timeline σ α :=
  if run.released then run else { run with binder := run.binder.stop }

/-- Lets go of the binder, which stops it. -/
def release (run : Timeline σ α) : Timeline σ α :=
  { run with binder := run.binder.stop, released := true }

/-- Changes the parameters that every load carries. -/
def withExtras (run : Timeline σ α) (extras : List Parameter) : Timeline σ α :=
  { run with binder := { run.binder with extras := extras } }

end Timeline

end UtilityBilling.Table
