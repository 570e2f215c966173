/-
# The binder of a table

What runs a table. The driver takes messages from a queue, one at a time, applies
them to the state and carries out the effects; each changed body is painted as one
frame. A load runs as a fetch of its own, which asks the source, waits for its
answer and posts it as a message; a cancelled fetch posts a cancellation instead and
its answer is lost. A delayed search is an alarm. What happens outside the driver,
that a fetch goes on or the alarm goes off, may happen in any order.
-/

import UtilityBilling.Api.Error
import UtilityBilling.Log.Record
import UtilityBilling.Table.View

namespace UtilityBilling.Table

/-- A load that is being carried out. -/
structure Fetch where
  request : RequestId
  parameters : List Parameter
  cancelled : Bool := false
  /-- Whether the source has been asked. -/
  asked : Bool := false
  deriving DecidableEq, Repr

/-- A delayed search. -/
structure Alarm where
  ticket : Ticket
  /-- When it goes off, in milliseconds. -/
  due : Nat
  /-- The number of loads issued before it was set. -/
  loadsBefore : UInt64
  deriving DecidableEq, Repr

/-- A table with its driver. -/
structure Binder (α : Type) where
  endpoint : String
  state : State α
  /-- Parameters that every load carries besides those of its query. -/
  extras : List Parameter := []
  /-- The present time, in milliseconds. -/
  clock : Nat := 0
  /-- The load that the driver can cancel. -/
  inFlight : Option RequestId := none
  queue : List (Message α) := []
  fetches : List Fetch := []
  alarm : Option Alarm := none
  /-- Whether the driver has been told to stop. -/
  stopping : Bool := false
  /-- Whether the driver has stopped. -/
  ended : Bool := false
  log : List Log.Record := []
  deriving Repr

namespace Binder

variable {α : Type}

/-- A binder at its start, with the message that shows the table. -/
def start (endpoint : String) (config : Config) (extras : List Parameter) : Binder α :=
  { endpoint := endpoint, state := .ofConfig config, extras := extras, queue := [.attach] }

/-- Sends a message to the driver. A driver that has stopped takes none. -/
def send (binder : Binder α) (message : Message α) : Binder α :=
  if binder.ended then
    { binder with
      log := binder.log ++ [Log.warning "Table binder driver is gone; dropping message"] }
  else { binder with queue := binder.queue ++ [message] }

/-- Tells the driver to stop. -/
def stop (binder : Binder α) : Binder α :=
  { binder with stopping := true }

/-- The fetches with that of a load cancelled. -/
def cancelFetch (request : RequestId) (fetches : List Fetch) : List Fetch :=
  fetches.map fun fetch =>
    if fetch.request = request then { fetch with cancelled := true } else fetch

/-- Carries out an effect. -/
def execute (binder : Binder α) : Effect → Binder α
  | .load request query =>
    { binder with
      inFlight := some request
      fetches := binder.fetches ++ [⟨request, query.parameters ++ binder.extras, false, false⟩] }
  | .cancel request =>
    if binder.inFlight = some request then
      { binder with inFlight := none, fetches := cancelFetch request binder.fetches }
    else binder
  | .delay ticket milliseconds =>
    { binder with
      alarm := some ⟨ticket, binder.clock + milliseconds, binder.state.issued⟩ }

/-- Applies a message, and says what is painted. -/
def process (binder : Binder α) (message : Message α) : Binder α × Option (View α) :=
  let (state, effects) := binder.state.update message
  let after := effects.foldl execute { binder with state := state }
  if state.dirty then
    ({ after with state := state.settled }, some state.settled.view)
  else (after, none)

/-- Stops the driver: its load is cancelled, its alarm is off, its queue is gone. -/
def finish (binder : Binder α) : Binder α :=
  { binder with
    ended := true
    queue := []
    inFlight := none
    fetches := match binder.inFlight with
      | some request => cancelFetch request binder.fetches
      | none => binder.fetches
    alarm := none }

/-- One step of the driver: it stops if it was told to, or takes the next message. -/
def drive (binder : Binder α) : Binder α × Option (View α) :=
  if binder.ended then (binder, none)
  else if binder.stopping then (binder.finish, none)
  else
    match binder.queue with
    | [] => (binder, none)
    | message :: rest => { binder with queue := rest }.process message

/-- Posts a message from a fetch or an alarm. A driver that has stopped loses it. -/
def post (binder : Binder α) (message : Message α) : Binder α :=
  if binder.ended then binder else { binder with queue := binder.queue ++ [message] }

/-- The binder without the fetch of a load. -/
def withoutFetch (binder : Binder α) (request : RequestId) : Binder α :=
  { binder with fetches := binder.fetches.filter fun fetch => fetch.request != request }

/-- A fetch asks the source. -/
def ask (binder : Binder α) (request : RequestId) : Binder α :=
  { binder with
    fetches := binder.fetches.map fun fetch =>
      if fetch.request = request then { fetch with asked := true } else fetch }

/-- What a load comes to by an answer of the source. A refused session counts as a
cancellation, since the gateway has already dealt with it. -/
def failureOf (error : Api.Error) : LoadFailure :=
  if error.isCancelled || error.isUnauthorized then .cancelled else .error error.message

/-- The message about the answer of the source. -/
def answerMessage (request : RequestId) : Api.Result (Page α) → Message α
  | .ok page => .loaded request page
  | .error error => .loadFailed request (failureOf error)

/-- The warning about an answer of the source. -/
def answerWarning? (endpoint : String) : Api.Result (Page α) → Option Log.Record
  | .ok _ => none
  | .error error =>
    match failureOf error with
    | .cancelled => none
    | .error message => some (Log.warning ("Loading " ++ endpoint ++ " failed: " ++ message))

/-- The answer to a fetch comes. -/
def answer (binder : Binder α) (request : RequestId) (result : Api.Result (Page α)) :
    Binder α :=
  let after := (binder.withoutFetch request).post (answerMessage request result)
  { after with log := after.log ++ (answerWarning? binder.endpoint result).toList }

/-- A cancelled fetch ends. -/
def retire (binder : Binder α) (request : RequestId) : Binder α :=
  (binder.withoutFetch request).post (.loadFailed request .cancelled)

/-- The alarm goes off. -/
def ring (binder : Binder α) : Binder α :=
  match binder.alarm with
  | some alarm => { binder with alarm := none }.post (.delayElapsed alarm.ticket)
  | none => binder

/-- Whether the alarm is due. -/
def alarmIsDue (binder : Binder α) : Bool :=
  binder.alarm.any fun alarm => alarm.due ≤ binder.clock

end Binder

end UtilityBilling.Table
