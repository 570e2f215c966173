/-
# The courses of a table

A table with its driver, its fetches and its alarm is a system whose parts move on
their own: the user acts, the driver takes a message, a fetch asks or is answered,
the alarm goes off, each at any time and in any order. A course is what such a list
of events leads to, together with the history of what could be seen on the way.

An event that cannot happen at its moment does nothing, so that every list of events
is a course. A fetch looks at its cancellation before it looks for its answer; since
the driver may cancel it between the two looks, a cancelled fetch may still ask or
bring its answer.
-/

import UtilityBilling.Proofs.History
import UtilityBilling.Proofs.Table.Response
import UtilityBilling.Table.Binder

namespace UtilityBilling.Table

variable {α : Type}

/-- What the user can do with a table. -/
inductive Action where
  | search (text : String)
  | limit (size : UInt32)
  | page (delta : Int)
  | sort (field : String)
  | refresh
  deriving DecidableEq, Repr

/-- The message by which an action reaches the driver. -/
def Action.message : Action → Message α
  | .search text => .searchTyped text
  | .limit size => .limitChanged size
  | .page delta => .pageMoved delta
  | .sort field => .sortClicked field
  | .refresh => .refresh

/-- What can happen to a table and around it. -/
inductive Event (α : Type) where
  | act (action : Action)
  /-- The user stops the table or lets go of it. -/
  | stop
  /-- The parameters that every load carries change. -/
  | vary (extras : List Parameter)
  | wait (milliseconds : Nat)
  /-- The driver takes its next step. -/
  | drive
  /-- A fetch asks the source. -/
  | ask (request : RequestId)
  /-- The source answers a fetch. -/
  | answer (request : RequestId) (result : Api.Result (Page α))
  /-- A cancelled fetch ends. -/
  | retire (request : RequestId)
  /-- The alarm goes off. -/
  | ring

/-- A load that was issued. -/
structure Load where
  request : RequestId
  query : Query
  deriving DecidableEq, Repr

def Effect.load? : Effect → Option Load
  | .load request query => some ⟨request, query⟩
  | _ => none

/-- The loads that effects issue, in their order. -/
def loadsOf (effects : List Effect) : List Load :=
  effects.filterMap Effect.load?

/-- One thing that was seen of a course. -/
inductive Entry (α : Type) where
  /-- The driver issued a load. -/
  | issued (load : Load)
  /-- A fetch asked the source. -/
  | asked (request : RequestId) (parameters : List Parameter)
  /-- The source answered a fetch, which posted a message about it. -/
  | answered (request : RequestId) (result : Api.Result (Page α))
  /-- A cancelled fetch ended and posted a message about it. -/
  | retired (request : RequestId)
  /-- The driver took a message about the answer to a load. -/
  | taken (request : RequestId) (outcome : Except LoadFailure (Page α))
  /-- A frame was painted. -/
  | painted (view : View α)

def Entry.load? : Entry α → Option Load
  | .issued load => some load
  | _ => none

def Entry.taken? : Entry α → Option RequestId
  | .taken request _ => some request
  | _ => none

def Entry.view? : Entry α → Option (View α)
  | .painted view => some view
  | _ => none

/-- The loads of a history, the latest first. -/
def loads (past : List (Entry α)) : List Load :=
  past.filterMap Entry.load?

/-- The loads whose answers were taken, the latest first. -/
def takenRequests (past : List (Entry α)) : List RequestId :=
  past.filterMap Entry.taken?

/-- The frames of a history, the latest first. -/
def views (past : List (Entry α)) : List (View α) :=
  past.filterMap Entry.view?

@[simp]
theorem takenRequests_issued (load : Load) (past : List (Entry α)) :
    takenRequests (.issued load :: past) = takenRequests past := rfl

@[simp]
theorem takenRequests_taken (request : RequestId) (outcome : Except LoadFailure (Page α))
    (past : List (Entry α)) :
    takenRequests (.taken request outcome :: past) = request :: takenRequests past := rfl

namespace Binder

/-- The message that the driver takes in its next step, if it takes one. -/
def next? (binder : Binder α) : Option (Message α) :=
  if binder.ended || binder.stopping then none else binder.queue.head?

/-- What is seen of the next step of the driver, the latest first: it takes an answer,
it issues loads, it paints. -/
def sights (binder : Binder α) : List (Entry α) :=
  binder.drive.2.toList.map .painted ++
    match binder.next? with
    | some message =>
      (loadsOf (binder.state.update message).2).reverse.map .issued ++
        message.answer?.toList.map fun answer => .taken answer.1 answer.2
    | none => []

end Binder

/-- A table at a moment of its course, with its history, the latest entry first. -/
structure Course (α : Type) where
  binder : Binder α
  past : List (Entry α) := []

namespace Course

/-- The course at its start. -/
def start (endpoint : String) (config : Config) (extras : List Parameter) : Course α :=
  { binder := .start endpoint config extras }

/-- The fetch of a load that fulfils a condition. -/
def fetch? (course : Course α) (request : RequestId) (condition : Fetch → Bool) : Option Fetch :=
  course.binder.fetches.find? fun fetch => fetch.request == request && condition fetch

/-- The course after one more event. -/
def step (course : Course α) : Event α → Course α
  | .act action => { course with binder := course.binder.send action.message }
  | .stop => { course with binder := course.binder.stop }
  | .vary extras => { course with binder := { course.binder with extras := extras } }
  | .wait milliseconds =>
    { course with
      binder := { course.binder with clock := course.binder.clock + milliseconds } }
  | .drive =>
    { binder := course.binder.drive.1, past := course.binder.sights ++ course.past }
  | .ask request =>
    match course.fetch? request fun fetch => !fetch.asked with
    | some fetch =>
      { binder := course.binder.ask request
        past := .asked request fetch.parameters :: course.past }
    | none => course
  | .answer request result =>
    match course.fetch? request Fetch.asked with
    | some _ =>
      { binder := course.binder.answer request result
        past := .answered request result :: course.past }
    | none => course
  | .retire request =>
    match course.fetch? request Fetch.cancelled with
    | some _ =>
      { binder := course.binder.retire request, past := .retired request :: course.past }
    | none => course
  | .ring => { course with binder := course.binder.ring }

/-- The course after some more events. -/
def run (course : Course α) (events : List (Event α)) : Course α :=
  events.foldl step course

end Course

end UtilityBilling.Table
