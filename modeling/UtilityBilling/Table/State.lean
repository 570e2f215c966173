/-
# Table state and its transitions

A table is a pure state machine. Messages are what the user does and what the
list endpoint answers; effects are what the surroundings have to do: load a page,
cancel a load, or come back with a ticket after a delay. At most one load is in
flight. Every load has an identifier of its own, a new load cancels the one before
it, and only the answer to the load in flight is taken. Typed search text waits for
its delay; the ticket of the last text typed settles it, and settles it once.
-/

import UtilityBilling.Table.Query

namespace UtilityBilling.Table

/-- The identifier of a load. -/
structure RequestId where
  value : UInt64
  deriving DecidableEq, Repr, Inhabited

/-- The ticket of a delayed search. -/
structure Ticket where
  value : UInt64
  deriving DecidableEq, Repr, Inhabited

/-- What the body of a table shows. -/
inductive Body (α : Type) where
  /-- Nothing has been loaded yet. -/
  | pending
  | rows (items : List α)
  /-- The endpoint answered without items. -/
  | noData
  | failed (message : String)
  deriving DecidableEq, Repr

instance {α : Type} : Inhabited (Body α) := ⟨.pending⟩

/-- The body that shows some items. -/
def Body.ofItems {α : Type} : List α → Body α
  | [] => .noData
  | first :: rest => .rows (first :: rest)

/-- Why a load brought no page. -/
inductive LoadFailure where
  /-- A newer load replaced it, or the session ended. -/
  | cancelled
  | error (message : String)
  deriving DecidableEq, Repr

/-- What can happen to a table. -/
inductive Message (α : Type) where
  /-- The table is shown for the first time. -/
  | attach
  | searchTyped (text : String)
  | delayElapsed (ticket : Ticket)
  | limitChanged (limit : UInt32)
  | pageMoved (delta : Int)
  | sortClicked (field : String)
  | refresh
  | loaded (request : RequestId) (page : Page α)
  | loadFailed (request : RequestId) (failure : LoadFailure)
  | idle
  deriving DecidableEq, Repr

/-- What a table asks of its surroundings. -/
inductive Effect where
  | load (request : RequestId) (query : Query)
  | cancel (request : RequestId)
  /-- Come back with the ticket after a delay in milliseconds. -/
  | delay (ticket : Ticket) (milliseconds : Nat)
  deriving DecidableEq, Repr

/-- The state of a table. -/
structure State (α : Type) where
  query : Query
  pageSizes : List UInt32
  searchDelay : Nat
  pendingSearch : String
  ticket : Ticket
  /-- The number of loads issued, which is the identifier of the last one. -/
  issued : UInt64
  inFlight : Option RequestId
  body : Body α
  /-- Whether the body changed since this was last asked. -/
  dirty : Bool
  deriving DecidableEq, Repr

namespace State

variable {α : Type}

/-- A table before its first message. -/
def ofConfig (config : Config) : State α :=
  { query := config.query
    pageSizes := config.pageSizes
    searchDelay := config.searchDelay
    pendingSearch := ""
    ticket := ⟨0⟩
    issued := 0
    inFlight := none
    body := .pending
    dirty := false }

/-- Cancels the load in flight and issues one for the present query. -/
def beginLoad (state : State α) : State α × List Effect :=
  let request : RequestId := ⟨state.issued + 1⟩
  let load := [Effect.load request state.query]
  ({ state with issued := state.issued + 1, inFlight := some request },
    match state.inFlight with
    | some previous => .cancel previous :: load
    | none => load)

/-- Keeps a typed text until its delay has elapsed, under a new ticket. -/
def armSearch (state : State α) (text : String) : State α × List Effect :=
  let ticket : Ticket := ⟨state.ticket.value + 1⟩
  ({ state with pendingSearch := text, ticket := ticket },
    [.delay ticket state.searchDelay])

/-- Moves the pending text into the query, from its first page. The ticket is
used up. -/
def settleSearch (state : State α) : State α :=
  { state with
    query := { state.query with search := state.pendingSearch, page := 1 }
    pendingSearch := ""
    ticket := ⟨state.ticket.value + 1⟩ }

/-- The page that lies `delta` pages further, if there can be one. -/
def pageAt? (page : UInt32) (delta : Int) : Option UInt32 :=
  let target := (page.toNat : Int) + delta
  if 1 ≤ target ∧ target < UInt32.size then some (UInt32.ofNat target.toNat) else none

/-- The query after a click on a column: the chosen column turns around, another
one becomes the chosen one in ascending order. -/
def sortBy (query : Query) (field : String) : Query :=
  if query.sortField = some field then
    { query with sortDirection := query.sortDirection.toggled }
  else
    { query with sortField := some field, sortDirection := .ascending }

/-- Takes a page as the answer to the load in flight. -/
def showPage (state : State α) (page : Page α) : State α :=
  { state with
    inFlight := none
    query := { state.query with totalCount := page.total }
    body := Body.ofItems page.items
    dirty := true }

/-- Takes a failure as the answer to the load in flight. A cancelled load leaves
the body as it is. -/
def showFailure (state : State α) : LoadFailure → State α
  | .cancelled => { state with inFlight := none }
  | .error message =>
    { state with inFlight := none, body := .failed message, dirty := true }

/-- Applies a message and returns the effects it asks for, in order. -/
def update (state : State α) : Message α → State α × List Effect
  | .attach => state.beginLoad
  | .refresh => state.beginLoad
  | .searchTyped text => state.armSearch text
  | .delayElapsed ticket =>
    if ticket = state.ticket then state.settleSearch.beginLoad else (state, [])
  | .limitChanged limit =>
    if limit = 0 then (state, [])
    else { state with query := { state.query with limit := limit, page := 1 } }.beginLoad
  | .pageMoved delta =>
    match pageAt? state.query.page delta with
    | some page => { state with query := { state.query with page := page } }.beginLoad
    | none => (state, [])
  | .sortClicked field => { state with query := sortBy state.query field }.beginLoad
  | .loaded request page =>
    if state.inFlight = some request then (state.showPage page, []) else (state, [])
  | .loadFailed request failure =>
    if state.inFlight = some request then (state.showFailure failure, [])
    else (state, [])
  | .idle => (state, [])

/-- The state with the mark of a changed body taken off. -/
def settled (state : State α) : State α :=
  { state with dirty := false }

end State

end UtilityBilling.Table
