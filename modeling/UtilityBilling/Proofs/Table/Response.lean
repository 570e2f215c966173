/-
# How a table responds to a message

A message to a table does one of four things: it begins a load, it arms a delayed
search, it takes the answer to the load in flight, or it leaves the table as it is.
Everything that is proved of whole runs follows from this case distinction, so that
the transition function is taken apart once, here.
-/

import UtilityBilling.Table.State

namespace UtilityBilling.Table

variable {α : Type}

/-- The load that a message answers, and what it came to. -/
def Message.answer? : Message α → Option (RequestId × Except LoadFailure (Page α))
  | .loaded request page => some (request, .ok page)
  | .loadFailed request failure => some (request, .error failure)
  | _ => none

/-- What is to be seen of the outcome of a load: nothing of a cancellation. -/
def visible? : Except LoadFailure (Page α) → Option (Except String (Page α))
  | .ok page => some (.ok page)
  | .error (.error text) => some (.error text)
  | .error .cancelled => none

namespace State

/-- One state is another one in which the user has changed the query: all that
belongs to loads and to what is shown is the same. -/
structure Edits (edited state : State α) : Prop where
  issued : edited.issued = state.issued
  inFlight : edited.inFlight = state.inFlight
  body : edited.body = state.body
  dirty : edited.dirty = state.dirty
  total : edited.query.totalCount = state.query.totalCount

/-- One state is another one up to a typed text that waits for its delay. -/
structure Alike (state other : State α) : Prop where
  query : state.query = other.query
  issued : state.issued = other.issued
  inFlight : state.inFlight = other.inFlight
  body : state.body = other.body
  dirty : state.dirty = other.dirty

theorem Alike.refl (state : State α) : state.Alike state := ⟨rfl, rfl, rfl, rfl, rfl⟩

theorem Alike.of_eq {state other : State α} (same : state = other) : state.Alike other :=
  same ▸ .refl state

/-- What becomes of a state by the answer to its load. -/
def take (state : State α) : Except LoadFailure (Page α) → State α
  | .ok page => state.showPage page
  | .error failure => state.showFailure failure

/-- An answer leaves no load in flight. -/
@[simp]
theorem take_inFlight (state : State α) (outcome : Except LoadFailure (Page α)) :
    (state.take outcome).inFlight = none := by
  match outcome with
  | .ok page => rfl
  | .error (.error text) => rfl
  | .error .cancelled => rfl

@[simp]
theorem take_issued (state : State α) (outcome : Except LoadFailure (Page α)) :
    (state.take outcome).issued = state.issued := by
  match outcome with
  | .ok page => rfl
  | .error (.error text) => rfl
  | .error .cancelled => rfl

/-- An answer is painted unless it is a cancellation. -/
theorem take_dirty {state : State α} (clean : state.dirty = false)
    (outcome : Except LoadFailure (Page α)) :
    (state.take outcome).dirty = (visible? outcome).isSome := by
  match outcome with
  | .ok page => rfl
  | .error (.error text) => rfl
  | .error .cancelled => exact clean

/-- A state whose mark of a changed body is off is settled. -/
theorem settled_of_clean {state : State α} (clean : state.dirty = false) :
    state.settled = state := by
  simp only [settled]
  rw [← clean]

/-- What a message can do to a state, with the effects that it asks for. -/
inductive Response (state : State α) : Message α → State α × List Effect → Prop where
  /-- A load begins for a query that the user may have changed. -/
  | loads {message : Message α} {edited : State α} (edits : edited.Edits state)
      (noAnswer : message.answer? = none) : Response state message edited.beginLoad
  /-- A typed text waits for its delay. -/
  | arms (text : String) : Response state (.searchTyped text) (state.armSearch text)
  /-- The message changes nothing; an answer does not belong to the load in flight. -/
  | ignores {message : Message α}
      (stale : ∀ request outcome, message.answer? = some (request, outcome) →
        state.inFlight ≠ some request) : Response state message (state, [])
  /-- The load in flight is answered. -/
  | takes {message : Message α} {request : RequestId}
      {outcome : Except LoadFailure (Page α)}
      (answers : message.answer? = some (request, outcome))
      (inFlight : state.inFlight = some request) :
      Response state message (state.take outcome, [])

/-- Every message does one of the four things. -/
theorem update_responds (state : State α) (message : Message α) :
    Response state message (state.update message) := by
  cases message with
  | attach => exact .loads ⟨rfl, rfl, rfl, rfl, rfl⟩ rfl
  | refresh => exact .loads ⟨rfl, rfl, rfl, rfl, rfl⟩ rfl
  | searchTyped text => exact .arms text
  | delayElapsed ticket =>
      rw [update]
      split
      · exact .loads ⟨rfl, rfl, rfl, rfl, rfl⟩ rfl
      · exact .ignores (by simp [Message.answer?])
  | limitChanged limit =>
      rw [update]
      split
      · exact .ignores (by simp [Message.answer?])
      · exact .loads ⟨rfl, rfl, rfl, rfl, rfl⟩ rfl
  | pageMoved delta =>
      rw [update]
      split
      · exact .loads ⟨rfl, rfl, rfl, rfl, rfl⟩ rfl
      · exact .ignores (by simp [Message.answer?])
  | sortClicked field =>
      refine .loads ⟨rfl, rfl, rfl, rfl, ?_⟩ rfl
      unfold sortBy
      split <;> rfl
  | loaded request page =>
      rw [update]
      split
      case isTrue inFlight =>
        have answers : (Message.loaded request page).answer? = some (request, .ok page) := rfl
        exact .takes answers inFlight
      case isFalse stale => exact .ignores (by simpa [Message.answer?] using stale)
  | loadFailed request failure =>
      rw [update]
      split
      case isTrue inFlight =>
        have answers : (Message.loadFailed request failure : Message α).answer? =
            some (request, .error failure) := rfl
        exact .takes answers inFlight
      case isFalse stale => exact .ignores (by simpa [Message.answer?] using stale)
  | idle => exact .ignores (by simp [Message.answer?])

end State

end UtilityBilling.Table
